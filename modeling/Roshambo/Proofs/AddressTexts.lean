import Mathlib.Data.List.TakeWhile
import Mathlib.Data.String.Basic
import Mathlib.Tactic.Common
import Roshambo.Address.Codec
import Roshambo.Proofs.Checksum
import Roshambo.Proofs.Outcome
import Roshambo.Proofs.Regrouping

namespace Roshambo

namespace Text

def IsVisible (c : Char) : Prop := 33 ≤ c.toNat ∧ c.toNat ≤ 126

instance (c : Char) : Decidable (IsVisible c) := inferInstanceAs (Decidable (_ ∧ _))

lemma toLower_of_le {c : Char} (h : 127 ≤ c.toNat) : c.toLower = c := by
  refine dif_neg fun hupper => ?_
  have hhigh : c.toNat ≤ 90 := hupper.2
  omega

lemma toUpper_of_le {c : Char} (h : 127 ≤ c.toNat) : c.toUpper = c := by
  refine dif_neg fun hlower => ?_
  have hhigh : c.toNat ≤ 122 := hlower.2
  omega

/-- Letters of two cases are ASCII, so what case does to a character is decided by the codes below 127. -/
lemma char_cases {p : Char → Prop} (ascii : ∀ n < 127, p (Char.ofNat n)) (beyond : ∀ c : Char, 127 ≤ c.toNat → p c)
    (c : Char) : p c := by
  by_cases h : c.toNat < 127
  · simpa only [Char.ofNat_toNat] using ascii c.toNat h
  · exact beyond c (Nat.not_lt.mp h)

lemma toLower_toLower : ∀ c : Char, c.toLower.toLower = c.toLower :=
  char_cases (by decide) fun c h => by rw [toLower_of_le h, toLower_of_le h]

lemma toLower_toUpper : ∀ c : Char, c.toUpper.toLower = c.toLower :=
  char_cases (by decide) fun c h => by rw [toUpper_of_le h]

lemma isVisible_toLower : ∀ c : Char, IsVisible c.toLower ↔ IsVisible c :=
  char_cases (by decide) fun c h => by rw [toLower_of_le h]

lemma utf8Size_toLower : ∀ c : Char, c.toLower.utf8Size = c.utf8Size :=
  char_cases (by decide) fun c h => by rw [toLower_of_le h]

lemma isUpper_toLower : ∀ c : Char, c.toLower.isUpper = false :=
  char_cases (by decide) fun c h => by
    rw [toLower_of_le h]
    refine decide_eq_false fun hupper => ?_
    have hhigh : c.toNat ≤ 90 := hupper.2
    omega

lemma isLower_toUpper : ∀ c : Char, c.toUpper.isLower = false :=
  char_cases (by decide) fun c h => by
    rw [toUpper_of_le h]
    refine Bool.and_eq_false_imp.mpr fun _ => decide_eq_false fun hle => ?_
    have hhigh : c.toNat ≤ 122 := hle
    omega

lemma utf8ByteSize_of_visible {cs : List Char} (h : ∀ c ∈ cs, IsVisible c) :
    (String.ofList cs).utf8ByteSize = cs.length := by
  rw [String.utf8ByteSize_ofList]
  induction cs with
  | nil => rfl
  | cons c rest ih =>
    obtain ⟨⟨_, hc⟩, hrest⟩ := List.forall_mem_cons.mp h
    have hsize : c.utf8Size = 1 := Char.utf8Size_eq_one_iff.mpr (UInt32.le_iff_toNat_le.mpr (by
      show c.toNat ≤ 127
      omega))
    rw [String.utf8Len_cons, hsize, ih hrest, List.length_cons]

lemma utf8ByteSize_of_letters {cs cs' : List Char} (letters : cs.map Char.toLower = cs'.map Char.toLower) :
    (String.ofList cs).utf8ByteSize = (String.ofList cs').utf8ByteSize := by
  have hlower : ∀ cs : List Char, String.utf8Len (cs.map Char.toLower) = String.utf8Len cs := by
    intro cs
    induction cs with
    | nil => rfl
    | cons c rest ih => rw [List.map_cons, String.utf8Len_cons, String.utf8Len_cons, ih, utf8Size_toLower]
  rw [String.utf8ByteSize_ofList, String.utf8ByteSize_ofList, ← hlower cs, letters, hlower]

end Text

namespace Bech32

lemma firstFault_eq_none {upper lower : Bool} {cs : List Char} (h : firstFault upper lower cs = none) :
    ∀ c ∈ cs, Text.IsVisible c := by
  induction cs generalizing upper lower with
  | nil => simp
  | cons c rest ih =>
    simp only [firstFault] at h
    split_ifs at h with _ hvisible _
    have hc : Text.IsVisible c := by
      unfold Text.IsVisible
      omega
    exact List.forall_mem_cons.mpr ⟨hc, ih h⟩

lemma firstFault_of_unmixed {upper lower : Bool} {cs : List Char} (visible : ∀ c ∈ cs, Text.IsVisible c)
    (unmixed : ((upper || cs.any Char.isUpper) && (lower || cs.any Char.isLower)) = false) :
    firstFault upper lower cs = none := by
  induction cs generalizing upper lower with
  | nil => rfl
  | cons c rest ih =>
    obtain ⟨⟨hlow, hhigh⟩, hrest⟩ := List.forall_mem_cons.mp visible
    simp only [List.any_cons, ← Bool.or_assoc] at unmixed
    have hcase : ¬ ((c.isLower ∧ upper) ∨ (c.isUpper ∧ lower)) := by
      rintro (⟨hc, hseen⟩ | ⟨hc, hseen⟩) <;> simp [hc, hseen] at unmixed
    rw [firstFault, if_neg (by omega), if_neg (by omega), if_neg hcase, ih hrest unmixed]

lemma hrpFault?_eq_none_iff {cs : List Char} : hrpFault? (String.ofList cs) = none ↔
    cs ≠ [] ∧ (String.ofList cs).utf8ByteSize ≤ maxHrpBytes ∧ firstFault false false cs = none := by
  rw [hrpFault?, String.toList_ofList]
  by_cases hnil : cs = []
  · simp [hnil]
  · have hne : String.ofList cs ≠ "" := fun h => hnil (by simpa using congrArg String.toList h)
    by_cases hlong : maxHrpBytes < (String.ofList cs).utf8ByteSize
    · simp [hne, hlong, Nat.not_le.mpr hlong]
    · simp [hnil, hne, hlong, Nat.not_lt.mp hlong]

namespace Hrp

lemma checked (hrp : Hrp) : hrp.text.toList ≠ [] ∧ hrp.text.utf8ByteSize ≤ maxHrpBytes ∧
    firstFault false false hrp.text.toList = none := by
  have h := hrp.sound
  rwa [← String.ofList_toList (s := hrp.text), hrpFault?_eq_none_iff, String.ofList_toList] at h

lemma visible (hrp : Hrp) : ∀ c ∈ hrp.text.toList, Text.IsVisible c := firstFault_eq_none hrp.checked.2.2

lemma length_le (hrp : Hrp) : 1 ≤ hrp.text.toList.length ∧ hrp.text.toList.length ≤ maxHrpBytes := by
  obtain ⟨hne, hlong, _⟩ := hrp.checked
  rw [← String.ofList_toList (s := hrp.text), Text.utf8ByteSize_of_visible hrp.visible] at hlong
  exact ⟨List.length_pos_iff.mpr hne, hlong⟩

lemma length_lower (hrp : Hrp) : hrp.lower.length = hrp.text.toList.length := List.length_map ..

lemma mem_lower (hrp : Hrp) : ∀ c ∈ hrp.lower, Text.IsVisible c ∧ c.isUpper = false := by
  intro c hc
  obtain ⟨c, hmem, rfl⟩ := List.mem_map.mp hc
  exact ⟨(Text.isVisible_toLower c).mpr (hrp.visible c hmem), Text.isUpper_toLower c⟩

def recased (hrp : Hrp) (cs : List Char) (letters : cs.map Char.toLower = hrp.lower)
    (unmixed : mixesCase cs = false) : Hrp where
  text := String.ofList cs
  sound := by
    obtain ⟨hne, hlong, _⟩ := hrp.checked
    rw [hrpFault?_eq_none_iff]
    refine ⟨?_, ?_, firstFault_of_unmixed (fun c hc => ?_) (by simpa [mixesCase] using unmixed)⟩
    · rintro rfl
      exact hne (List.map_eq_nil_iff.mp letters.symm)
    · rwa [Text.utf8ByteSize_of_letters letters, String.ofList_toList]
    · have hlower := (hrp.mem_lower c.toLower (letters ▸ List.mem_map_of_mem hc)).1
      exact (Text.isVisible_toLower c).mp hlower

lemma toLower_lower (hrp : Hrp) : hrp.lower.map Char.toLower = hrp.lower := by
  rw [lower, Text.lower, List.map_map]
  exact List.map_congr_left fun c _ => Text.toLower_toLower c

lemma unmixed_lower (hrp : Hrp) : mixesCase hrp.lower = false := by
  have hupper : hrp.lower.any Char.isUpper = false := List.any_eq_false.mpr fun c hc => by simp [(hrp.mem_lower c hc).2]
  rw [mixesCase, hupper, Bool.false_and]

def lowered (hrp : Hrp) : Hrp := hrp.recased hrp.lower hrp.toLower_lower hrp.unmixed_lower

lemma lower_recased (hrp : Hrp) {cs : List Char} (letters : cs.map Char.toLower = hrp.lower)
    (unmixed : mixesCase cs = false) : (hrp.recased cs letters unmixed).lower = hrp.lower := by
  rw [lower, Text.lower, recased, String.toList_ofList, letters]

lemma lower_lowered (hrp : Hrp) : hrp.lowered.lower = hrp.lower := hrp.lower_recased _ _

lemma parse_eq_ok_iff {text : String} {hrp : Hrp} : Hrp.parse text = .ok hrp ↔ hrp.text = text := by
  unfold Hrp.parse
  split
  · rename_i fault h
    simp only [reduceCtorEq, false_iff]
    rintro rfl
    rw [hrp.sound] at h
    cases h
  · rw [Except.ok.injEq, eq_comm]
    cases hrp
    rw [Hrp.mk.injEq]

end Hrp

lemma mem_alphabet : ∀ s : Symbol, Text.IsVisible s.toChar ∧ s.toChar.isUpper = false ∧ s.toChar ≠ separator := by
  unfold Text.IsVisible
  decide

lemma splitLast_append {before after : List Char} (h : ∀ c ∈ after, c ≠ separator) :
    splitLast (before ++ separator :: after) = some (before, after) := by
  have hplain : ∀ c ∈ after.reverse, decide (c ≠ separator) = true := fun c hc =>
    decide_eq_true (h c (List.mem_reverse.mp hc))
  rw [splitLast, List.reverse_append, List.reverse_cons, List.append_assoc, List.singleton_append,
    List.takeWhile_append_of_pos hplain, List.dropWhile_append_of_pos hplain]
  simp

def written (hrp : Hrp) (bytes : List UInt8) : List Char :=
  hrp.lower ++ separator :: (symbolsOfBytes bytes ++ checksum hrp (symbolsOfBytes bytes)).map Symbol.toChar

lemma mem_written {hrp : Hrp} {bytes : List UInt8} :
    ∀ c ∈ written hrp bytes, Text.IsVisible c ∧ c.isUpper = false := by
  have hseparator : Text.IsVisible separator ∧ separator.isUpper = false := by
    unfold Text.IsVisible
    decide
  intro c hc
  rcases List.mem_append.mp hc with hc | hc
  · exact hrp.mem_lower c hc
  · rcases List.mem_cons.mp hc with rfl | hc
    · exact hseparator
    · obtain ⟨s, _, rfl⟩ := List.mem_map.mp hc
      exact ⟨(mem_alphabet s).1, (mem_alphabet s).2.1⟩

lemma length_written (hrp : Hrp) {bytes : List UInt8} (h : bytes.length ≤ Bech32Codec.maxAddressLength) :
    (written hrp bytes).length ≤ maxLength := by
  have hhrp := hrp.length_le.2
  have hdata := length_symbolsOfBytes bytes
  have hchecksum : (checksum hrp (symbolsOfBytes bytes)).length = checksumLength := rfl
  rw [written, List.length_append, List.length_cons, List.length_map, List.length_append, hrp.length_lower]
  simp only [Bech32Codec.maxAddressLength, maxHrpBytes, maxLength, checksumLength] at *
  omega

lemma encode?_eq_some (hrp : Hrp) {bytes : List UInt8} (h : bytes.length ≤ Bech32Codec.maxAddressLength) :
    encode? hrp bytes = some (String.ofList (written hrp bytes)) :=
  if_pos (length_written hrp h)

lemma mixesCase_written (hrp : Hrp) (bytes : List UInt8) : mixesCase (written hrp bytes) = false := by
  have hupper : (written hrp bytes).any Char.isUpper = false :=
    List.any_eq_false.mpr fun c hc => by simp [(mem_written c hc).2]
  rw [mixesCase, hupper, Bool.false_and]

structure Spells (text : String) (before after : List Char) (symbols : List Symbol) (decoded : Decoded) : Prop where
  split : splitLast text.toList = some (before, after)
  data : after.mapM Symbol.ofChar? = some symbols
  unmixed : mixesCase text.toList = false
  hrp : decoded.hrp.text = String.ofList before
  fits : text.utf8ByteSize ≤ maxLength
  checksum : checksumLength ≤ symbols.length
  sound : isSound decoded.hrp symbols = true
  bytes : decoded.bytes = bytesOfSymbols (symbols.take (symbols.length - checksumLength))

lemma decode_eq_ok_iff {text : String} {decoded : Decoded} :
    decode text = .ok decoded ↔ ∃ before after symbols, Spells text before after symbols decoded := by
  constructor
  · intro h
    simp only [decode] at h
    split at h
    · rename_i before after hsplit
      split at h
      · rename_i symbols hsymbols
        simp only [throw_bind, guard_eq_ok_iff, bind_eq_ok_iff, mapError_eq_ok_iff, Hrp.parse_eq_ok_iff, not_or,
          Nat.not_lt, not_not] at h
        obtain ⟨hunmixed, hrp, hhrp, ⟨hfits, hlength, hsound⟩, h⟩ := h
        obtain rfl := Except.ok.inj h
        exact ⟨before, after, symbols, hsplit, hsymbols, Bool.eq_false_iff.mpr hunmixed, hhrp, hfits, hlength, hsound,
          rfl⟩
      · cases h
    · cases h
  · rintro ⟨before, after, symbols, h⟩
    have hfits : ¬ (maxLength < text.utf8ByteSize ∨ symbols.length < checksumLength ∨
        ¬ isSound decoded.hrp symbols = true) := by
      simp only [h.sound, not_true, or_false, not_or, Nat.not_lt]
      exact ⟨h.fits, h.checksum⟩
    simp only [decode, h.split, h.data, h.unmixed, Bool.false_eq_true, if_false, bind_eq_ok_iff, mapError_eq_ok_iff,
      Hrp.parse_eq_ok_iff]
    refine ⟨decoded.hrp, h.hrp, (if_neg hfits).trans ?_⟩
    rw [← h.bytes]
    rfl

lemma spells_written (hrp : Hrp) {bytes : List UInt8} (h : bytes.length ≤ Bech32Codec.maxAddressLength) :
    ∃ before after symbols, Spells (String.ofList (written hrp bytes)) before after symbols ⟨hrp.lowered, bytes⟩ := by
  set data := symbolsOfBytes bytes with hdata
  have hlength : (data ++ checksum hrp data).length = data.length + checksumLength := List.length_append
  refine ⟨hrp.lower, (data ++ checksum hrp data).map Symbol.toChar, data ++ checksum hrp data,
    { split := ?split, data := mapM_map_eq_some Symbol.ofChar?_toChar _, unmixed := ?unmixed, hrp := rfl,
      fits := ?fits, checksum := ?checksum, sound := ?sound, bytes := ?bytes }⟩
  case split =>
    rw [String.toList_ofList]
    apply splitLast_append
    intro c hc
    obtain ⟨s, _, rfl⟩ := List.mem_map.mp hc
    exact (mem_alphabet s).2.2
  case unmixed =>
    rw [String.toList_ofList, mixesCase_written]
  case fits =>
    rw [Text.utf8ByteSize_of_visible fun c hc => (mem_written c hc).1]
    exact length_written hrp h
  case checksum =>
    rw [hlength]
    exact Nat.le_add_left _ _
  case sound =>
    rw [isSound, expand, hrp.lower_lowered, ← expand]
    exact isSound_checksum hrp data
  case bytes =>
    rw [hlength, Nat.add_sub_cancel, List.take_left, hdata, bytesOfSymbols_symbolsOfBytes]

lemma Spells.dropBlanks_ne_nil {text : String} {before after : List Char} {symbols : List Symbol} {decoded : Decoded}
    (h : Spells text before after symbols decoded) : Text.dropBlanks text.toList ≠ [] := by
  intro hnil
  have hsplit := h.split
  have hplain : text.toList.reverse.dropWhile (fun c => decide (c ≠ separator)) = [] := by
    rw [List.dropWhile_eq_nil_iff]
    intro c hc
    have hblank := List.dropWhile_eq_nil_iff.mp hnil c (List.mem_reverse.mp hc)
    rw [decide_eq_true_eq]
    rintro rfl
    exact absurd hblank (by decide)
  rw [splitLast, hplain] at hsplit
  cases hsplit

end Bech32

namespace Bech32Codec

variable {codec : Bech32Codec} {text : String} {address : Address}

lemma decode_eq_ok_iff : codec.decode text = .ok address ↔
    ∃ decoded, Bech32.decode text = .ok decoded ∧ Text.sameLetters decoded.hrp.text codec.hrp.text = true ∧
      (decoded.bytes ≠ [] ∧ decoded.bytes.length ≤ maxAddressLength) ∧ address = ⟨decoded.bytes⟩ := by
  constructor
  · intro h
    simp only [decode] at h
    split at h
    · cases h
    · split at h
      · cases h
      · rename_i hrp bytes hdecode
        simp only [guard_eq_ok_iff, not_or, Nat.not_lt, not_not] at h
        obtain ⟨hletters, hrange, h⟩ := h
        exact ⟨⟨hrp, bytes⟩, hdecode, hletters, hrange, (Except.ok.inj h).symm⟩
  · rintro ⟨decoded, hdecode, hletters, hrange, rfl⟩
    obtain ⟨_, _, _, hspells⟩ := Bech32.decode_eq_ok_iff.mp hdecode
    have hbounds : ¬ (decoded.bytes = [] ∨ maxAddressLength < decoded.bytes.length) :=
      not_or.mpr ⟨hrange.1, Nat.not_lt.mpr hrange.2⟩
    rw [decode, if_neg hspells.dropBlanks_ne_nil, hdecode]
    simp only [hletters, not_true, if_false, if_neg hbounds]

lemma length_of_decode (h : codec.decode text = .ok address) :
    1 ≤ address.bytes.length ∧ address.bytes.length ≤ 255 := by
  obtain ⟨decoded, _, _, ⟨hne, hlength⟩, rfl⟩ := decode_eq_ok_iff.mp h
  exact ⟨List.length_pos_iff.mpr hne, hlength⟩

lemma encode_eq_ok (hne : address.bytes ≠ []) (h : address.bytes.length ≤ maxAddressLength) :
    codec.encode address = .ok (String.ofList (Bech32.written codec.hrp address.bytes)) := by
  rw [encode, if_neg hne, Bech32.encode?_eq_some codec.hrp h]

lemma decode_encode (hne : address.bytes ≠ []) (h : address.bytes.length ≤ maxAddressLength) :
    ∃ text, codec.encode address = .ok text ∧ codec.decode text = .ok address := by
  refine ⟨_, encode_eq_ok hne h, decode_eq_ok_iff.mpr ⟨⟨codec.hrp.lowered, address.bytes⟩, ?_, ?_, ⟨hne, h⟩, rfl⟩⟩
  · exact Bech32.decode_eq_ok_iff.mpr (Bech32.spells_written codec.hrp h)
  · exact decide_eq_true codec.hrp.lower_lowered

end Bech32Codec

end Roshambo
