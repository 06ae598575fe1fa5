import Roshambo.Proofs.AddressTexts

/-! A text may be written in either case, under either checksum and with any fill of its last symbol; the bytes it is
read as are the same in both cases, and have one text that is written for them. -/

namespace Roshambo

namespace Text

lemma sameLetters_toUpper (text : String) : sameLetters text text.toUpper = true := by
  rw [sameLetters, decide_eq_true_eq, lower, lower, String.toUpper, String.toList_map, List.map_map]
  exact List.map_congr_left fun c _ => (toLower_toUpper c).symm

end Text

namespace Bech32

lemma toLower_eq_separator : ∀ c : Char, c.toLower = separator ↔ c = separator :=
  Text.char_cases (by decide) fun c h => by rw [Text.toLower_of_le h]

lemma splitLast_toLower (cs : List Char) : splitLast (cs.map Char.toLower) =
    (splitLast cs).map fun parts => (parts.1.map Char.toLower, parts.2.map Char.toLower) := by
  have hplain : (fun c => decide (c ≠ separator)) ∘ Char.toLower = fun c => decide (c ≠ separator) := by
    funext c
    simp only [Function.comp, ne_eq, toLower_eq_separator]
  simp only [splitLast, ← List.map_reverse, List.takeWhile_map, List.dropWhile_map, hplain]
  cases cs.reverse.dropWhile fun c => decide (c ≠ separator) with
  | nil => rfl
  | cons c before => simp only [List.map_cons, Option.map_some, List.map_reverse]

lemma splitLast_sublist {cs before after : List Char} (h : splitLast cs = some (before, after)) :
    before.Sublist cs := by
  have hall := cs.reverse.takeWhile_append_dropWhile (p := fun c => decide (c ≠ separator))
  simp only [splitLast] at h
  split at h
  · cases h
  · rename_i c rest hdrop
    obtain ⟨rfl, _⟩ := Prod.mk.inj (Option.some.inj h)
    rw [hdrop] at hall
    have hsub : rest.Sublist cs.reverse :=
      hall ▸ ((List.sublist_cons_self c rest).trans (List.sublist_append_right _ _))
    simpa using hsub.reverse

lemma mapM_ofChar?_congr {cs cs' : List Char} (h : cs.map Char.toLower = cs'.map Char.toLower) :
    cs.mapM Symbol.ofChar? = cs'.mapM Symbol.ofChar? := by
  have hlower : ∀ cs : List Char, cs.mapM Symbol.ofChar? =
      (cs.map Char.toLower).mapM fun c => (alphabet.idxOf? c).map (BitVec.ofNat 5) := by
    intro cs
    rw [List.mapM_map]
    rfl
  rw [hlower, h, ← hlower]

lemma mixesCase_sublist {cs cs' : List Char} (h : cs.Sublist cs') (unmixed : mixesCase cs' = false) :
    mixesCase cs = false := by
  simp only [mixesCase, Bool.and_eq_false_iff, List.any_eq_false] at unmixed ⊢
  exact unmixed.imp (fun hall c hc => hall c (h.subset hc)) fun hall c hc => hall c (h.subset hc)

lemma mixesCase_toUpper (text : String) : mixesCase text.toUpper.toList = false := by
  have hlower : (text.toList.map Char.toUpper).any Char.isLower = false := by
    refine List.any_eq_false.mpr fun c hc => ?_
    obtain ⟨c, _, rfl⟩ := List.mem_map.mp hc
    rw [Text.isLower_toUpper]
    exact Bool.false_ne_true
  rw [String.toUpper, String.toList_map, mixesCase, hlower, Bool.and_false]

variable {text text' : String} {decoded : Decoded}

lemma splitLast_of_letters {cs cs' before after : List Char} (letters : cs.map Char.toLower = cs'.map Char.toLower)
    (h : splitLast cs = some (before, after)) : ∃ before' after', splitLast cs' = some (before', after') ∧
      before'.map Char.toLower = before.map Char.toLower ∧ after'.map Char.toLower = after.map Char.toLower := by
  have hsplits := congrArg splitLast letters
  rw [splitLast_toLower, splitLast_toLower, h, Option.map_some, eq_comm, Option.map_eq_some_iff] at hsplits
  obtain ⟨⟨before', after'⟩, hsplit, hparts⟩ := hsplits
  exact ⟨before', after', hsplit, Prod.mk.inj hparts⟩

lemma decode_recased (letters : Text.sameLetters text text') (unmixed : mixesCase text'.toList = false)
    (h : decode text = .ok decoded) : ∃ decoded', decode text' = .ok decoded' ∧
      decoded'.hrp.lower = decoded.hrp.lower ∧ decoded'.bytes = decoded.bytes := by
  obtain ⟨before, after, symbols, hspells⟩ := decode_eq_ok_iff.mp h
  have hlower : text.toList.map Char.toLower = text'.toList.map Char.toLower := of_decide_eq_true letters
  obtain ⟨before', after', hsplit, hbefore, hafter⟩ := splitLast_of_letters hlower hspells.split
  have hletters : before'.map Char.toLower = decoded.hrp.lower := by
    rw [Hrp.lower, Text.lower, hspells.hrp, String.toList_ofList, hbefore]
  have hunmixed : mixesCase before' = false := mixesCase_sublist (splitLast_sublist hsplit) unmixed
  have hrp := decoded.hrp.lower_recased hletters hunmixed
  refine ⟨⟨decoded.hrp.recased before' hletters hunmixed, decoded.bytes⟩,
    decode_eq_ok_iff.mpr ⟨before', after', symbols, ?_⟩, hrp, rfl⟩
  exact
    { split := hsplit, unmixed := unmixed, hrp := rfl, checksum := hspells.checksum, bytes := hspells.bytes
      data := by rw [mapM_ofChar?_congr hafter, hspells.data]
      fits := by
        rw [← String.ofList_toList (s := text'), Text.utf8ByteSize_of_letters hlower.symm, String.ofList_toList]
        exact hspells.fits
      sound := by
        rw [isSound, expand, hrp, ← expand]
        exact hspells.sound }

end Bech32

namespace Bech32Codec

variable {codec : Bech32Codec} {text text' : String} {address address' : Address}

lemma decode_recased (letters : Text.sameLetters text text') (unmixed : Bech32.mixesCase text'.toList = false)
    (h : codec.decode text = .ok address) : codec.decode text' = .ok address := by
  obtain ⟨decoded, hdecode, hprefix, hrange, rfl⟩ := decode_eq_ok_iff.mp h
  obtain ⟨decoded', hdecode', hlower, hbytes⟩ := Bech32.decode_recased letters unmixed hdecode
  refine decode_eq_ok_iff.mpr ⟨decoded', hdecode', ?_, hbytes ▸ hrange, by rw [hbytes]⟩
  have hsame : decoded.hrp.lower = codec.hrp.lower := of_decide_eq_true hprefix
  exact decide_eq_true (hlower.trans hsame)

lemma decode_of_sameLetters (letters : Text.sameLetters text text') (h : codec.decode text = .ok address)
    (h' : codec.decode text' = .ok address') : address = address' := by
  obtain ⟨_, hdecode, _⟩ := decode_eq_ok_iff.mp h'
  obtain ⟨_, _, _, hspells⟩ := Bech32.decode_eq_ok_iff.mp hdecode
  exact Except.ok.inj ((decode_recased letters hspells.unmixed h).symm.trans h')

lemma decode_toUpper (h : codec.decode text = .ok address) : codec.decode text.toUpper = .ok address :=
  decode_recased (Text.sameLetters_toUpper text) (Bech32.mixesCase_toUpper text) h

lemma decode_encode_of_decode (h : codec.decode text = .ok address) :
    ∃ written, codec.encode address = .ok written ∧ codec.decode written = .ok address := by
  obtain ⟨hpos, hlength⟩ := length_of_decode h
  exact decode_encode (List.ne_nil_of_length_pos hpos) hlength

lemma new_eq_ok_iff : new text = .ok codec ↔ codec.hrp.text = text := by
  rw [← Bech32.Hrp.parse_eq_ok_iff, new]
  cases Bech32.Hrp.parse text with
  | error fault => simp
  | ok hrp =>
    cases codec
    simp

/-- Under every prefix that is taken, an address of one to 255 bytes is written as a text that is read as it, also in
upper case; no text is read as an address of another length. So different addresses have different texts, and whatever
is read, under either checksum, in either case and with any fill, is written and read again as the same address. -/
theorem address_round_trip {name : String} {codec : Bech32Codec} (taken : new name = .ok codec) :
    (codec.hrp.text = name ∧ 1 ≤ name.length ∧ name.length ≤ 83) ∧
      (∀ address : Address, 1 ≤ address.bytes.length → address.bytes.length ≤ 255 →
        ∃ text, codec.encode address = .ok text ∧ codec.decode text = .ok address ∧
          codec.decode text.toUpper = .ok address) ∧
      (∀ text address, codec.decode text = .ok address → 1 ≤ address.bytes.length ∧ address.bytes.length ≤ 255) ∧
      (∀ address address' : Address, (1 ≤ address.bytes.length ∧ address.bytes.length ≤ 255) →
        (1 ≤ address'.bytes.length ∧ address'.bytes.length ≤ 255) → codec.encode address = codec.encode address' →
          address = address') ∧
      ∀ text address, codec.decode text = .ok address →
        ∃ written, codec.encode address = .ok written ∧ codec.decode written = .ok address := by
  have hname : codec.hrp.text = name := new_eq_ok_iff.mp taken
  have hwritten : ∀ address : Address, 1 ≤ address.bytes.length → address.bytes.length ≤ 255 →
      ∃ text, codec.encode address = .ok text ∧ codec.decode text = .ok address := fun address hpos hlength =>
    decode_encode (List.ne_nil_of_length_pos hpos) hlength
  refine ⟨⟨hname, hname ▸ codec.hrp.length_le⟩, ?_, fun _ _ hread => length_of_decode hread, ?_,
    fun _ _ hread => decode_encode_of_decode hread⟩
  · intro address hpos hlength
    obtain ⟨text, hencode, hdecode⟩ := hwritten address hpos hlength
    exact ⟨text, hencode, hdecode, decode_toUpper hdecode⟩
  · rintro address address' ⟨hpos, hlength⟩ ⟨hpos', hlength'⟩ hsame
    obtain ⟨text, hencode, hdecode⟩ := hwritten address hpos hlength
    obtain ⟨text', hencode', hdecode'⟩ := hwritten address' hpos' hlength'
    obtain rfl : text = text' := Except.ok.inj (hencode.symm.trans (hsame.trans hencode'))
    exact Except.ok.inj (hdecode.symm.trans hdecode')

end Bech32Codec

def Sample.separated : Bech32Codec := ⟨⟨"A1B", by decide +kernel⟩⟩

/-- The text of the second checksum, in upper case and with a fill that is not zero, is read and written anew. -/
theorem Bech32Codec.address_round_trip_separated :
    Sample.separated.decode "A1B1QXZDDNH8" = .ok ⟨[1]⟩ ∧ Sample.separated.encode ⟨[1]⟩ = .ok "a1b1qyy5uupg" ∧
      Sample.separated.decode "a1b1qyy5uupg" = .ok ⟨[1]⟩ ∧ Sample.separated.decode "A1B1QYY5UUPG" = .ok ⟨[1]⟩ := by
  have taken : new "A1B" = .ok Sample.separated := by decide +kernel
  have hread : Sample.separated.decode "A1B1QXZDDNH8" = .ok ⟨[1]⟩ := by decide +kernel
  have hencode : Sample.separated.encode ⟨[1]⟩ = .ok "a1b1qyy5uupg" := by decide +kernel
  have hupper : "a1b1qyy5uupg".toUpper = "A1B1QYY5UUPG" := by decide +kernel
  obtain ⟨_, written, _, _, again⟩ := address_round_trip taken
  obtain ⟨text, htext, hdecode⟩ := again _ _ hread
  obtain rfl := Except.ok.inj (htext.symm.trans hencode)
  obtain ⟨text, htext, _, hshout⟩ := written ⟨[1]⟩ (by decide) (by decide)
  obtain rfl := Except.ok.inj (htext.symm.trans hencode)
  exact ⟨hread, hencode, hdecode, hupper ▸ hshout⟩

end Roshambo
