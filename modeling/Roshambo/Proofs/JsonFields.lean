import Roshambo.Json.Fields
import Roshambo.Proofs.JsonTexts
import Roshambo.Proofs.Outcome

namespace Roshambo.Json

open Decimal

lemma isPrintable_ofNat (n : Nat) : IsPrintable (ofNat n) := by
  rw [ofNat, IsPrintable, String.toList_ofList]
  exact isLiteral_digits n

lemma isPrintable_ofText (text : String) : IsPrintable (ofText text) := rfl

lemma isPrintable_array {items : List Json} : IsPrintable (.array items) ↔ ∀ item ∈ items, IsPrintable item := by
  rw [IsPrintable]
  induction items with
  | nil => simp [ArePrintable]
  | cons item items ih => rw [ArePrintable, ih, List.forall_mem_cons]

lemma isPrintable_record {members : List (String × Json)} :
    IsPrintable (record members) ↔ ∀ m ∈ members, IsPrintable m.2 := by
  rw [record, IsPrintable]
  induction members with
  | nil => simp [MembersPrintable]
  | cons m members ih => rw [List.map_cons, MembersPrintable, ih, List.forall_mem_cons, Option.isSome_some]; simp

lemma isPrintable_ofOption {α : Type} {encode : α → Json} {o : Option α} (h : ∀ a, IsPrintable (encode a)) :
    IsPrintable (ofOption encode o) := by
  cases o with
  | none => trivial
  | some a => exact h a

lemma word?_ofWord (n : UInt64) : (ofWord n).word? = some n := by
  rw [ofWord, ofNat, word?, String.toList_ofList, read?_digits]
  simp only [if_pos n.toNat_lt_size, UInt64.ofNat_toNat]

lemma text?_ofText (text : String) : (ofText text).text? = some text := rfl

lemma list?_array {α : Type} {encode : α → Json} {decode : Json → Option α} (h : ∀ a, decode (encode a) = some a)
    (items : List α) : list? decode (.array (items.map encode)) = some items := by
  rw [list?, mapM_map_eq_some h]

lemma nullable?_ofOption {α : Type} {encode : α → Json} {decode : Json → Option α} (hnull : ∀ a, encode a ≠ .null)
    (h : ∀ a, decode (encode a) = some a) (o : Option α) : nullable? decode (ofOption encode o) = some o := by
  cases o with
  | none => rfl
  | some a =>
    rw [ofOption, nullable?, h]
    · rfl
    · exact hnull a

section Records

variable {members : List (String × Json)}

lemma filter_record (hnodup : (members.map (·.1)).Nodup) {m : String × Json} (hm : m ∈ members) :
    (members.map fun m => (some m.1, m.2)).filter (·.1 = some m.1) = [(some m.1, m.2)] := by
  induction members with
  | nil => cases hm
  | cons a rest ih =>
    obtain ⟨hout, hnodup⟩ := List.nodup_cons.mp hnodup
    rw [List.map_cons]
    rcases List.mem_cons.mp hm with rfl | hm
    · rw [List.filter_cons_of_pos (by simp), List.filter_eq_nil_iff.mpr]
      intro e he heq
      obtain ⟨m', hm', rfl⟩ := List.mem_map.mp he
      have hkey : m'.1 = m.1 := by simpa using heq
      exact hout (List.mem_map.mpr ⟨m', hm', hkey⟩)
    · have hne : a.1 ≠ m.1 := fun heq => hout (List.mem_map.mpr ⟨m, hm, heq.symm⟩)
      rw [List.filter_cons_of_neg (by simpa using hne), ih hnodup hm]

lemma members?_record (hnodup : (members.map (·.1)).Nodup) :
    members? (members.map (·.1)) (members.map fun m => (some m.1, m.2)) = some (members.map fun m => some m.2) := by
  have hall : ∀ part : List (String × Json), (∀ m ∈ part, m ∈ members) →
      (part.map (·.1)).mapM (member? · (members.map fun m => (some m.1, m.2))) = some (part.map fun m => some m.2) := by
    intro part hpart
    induction part with
    | nil => rfl
    | cons m rest ih =>
      obtain ⟨hm, hrest⟩ := List.forall_mem_cons.mp hpart
      rw [List.map_cons, List.mapM_cons, member?, filter_record hnodup hm, ih hrest]
      rfl
  rw [members?, if_pos (by simp), hall members fun _ hm => hm]

lemma fields?_record {names : List String} (least : Nat) (hnames : members.map (·.1) = names := by rfl)
    (hnodup : names.Nodup := by decide) :
    (record members).fields? names least = some (members.map fun m => some m.2) := by
  subst hnames
  exact members?_record hnodup

lemma takeIn_of_lt {n : Nat} {cs : List Char} (h : cs.foldl (fun n c => 10 * n + digitValue c) n < UInt64.size) :
    Numeral.takeIn n cs = (cs.foldl (fun n c => 10 * n + digitValue c) n, 0) := by
  have hle : ∀ (cs : List Char) (n : Nat), n ≤ cs.foldl (fun n c => 10 * n + digitValue c) n := by
    intro cs
    induction cs with
    | nil => exact fun _ => Nat.le_refl _
    | cons c cs ih => exact fun n => Nat.le_trans (show n ≤ 10 * n + digitValue c by omega) (ih _)
  induction cs generalizing n with
  | nil => rfl
  | cons c cs ih => rw [Numeral.takeIn, if_pos (Nat.lt_of_le_of_lt (hle cs _) h), ih h]; rfl

lemma isFinite_digits {n : Nat} (h : n < UInt64.size) : isFinite (String.ofList (digits n)) = true := by
  have hword : Numeral.unsigned? (digits n) = some (.word n) := by
    have hall : (digits n).all Char.isDigit = true := List.all_eq_true.mpr isDigit_of_mem_digits
    have htake : Numeral.takeIn 0 (digits n) = (n, 0) := by
      have hvalue : (digits n).foldl (fun n c => 10 * n + digitValue c) 0 = n := value_digits n
      rw [takeIn_of_lt (hvalue.symm ▸ h), hvalue]
    rw [Numeral.unsigned?, hall, htake]
    rfl
  rw [isFinite, Numeral.read?, String.toList_ofList]
  obtain ⟨c, cs, hcs⟩ := List.exists_cons_of_ne_nil (digits_ne_nil n)
  have hdigit := isDigit_of_mem_digits c (hcs ▸ List.mem_cons_self)
  split
  · rename_i heq
    rw [hcs] at heq
    rw [(List.cons.inj heq).1] at hdigit
    exact absurd hdigit (by decide)
  · rw [hword]
    rfl

lemma isKeepable_ofWord (depth : Nat) (n : UInt64) : isKeepable depth (ofWord n) = true := by
  rw [ofWord, ofNat, isKeepable, isFinite_digits n.toNat_lt_size]

lemma isKeepable_ofText (depth : Nat) (text : String) : isKeepable depth (ofText text) = true := rfl

lemma keptFields?_record {names : List String} {depth : Nat} (hkeep : ∀ m ∈ members, isKeepable (depth + 1) m.2 = true)
    (hnames : members.map (·.1) = names := by rfl) (hnodup : names.Nodup := by decide) :
    (record members).keptFields? names depth = some (members.map fun m => some m.2) := by
  subst hnames
  have hall : membersKeepable (depth + 1) (members.map fun m => (some m.1, m.2)) = true := by
    clear hnodup
    induction members with
    | nil => rfl
    | cons m rest ih =>
      obtain ⟨hm, hrest⟩ := List.forall_mem_cons.mp hkeep
      rw [List.map_cons, membersKeepable, hm, ih hrest]
      rfl
  rw [record, keptFields?, if_pos hall, members?_record hnodup]

end Records

end Roshambo.Json
