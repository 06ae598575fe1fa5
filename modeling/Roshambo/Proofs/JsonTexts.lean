import Roshambo.Json.Printer
import Roshambo.Json.Reader
import Roshambo.Proofs.Decimals

/-! In either layout a value is found again under any fuel that is twice as long as its text. -/

namespace Roshambo.Json

open Decimal

section Strings

lemma readPieces_short {e c : Char} (hu : e ≠ 'u') (h : escaped? e = some c) (rest : List Char) :
    readPieces ('\\' :: e :: rest) = (readPieces rest).map fun r => (.char c :: r.1, r.2) := by
  rw [readPieces, h]
  · cases readPieces rest <;> rfl
  · intro _ _ _ _ _ he
    exact (hu he).elim

lemma readPieces_plain {c : Char} (hquote : c ≠ '"') (hslash : c ≠ '\\') (h : 32 ≤ c.toNat) (rest : List Char) :
    readPieces (c :: rest) = (readPieces rest).map fun r => (.char c :: r.1, r.2) := by
  rw [readPieces]
  · rw [if_neg (by omega)]
  all_goals simp [hquote, hslash]

lemma codeUnit?_digits : ∀ n < 32, codeUnit? '0' '0' (Nat.digitChar (n / 16)) (Nat.digitChar (n % 16)) = some n := by
  decide

lemma readPieces_unit {n : Nat} (h : n < 32) (rest : List Char) :
    readPieces (['\\', 'u', '0', '0', Nat.digitChar (n / 16), Nat.digitChar (n % 16)] ++ rest) =
      (readPieces rest).map fun r => (.unit n :: r.1, r.2) := by
  simp only [List.cons_append, List.nil_append, readPieces, codeUnit?_digits n h]
  cases readPieces rest <;> rfl

lemma join?_unit {n : Nat} (h : n < 32) (pieces : List Piece) :
    join? (.unit n :: pieces) = (join? pieces).map (Char.ofNat n :: ·) := by
  have hhigh : isHighSurrogate n = false := by
    simp [isHighSurrogate]
    omega
  have hlow : isLowSurrogate n = false := by
    simp [isLowSurrogate]
    omega
  cases pieces with
  | nil => simp [join?, hhigh, hlow]
  | cons p rest => cases p <;> simp [join?, hhigh, hlow]

lemma readPieces_escape (c : Char) :
    ∃ p, (∀ rest, readPieces (escape c ++ rest) = (readPieces rest).map fun r => (p :: r.1, r.2)) ∧
      ∀ pieces, join? (p :: pieces) = (join? pieces).map (c :: ·) := by
  have hshort : ∀ e, e ≠ 'u' → escaped? e = some c → escape c = ['\\', e] →
      ∃ p, (∀ rest, readPieces (escape c ++ rest) = (readPieces rest).map fun r => (p :: r.1, r.2)) ∧
        ∀ pieces, join? (p :: pieces) = (join? pieces).map (c :: ·) := by
    intro e hu he hescape
    exact ⟨.char c, fun rest => hescape ▸ readPieces_short hu he rest, fun _ => rfl⟩
  by_cases hshorts : c ∈ ['"', '\\', '\x08', '\x0c', '\n', '\r', '\t']
  · simp only [List.mem_cons, List.not_mem_nil, or_false] at hshorts
    rcases hshorts with rfl | rfl | rfl | rfl | rfl | rfl | rfl
    · exact hshort '"' (by decide) rfl rfl
    · exact hshort '\\' (by decide) rfl rfl
    · exact hshort 'b' (by decide) rfl rfl
    · exact hshort 'f' (by decide) rfl rfl
    · exact hshort 'n' (by decide) rfl rfl
    · exact hshort 'r' (by decide) rfl rfl
    · exact hshort 't' (by decide) rfl rfl
  · simp only [List.mem_cons, List.not_mem_nil, or_false, not_or] at hshorts
    obtain ⟨hquote, hslash, hb, hf, hn, hr, ht⟩ := hshorts
    by_cases hcode : c.toNat < 32
    · refine ⟨.unit c.toNat, fun rest => ?_, fun pieces => ?_⟩
      · rw [escape, if_neg hquote, if_neg hslash, if_neg hb, if_neg hf, if_neg hn, if_neg hr, if_neg ht, if_pos hcode]
        exact readPieces_unit hcode rest
      · rw [join?_unit hcode, Char.ofNat_toNat]
    · refine ⟨.char c, fun rest => ?_, fun _ => rfl⟩
      rw [escape, if_neg hquote, if_neg hslash, if_neg hb, if_neg hf, if_neg hn, if_neg hr, if_neg ht, if_neg hcode]
      exact readPieces_plain hquote hslash (by omega) rest

lemma readPieces_flatMap (cs rest : List Char) :
    ∃ pieces, readPieces (cs.flatMap escape ++ '"' :: rest) = some (pieces, rest) ∧ join? pieces = some cs := by
  induction cs with
  | nil => exact ⟨[], rfl, rfl⟩
  | cons c cs ih =>
    obtain ⟨pieces, hread, hjoin⟩ := ih
    obtain ⟨p, hp, hc⟩ := readPieces_escape c
    refine ⟨p :: pieces, ?_, ?_⟩
    · rw [List.flatMap_cons, List.append_assoc, hp, hread]
      rfl
    · rw [hc, hjoin]
      rfl

lemma readText_quoted (text : String) (rest : List Char) :
    ∃ cs, quoted (some text) = '"' :: cs ∧ readText (cs ++ rest) = some (some text, rest) := by
  obtain ⟨pieces, hread, hjoin⟩ := readPieces_flatMap text.toList rest
  refine ⟨text.toList.flatMap escape ++ ['"'], rfl, ?_⟩
  rw [List.append_assoc, List.singleton_append, readText, hread]
  simp [hjoin]

end Strings

section Numbers

def Delimited (rest : List Char) : Prop :=
  ∀ c ∈ rest.head?, c.isDigit = false ∧ c ≠ '.' ∧ isExponentMark c = false

lemma Delimited.noDigit {rest : List Char} (h : Delimited rest) : NoDigit rest := fun c hc => (h c hc).1

structure IsLiteral (literal : List Char) : Prop where
  starts : ∃ c cs, literal = c :: cs ∧ (c.isDigit = true ∨ c = '-')
  read : ∀ {rest}, Delimited rest → readNumber (literal ++ rest) = some (literal, rest)

lemma readDigits_append {cs rest : List Char} (hne : cs ≠ []) (h : ∀ c ∈ cs, c.isDigit = true)
    (hrest : NoDigit rest) : readDigits (cs ++ rest) = some (cs, rest) := by
  rw [readDigits, takeWhile_digits h hrest]
  cases cs with
  | nil => exact (hne rfl).elim
  | cons c cs => simp

lemma readFraction_of_delimited {rest : List Char} (h : Delimited rest) : readFraction rest = some ([], rest) := by
  cases rest with
  | nil => rfl
  | cons c rest =>
    rw [readFraction]
    intro _ he
    exact (h c rfl).2.1 (List.cons.inj he).1

lemma readExponent_of_delimited {rest : List Char} (h : Delimited rest) : readExponent rest = some ([], rest) := by
  match rest with
  | [] => rfl
  | [e] => rw [readExponent, if_neg (by simp [(h e rfl).2.2])]
  | e :: s :: rest => rw [readExponent, if_neg (by simp [(h e rfl).2.2])]

lemma readWhole_digits (n : Nat) {rest : List Char} (h : NoDigit rest) :
    readWhole (digits n ++ rest) = some (digits n, rest) := by
  by_cases hzero : n = 0
  · subst hzero
    rfl
  · have hhead := head?_digits_ne_zero (Nat.pos_of_ne_zero hzero)
    rw [← readDigits_append (digits_ne_nil n) isDigit_of_mem_digits h]
    cases hdigits : digits n with
    | nil => exact (digits_ne_nil n hdigits).elim
    | cons c cs =>
      rw [List.cons_append, readWhole]
      intro _ he
      rw [hdigits, (List.cons.inj he).1] at hhead
      exact hhead rfl

lemma readUnsigned_digits (n : Nat) {rest : List Char} (h : Delimited rest) :
    readUnsigned (digits n ++ rest) = some (digits n, rest) := by
  simp [readUnsigned, readWhole_digits n h.noDigit, readFraction_of_delimited h, readExponent_of_delimited h]

lemma isLiteral_digits (n : Nat) : IsLiteral (digits n) where
  starts := by
    obtain ⟨c, cs, h⟩ := List.exists_cons_of_ne_nil (digits_ne_nil n)
    exact ⟨c, cs, h, Or.inl (isDigit_of_mem_digits c (h ▸ List.mem_cons_self))⟩
  read := by
    intro rest hrest
    rw [← readUnsigned_digits n hrest]
    obtain ⟨c, cs, h⟩ := List.exists_cons_of_ne_nil (digits_ne_nil n)
    rw [h, List.cons_append, readNumber]
    intro _ he
    have hdigit := isDigit_of_mem_digits c (h ▸ List.mem_cons_self)
    rw [(List.cons.inj he).1] at hdigit
    exact absurd hdigit (by decide)

end Numbers

section Values

mutual

def IsPrintable : Json → Prop
  | .null => True
  | .bool _ => True
  | .number literal => IsLiteral literal.toList
  | .string text => text.isSome
  | .array items => ArePrintable items
  | .object members => MembersPrintable members

def ArePrintable : List Json → Prop
  | [] => True
  | item :: items => IsPrintable item ∧ ArePrintable items

def MembersPrintable : List (Option String × Json) → Prop
  | [] => True
  | (key, value) :: members => key.isSome ∧ IsPrintable value ∧ MembersPrintable members

end

def IsBlank (cs : List Char) : Prop := ∀ c ∈ cs, isSpace c = true

structure Layout where
  gap : Nat → List Char
  space : List Char
  gapBlank : ∀ depth, IsBlank (gap depth)
  spaceBlank : IsBlank space

variable (l : Layout)

mutual

def spread (depth : Nat) : Json → List Char
  | .array (item :: items) => '[' :: l.gap (depth + 1) ++ spread (depth + 1) item ++ spreadItems depth items
  | .object ((key, value) :: members) =>
    '\x7b' :: l.gap (depth + 1) ++ quoted key ++ ':' :: (l.space ++ spread (depth + 1) value) ++
      spreadMembers depth members
  | value => value.chars

def spreadItems (depth : Nat) : List Json → List Char
  | [] => l.gap depth ++ [']']
  | item :: items => ',' :: l.gap (depth + 1) ++ spread (depth + 1) item ++ spreadItems depth items

def spreadMembers (depth : Nat) : List (Option String × Json) → List Char
  | [] => l.gap depth ++ ['\x7d']
  | (key, value) :: members =>
    ',' :: l.gap (depth + 1) ++ quoted key ++ ':' :: (l.space ++ spread (depth + 1) value) ++
      spreadMembers depth members

end

lemma isBlank_nil : IsBlank [] := fun _ h => (List.not_mem_nil h).elim

def Layout.compact : Layout := ⟨fun _ => [], [], fun _ => isBlank_nil, isBlank_nil⟩

lemma isBlank_newline (depth : Nat) : IsBlank (newline depth) := by
  intro c hc
  rcases List.mem_cons.mp hc with rfl | hc
  · rfl
  · rw [List.eq_of_mem_replicate hc]
    rfl

def Layout.pretty : Layout := ⟨newline, [' '], isBlank_newline, by simp [IsBlank, isSpace]⟩

mutual

lemma spread_compact (depth : Nat) : ∀ value : Json, spread .compact depth value = value.chars
  | .null | .bool _ | .number _ | .string _ | .array [] | .object [] => rfl
  | .array (item :: items) => by
    rw [spread, spread_compact, spreadItems_compact, chars]
    rfl
  | .object ((key, value) :: members) => by
    rw [spread, spread_compact, spreadMembers_compact, chars]
    rfl

lemma spreadItems_compact (depth : Nat) : ∀ items : List Json, spreadItems .compact depth items = itemChars items
  | [] => rfl
  | item :: items => by
    rw [spreadItems, spread_compact, spreadItems_compact, itemChars]
    rfl

lemma spreadMembers_compact (depth : Nat) :
    ∀ members : List (Option String × Json), spreadMembers .compact depth members = memberChars members
  | [] => rfl
  | (key, value) :: members => by
    rw [spreadMembers, spread_compact, spreadMembers_compact, memberChars]
    rfl

end

mutual

lemma spread_pretty (depth : Nat) : ∀ value : Json, spread .pretty depth value = indented depth value
  | .null | .bool _ | .number _ | .string _ | .array [] | .object [] => rfl
  | .array (item :: items) => by
    rw [spread, spread_pretty, spreadItems_pretty, indented]
    rfl
  | .object ((key, value) :: members) => by
    rw [spread, spread_pretty, spreadMembers_pretty, indented]
    rfl

lemma spreadItems_pretty (depth : Nat) :
    ∀ items : List Json, spreadItems .pretty depth items = indentedItems depth items
  | [] => rfl
  | item :: items => by
    rw [spreadItems, spread_pretty, spreadItems_pretty, indentedItems]
    rfl

lemma spreadMembers_pretty (depth : Nat) :
    ∀ members : List (Option String × Json), spreadMembers .pretty depth members = indentedMembers depth members
  | [] => rfl
  | (key, value) :: members => by
    rw [spreadMembers, spread_pretty, spreadMembers_pretty, indentedMembers]
    rfl

end

variable {l}

lemma dropSpaces_append {blank : List Char} (h : IsBlank blank) (cs : List Char) :
    dropSpaces (blank ++ cs) = dropSpaces cs :=
  List.dropWhile_append_of_pos h

lemma dropSpaces_cons {c : Char} (h : isSpace c = false) (cs : List Char) : dropSpaces (c :: cs) = c :: cs :=
  List.dropWhile_cons_of_neg (by simp [h])

lemma literal_start {c : Char} (h : c.isDigit = true ∨ c = '-') :
    isSpace c = false ∧ c ∉ ['n', 't', 'f', '"', '[', '\x7b', ']'] := by
  have hall : ([' ', '\n', '\t', '\r', 'n', 't', 'f', '"', '[', '\x7b', ']'].all
      fun d => ¬ (d.isDigit = true ∨ d = '-')) = true := by decide
  have hnot := fun d hd => of_decide_eq_true (List.all_eq_true.mp hall d hd)
  constructor
  · by_contra hspace
    simp only [isSpace, Bool.not_eq_false, Bool.or_eq_true, decide_eq_true_eq] at hspace
    rcases hspace with ((rfl | rfl) | rfl) | rfl <;> exact hnot _ (by decide) h
  · intro hmem
    exact hnot c (List.mem_append_right [' ', '\n', '\t', '\r'] hmem) h

lemma spread_starts (depth : Nat) {value : Json} (h : IsPrintable value) :
    ∃ c cs, spread l depth value = c :: cs ∧ isSpace c = false ∧ c ≠ ']' := by
  match value, h with
  | .null, _ => exact ⟨'n', _, rfl, rfl, by decide⟩
  | .bool true, _ => exact ⟨'t', _, rfl, rfl, by decide⟩
  | .bool false, _ => exact ⟨'f', _, rfl, rfl, by decide⟩
  | .number literal, h =>
    obtain ⟨c, cs, hliteral, hc⟩ := h.starts
    obtain ⟨hspace, hnot⟩ := literal_start hc
    exact ⟨c, cs, hliteral, hspace, fun he => hnot (by simp [he])⟩
  | .string text, _ => exact ⟨'"', _, rfl, rfl, by decide⟩
  | .array [], _ => exact ⟨'[', _, rfl, rfl, by decide⟩
  | .array (_ :: _), _ => exact ⟨'[', _, rfl, rfl, by decide⟩
  | .object [], _ => exact ⟨'\x7b', _, rfl, rfl, by decide⟩
  | .object ((_, _) :: _), _ => exact ⟨'\x7b', _, rfl, rfl, by decide⟩

lemma delimited_of_space {blank : List Char} (h : IsBlank blank) {c : Char} {cs : List Char}
    (hc : c.isDigit = false ∧ c ≠ '.' ∧ isExponentMark c = false) : Delimited (blank ++ c :: cs) := by
  have hspace : ∀ c, isSpace c = true → c.isDigit = false ∧ c ≠ '.' ∧ isExponentMark c = false := by
    intro c hc
    simp only [isSpace, Bool.or_eq_true, decide_eq_true_eq] at hc
    rcases hc with ((rfl | rfl) | rfl) | rfl <;> decide
  intro d hd
  cases blank with
  | nil =>
    obtain rfl := Option.some.inj hd
    exact hc
  | cons b blank =>
    obtain rfl := Option.some.inj hd
    exact hspace b (h b List.mem_cons_self)

lemma spreadItems_starts (depth : Nat) (items : List Json) (rest : List Char) :
    Delimited (spreadItems l depth items ++ rest) := by
  cases items with
  | nil =>
    rw [spreadItems, List.append_assoc]
    exact delimited_of_space (l.gapBlank depth) (by decide)
  | cons item items => exact delimited_of_space isBlank_nil (by decide)

lemma spreadMembers_starts (depth : Nat) (members : List (Option String × Json)) (rest : List Char) :
    Delimited (spreadMembers l depth members ++ rest) := by
  cases members with
  | nil =>
    rw [spreadMembers, List.append_assoc]
    exact delimited_of_space (l.gapBlank depth) (by decide)
  | cons m members => exact delimited_of_space isBlank_nil (by decide)

lemma readValue_number {literal : String} (h : IsLiteral literal.toList) {fuel : Nat} {rest : List Char}
    (hrest : Delimited rest) :
    readValue (fuel + 1) (literal.toList ++ rest) = some (.number literal, rest) := by
  obtain ⟨c, cs, hliteral, hc⟩ := h.starts
  obtain ⟨hspace, hnot⟩ := literal_start hc
  have hread := h.read hrest
  rw [hliteral, List.cons_append] at hread ⊢
  rw [readValue, dropSpaces_cons hspace]
  split
  case h_7 =>
    rw [hread, ← hliteral]
    simp
  all_goals
    rename_i heq
    exact (hnot (by simp [(List.cons.inj heq).1])).elim

lemma readValue_blank {blank : List Char} (h : IsBlank blank) (fuel : Nat) (cs : List Char) :
    readValue fuel (blank ++ cs) = readValue fuel cs := by
  cases fuel with
  | zero => rfl
  | succ fuel => rw [readValue, readValue, dropSpaces_append h]

lemma readItems_blank {blank : List Char} (h : IsBlank blank) (fuel : Nat) (cs : List Char) :
    readItems fuel (blank ++ cs) = readItems fuel cs := by
  cases fuel with
  | zero => rfl
  | succ fuel => rw [readItems, readItems, readValue_blank h]

lemma readMembers_blank {blank : List Char} (h : IsBlank blank) (fuel : Nat) (cs : List Char) :
    readMembers fuel (blank ++ cs) = readMembers fuel cs := by
  cases fuel with
  | zero => rfl
  | succ fuel => rw [readMembers, readMembers, dropSpaces_append h]

lemma readValue_items {blank : List Char} (h : IsBlank blank) {c : Char} (hspace : isSpace c = false) (hend : c ≠ ']')
    (fuel : Nat) (cs : List Char) :
    readValue (fuel + 1) ('[' :: (blank ++ c :: cs)) =
      (readItems fuel (c :: cs)).map fun (items, rest) => (.array items, rest) := by
  rw [readValue, dropSpaces_cons (by decide)]
  simp only [dropSpaces_append h, dropSpaces_cons hspace]
  split
  · rename_i heq
    exact (hend (List.cons.inj heq).1).elim
  · rfl

lemma readValue_members {blank : List Char} (h : IsBlank blank) (fuel : Nat) (cs : List Char) :
    readValue (fuel + 1) ('\x7b' :: (blank ++ '"' :: cs)) =
      (readMembers fuel ('"' :: cs)).map fun (members, rest) => (.object members, rest) := by
  rw [readValue, dropSpaces_cons (by decide)]
  simp only [dropSpaces_append h]
  rfl

/-- What the readers find under some fuel: any value, items or members whose text is at most half as long. -/
structure Reads (l : Layout) (fuel : Nat) : Prop where
  value : ∀ depth {value} rest, IsPrintable value → 2 * (spread l depth value).length ≤ fuel → Delimited rest →
    readValue fuel (spread l depth value ++ rest) = some (value, rest)
  items : ∀ depth {item items} rest, IsPrintable item → ArePrintable items →
    2 * ((spread l (depth + 1) item).length + (spreadItems l depth items).length) ≤ fuel →
      readItems fuel (spread l (depth + 1) item ++ (spreadItems l depth items ++ rest)) = some (item :: items, rest)
  members : ∀ depth key {value members} rest, IsPrintable value → MembersPrintable members →
    2 * ((spread l (depth + 1) value).length + (spreadMembers l depth members).length) ≤ fuel →
      readMembers fuel (quoted (some key) ++ ':' :: (l.space ++ (spread l (depth + 1) value ++
        (spreadMembers l depth members ++ rest)))) = some ((some key, value) :: members, rest)

namespace Reads

variable {fuel depth : Nat} {rest : List Char}

lemma value_succ (h : Reads l fuel) {value : Json} (hvalue : IsPrintable value)
    (hfuel : 2 * (spread l depth value).length ≤ fuel + 1) (hrest : Delimited rest) :
    readValue (fuel + 1) (spread l depth value ++ rest) = some (value, rest) := by
  match value, hvalue with
  | .null, _ | .bool true, _ | .bool false, _ | .array [], _ | .object [], _ => rfl
  | .number literal, hliteral => exact readValue_number hliteral hrest
  | .string (some text), _ =>
    obtain ⟨cs, hcs, hread⟩ := readText_quoted text rest
    have htext : spread l depth (.string (some text)) = '"' :: cs := hcs
    rw [htext, List.cons_append, readValue, dropSpaces_cons (by decide)]
    simp only [hread, Option.map_some]
  | .array (item :: items), ⟨hitem, hitems⟩ =>
    obtain ⟨c, cs, hstart, hspace, hend⟩ := spread_starts (l := l) (depth + 1) hitem
    have hread := h.items depth rest hitem hitems (by
      simp only [spread, List.length_append, List.length_cons] at hfuel
      omega)
    simp only [spread, List.cons_append, List.append_assoc]
    rw [hstart, List.cons_append] at hread ⊢
    rw [readValue_items (l.gapBlank _) hspace hend, hread]
    rfl
  | .object ((some key, value) :: members), ⟨_, hvalue, hmembers⟩ =>
    have hread := h.members depth key rest hvalue hmembers (by
      simp only [spread, List.length_append, List.length_cons] at hfuel
      omega)
    obtain ⟨cs, hkey, _⟩ := readText_quoted key []
    simp only [spread, List.cons_append, List.append_assoc]
    rw [hkey, List.cons_append] at hread ⊢
    rw [readValue_members (l.gapBlank _), hread]
    rfl

lemma items_succ (h : Reads l fuel) {item : Json} {items : List Json} (hitem : IsPrintable item)
    (hitems : ArePrintable items)
    (hfuel : 2 * ((spread l (depth + 1) item).length + (spreadItems l depth items).length) ≤ fuel + 1) :
    readItems (fuel + 1) (spread l (depth + 1) item ++ (spreadItems l depth items ++ rest)) =
      some (item :: items, rest) := by
  match items, hitems with
  | [], _ =>
    simp only [spreadItems, List.length_append, List.length_cons] at hfuel
    rw [readItems, h.value (depth + 1) _ hitem (by omega) (spreadItems_starts depth _ rest)]
    simp only [spreadItems, List.append_assoc, dropSpaces_append (l.gapBlank _)]
    rfl
  | next :: items, ⟨hnext, hitems⟩ =>
    simp only [spreadItems, List.length_append, List.length_cons] at hfuel
    rw [readItems, h.value (depth + 1) _ hitem (by omega) (spreadItems_starts depth _ rest)]
    simp only [spreadItems, List.cons_append, List.append_assoc, dropSpaces_cons (show isSpace ',' = false by decide)]
    rw [readItems_blank (l.gapBlank _), h.items _ _ hnext hitems (by omega)]
    rfl

lemma member_succ (h : Reads l fuel) (key : String) {value : Json} (hvalue : IsPrintable value)
    (hfuel : 2 * (spread l depth value).length ≤ fuel) {tail : List Char} (htail : Delimited tail) :
    readMembers (fuel + 1) (quoted (some key) ++ ':' :: (l.space ++ (spread l depth value ++ tail))) =
      match dropSpaces tail with
      | ',' :: rest => (readMembers fuel rest).map fun (members, rest) => ((some key, value) :: members, rest)
      | '\x7d' :: rest => some ([(some key, value)], rest)
      | _ => none := by
  obtain ⟨cs, hkey, hread⟩ := readText_quoted key (':' :: (l.space ++ (spread l depth value ++ tail)))
  rw [hkey, List.cons_append, readMembers, dropSpaces_cons (by decide)]
  simp only [hread, dropSpaces_cons (show isSpace ':' = false by decide), readValue_blank l.spaceBlank]
  rewrite [h.value _ _ hvalue hfuel htail]
  rfl

lemma members_succ (h : Reads l fuel) {key : String} {value : Json} {members : List (Option String × Json)}
    (hvalue : IsPrintable value) (hmembers : MembersPrintable members)
    (hfuel : 2 * ((spread l (depth + 1) value).length + (spreadMembers l depth members).length) ≤ fuel + 1) :
    readMembers (fuel + 1) (quoted (some key) ++ ':' :: (l.space ++ (spread l (depth + 1) value ++
      (spreadMembers l depth members ++ rest)))) = some ((some key, value) :: members, rest) := by
  match members, hmembers with
  | [], _ =>
    simp only [spreadMembers, List.length_append, List.length_cons] at hfuel
    rw [h.member_succ key hvalue (by omega) (spreadMembers_starts depth _ rest), spreadMembers, List.append_assoc,
      dropSpaces_append (l.gapBlank _)]
    rfl
  | (some next, value') :: members, ⟨_, hvalue', hmembers⟩ =>
    have hread := h.members depth next rest hvalue' hmembers (by
      simp only [spreadMembers, List.length_append, List.length_cons] at hfuel
      omega)
    rw [← readMembers_blank (l.gapBlank (depth + 1))] at hread
    simp only [spreadMembers, List.length_append, List.length_cons] at hfuel
    rw [h.member_succ key hvalue (by omega) (spreadMembers_starts depth _ rest), spreadMembers]
    simp only [List.cons_append, List.append_assoc]
    rw [dropSpaces_cons (by decide)]
    simp only [hread, Option.map_some]

end Reads

lemma reads (l : Layout) (fuel : Nat) : Reads l fuel := by
  induction fuel with
  | zero =>
    refine ⟨fun _ _ _ hvalue hfuel _ => ?_, fun _ _ _ _ hitem _ hfuel => ?_, fun _ _ _ _ _ hvalue _ hfuel => ?_⟩
    all_goals
      obtain ⟨_, _, hstart, _⟩ := spread_starts (l := l) _ ‹IsPrintable _›
      rw [hstart, List.length_cons] at hfuel
      omega
  | succ fuel ih => exact ⟨fun _ _ _ => ih.value_succ, fun _ _ _ _ => ih.items_succ, fun _ _ _ _ _ => ih.members_succ⟩

lemma ofChars?_spread (l : Layout) {value : Json} (h : IsPrintable value) :
    ofChars? (spread l 0 value) = some value := by
  have hread := (reads l (2 * (spread l 0 value).length + 1)).value 0 [] h (by omega) fun _ hc => by cases hc
  rw [List.append_nil] at hread
  rw [ofChars?, hread]
  rfl

theorem parse?_compact {value : Json} (h : IsPrintable value) : parse? value.compact = some value := by
  rw [parse?, compact, String.toList_ofList, ← spread_compact 0, ofChars?_spread _ h]

theorem parse?_pretty {value : Json} (h : IsPrintable value) : parse? value.pretty = some value := by
  rw [parse?, pretty, String.toList_ofList, ← spread_pretty, ofChars?_spread _ h]

end Values

end Roshambo.Json
