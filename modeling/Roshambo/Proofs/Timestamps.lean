import Mathlib.Data.List.TakeWhile
import Roshambo.Proofs.Calendar
import Roshambo.Proofs.Decimals
import Roshambo.Time.Printer
import Roshambo.Time.Reader

namespace Roshambo.Instant

open Decimal Text

lemma dropBlanks_cons {c : Char} (h : isBlank c = false) (cs : List Char) : dropBlanks (c :: cs) = c :: cs :=
  List.dropWhile_cons_of_neg (by simp [h])

lemma isBlank_of_isDigit {c : Char} (h : c.isDigit = true) : isBlank c = false := by
  obtain ⟨hlow, hhigh⟩ := Char.isDigit_iff_toNat.mp h
  have hlow : 48 ≤ c.toNat := hlow
  have hhigh : c.toNat ≤ 57 := hhigh
  simp only [isBlank, Bool.or_eq_false_iff, Bool.and_eq_false_iff, decide_eq_false_iff_not]
  omega

lemma dropBlanks_padded (width n : Nat) (rest : List Char) :
    dropBlanks (padded width n ++ rest) = padded width n ++ rest := by
  obtain ⟨c, cs, h⟩ := List.exists_cons_of_ne_nil (padded_ne_nil width n)
  rw [h, List.cons_append, dropBlanks_cons (isBlank_of_isDigit (isDigit_of_mem_padded c (h ▸ List.mem_cons_self)))]

section Date

lemma readNumber?_padded {width n : Nat} (hpos : 0 < width) (h : n < 10 ^ width) (rest : List Char) :
    readNumber? width (padded width n ++ rest) = some (n, rest) := by
  have hlength := length_padded hpos h
  have htake : (padded width n ++ rest).take width = padded width n := by
    rw [List.take_append_of_le_length (Nat.le_of_eq hlength.symm), List.take_of_length_le (Nat.le_of_eq hlength)]
  have hdigits : (padded width n).takeWhile Char.isDigit = padded width n :=
    List.takeWhile_eq_self_iff.mpr isDigit_of_mem_padded
  simp only [readNumber?, dropBlanks_padded, htake, hdigits, read?_padded, Option.map_some, List.drop_left]

lemma readNumber?_two {n : Nat} (h : n < 100) (rest : List Char) :
    readNumber? 2 (padded 2 n ++ rest) = some (n, rest) :=
  readNumber?_padded (by decide) h rest

lemma readYear?_yearText (year : Int) {rest : List Char} (h : NoDigit rest) :
    readYear? (yearText year ++ rest) = some (year, rest) := by
  have hsigned : (padded 4 year.natAbs ++ rest).takeWhile Char.isDigit = padded 4 year.natAbs :=
    takeWhile_digits isDigit_of_mem_padded h
  unfold yearText
  split_ifs with hplain hneg
  · obtain ⟨c, cs, hcs⟩ := List.exists_cons_of_ne_nil (padded_ne_nil 4 year.toNat)
    have hdigit := isDigit_of_mem_padded c (hcs ▸ List.mem_cons_self)
    have hread := readNumber?_padded (by decide) (show year.toNat < 10 ^ 4 by omega) rest
    have hyear : (year.toNat : Int) = year := Int.toNat_of_nonneg hplain.1
    rw [readYear?, dropBlanks_padded]
    rw [hcs, List.cons_append] at hread ⊢
    split
    case h_3 =>
      rw [hread, Option.map_some]
      exact congrArg (fun y => some (y, rest)) hyear
    all_goals
      rename_i heq
      rw [(List.cons.inj heq).1] at hdigit
      exact absurd hdigit (by decide)
  · have hyear : -1 * (year.natAbs : Int) = year := by omega
    rw [List.cons_append, readYear?, dropBlanks_cons (by decide)]
    simp only [hsigned, read?_padded, List.drop_left]
    exact congrArg (fun y => some (y, rest)) hyear
  · have hyear : 1 * (year.natAbs : Int) = year := by omega
    rw [List.cons_append, readYear?, dropBlanks_cons (by decide)]
    simp only [hsigned, read?_padded, List.drop_left]
    exact congrArg (fun y => some (y, rest)) hyear

lemma readMark?_cons {mark : Char} (h : isBlank mark = false) (rest : List Char) :
    readMark? mark (mark :: rest) = some rest := by
  rw [readMark?, dropBlanks_cons h]
  exact if_pos rfl

lemma readDate?_dateText (t : Instant) (rest : List Char) :
    readDate? (t.dateText ++ rest) = some (t.date, rest) := by
  have hvalid : t.date.IsValid := Calendar.isValid_ofDays _
  have hmonth : t.date.month < 100 := Nat.lt_of_le_of_lt hvalid.2.1 (by decide)
  have hday : t.date.day < 100 := by
    have hlength : Calendar.monthLength t.date.year t.date.month ≤ 31 := by
      unfold Calendar.monthLength
      split_ifs <;> decide
    exact Nat.lt_of_le_of_lt (hvalid.2.2.2.trans hlength) (by decide)
  have hdash := readMark?_cons (show Text.isBlank '-' = false by decide)
  simp only [dateText, List.append_assoc, List.cons_append, readDate?, Option.bind_eq_bind, Option.bind_some,
    readYear?_yearText t.date.year (noDigit_cons (c := '-') (by decide)), hdash, readNumber?_two hmonth,
    readNumber?_two hday]
  exact if_pos hvalid

end Date

section Clock

lemma secondOfDay_lt (t : Instant) : t.secondOfDay < 86400 := by
  simp only [secondOfDay, secondsPerDay]
  omega

lemma secondOfDay_eq (t : Instant) : t.secondOfDay = 3600 * t.hour + 60 * t.minute + t.secondOfDay % 60 := by
  simp only [hour, minute]
  omega

lemma nanos_cases (t : Instant) :
    t.nanos < nanosPerSecond ∨
      (nanosPerSecond ≤ t.nanos ∧ t.nanos < 2 * nanosPerSecond ∧ t.secondOfDay % 60 = 59) := by
  have hfit := t.nanosFit
  simp only [secondOfDay, secondsPerDay]
  omega

lemma readFraction?_padded {width m : Nat} (hpos : 0 < width) (hle : width ≤ 9) (h : m < 10 ^ width) {rest : List Char}
    (hrest : NoDigit rest) : readFraction? ('.' :: padded width m ++ rest) = some (10 ^ (9 - width) * m, rest) := by
  have hlength := length_padded hpos h
  have hvalue : value ((padded width m ++ List.replicate 9 '0').take 9) = 10 ^ (9 - width) * m := by
    rw [List.take_append, List.take_of_length_le (by omega), hlength, List.take_replicate, value_append, value_zeros,
      value_padded, List.length_replicate, Nat.add_zero, Nat.min_eq_left (by omega)]
  simp only [readFraction?, List.cons_append, takeWhile_digits isDigit_of_mem_padded hrest, padded_ne_nil, hvalue,
    List.drop_left, if_false]
  rfl

lemma readFraction?_fractionText {n : Nat} (h : n < nanosPerSecond) {rest : List Char} (hrest : NoDigit rest)
    (hpoint : rest.head? ≠ some '.') : readFraction? (fractionText n ++ rest) = some (n, rest) := by
  have hnine : nanosPerSecond = 10 ^ 9 := rfl
  unfold fractionText
  split_ifs with hzero hmillis hmicros
  · subst hzero
    rw [List.nil_append, readFraction?.eq_def]
    split
    · exact (hpoint rfl).elim
    · rfl
  · rw [readFraction?_padded (by decide) (by decide) (by omega) hrest]
    congr 2
    omega
  · rw [readFraction?_padded (by decide) (by decide) (by omega) hrest]
    congr 2
    omega
  · rw [readFraction?_padded (by decide) (by decide) (by omega) hrest]
    congr 2
    omega

lemma readClock?_clockText (t : Instant) {rest : List Char} (hrest : NoDigit rest) (hpoint : rest.head? ≠ some '.') :
    readClock? (t.clockText ++ (fractionText t.subsecond ++ rest)) = some (t.secondOfDay, t.nanos, rest) := by
  have hday := t.secondOfDay_lt
  have hleap := t.nanos_cases
  have hhour : t.hour < 24 := by
    simp only [hour]
    omega
  have hminute : t.minute < 60 := by
    simp only [minute]
    omega
  have hsecond : t.second ≤ 60 := by
    simp only [second, nanosPerSecond] at hleap ⊢
    omega
  have hsub : t.subsecond < nanosPerSecond := Nat.mod_lt _ (by decide)
  have hcolon := readMark?_cons (show Text.isBlank ':' = false by decide)
  simp only [clockText, List.append_assoc, List.cons_append, readClock?, Option.bind_eq_bind, Option.bind_some,
    hcolon, readNumber?_two (show t.hour < 100 by omega),
    readNumber?_two (show t.minute < 100 by omega),
    readNumber?_two (show t.second < 100 by omega), readFraction?_fractionText hsub hrest hpoint]
  rw [if_pos ⟨hhour, hminute, hsecond⟩]
  rcases hleap with hplain | ⟨hlow, hhigh, h59⟩
  · have hsub' : t.subsecond = t.nanos := Nat.mod_eq_of_lt hplain
    have hsecond' : t.second = t.secondOfDay % 60 := by
      rw [second, Nat.div_eq_of_lt hplain, Nat.add_zero]
    rw [if_neg (by omega), hsub', hsecond', ← t.secondOfDay_eq]
    rfl
  · have hsub' : t.subsecond + nanosPerSecond = t.nanos := by
      simp only [subsecond, nanosPerSecond] at *
      omega
    have hsecond' : t.second = 60 := by
      simp only [second, nanosPerSecond] at *
      omega
    rw [if_pos hsecond', hsub', t.secondOfDay_eq, h59]
    rfl

end Clock

lemma make?_self (t : Instant) : make? t.seconds t.nanos = some t := by
  rw [make?, dif_pos t.inRange, dif_pos t.nanosFit]

lemma seconds_eq (t : Instant) : secondsPerDay * t.date.toDays + t.secondOfDay = t.seconds := by
  rw [date, Calendar.toDays_ofDays]
  simp only [secondOfDay, secondsPerDay]
  omega

theorem ofText?_timestamp (t : Instant) : ofText? t.timestamp = some t := by
  have hletter : Char.isDigit 'Z' = false := by decide
  rw [ofText?, timestamp, String.toList_ofList, ofChars?]
  simp only [List.append_assoc, List.cons_append, readDate?_dateText, readSeam?, Option.bind_eq_bind, Option.bind_some,
    readClock?_clockText t (noDigit_cons hletter) (show ['Z'].head? ≠ some '.' by decide), seconds_eq, make?_self]
  have hoffset : readOffset? ['Z'] = some (0, []) := rfl
  simp only [hoffset, Option.bind_some, Int.sub_zero, make?_self]
  rfl

end Roshambo.Instant
