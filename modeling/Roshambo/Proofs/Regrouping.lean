import Mathlib.Algebra.Group.Nat.Defs
import Mathlib.Data.List.Induction
import Roshambo.Bech32.Payload

/-! Bytes that were regrouped into symbols are found again: the fill of the last symbol is shorter than a byte. -/

namespace Roshambo.Bech32

lemma length_bits (width n : Nat) : (bits width n).length = width := by
  induction width with
  | zero => rfl
  | succ width ih => rw [bits, List.length_cons, ih]

lemma bits_succ (width n : Nat) : bits (width + 1) n = bits width (n / 2) ++ [n.testBit 0] := by
  induction width with
  | zero => rfl
  | succ width ih => rw [bits, ih, bits, Nat.testBit_succ, List.cons_append]

lemma ofBits_concat (bs : List Bool) (b : Bool) : ofBits (bs ++ [b]) = 2 * ofBits bs + b.toNat := by
  simp [ofBits]

lemma ofBits_bits {width n : Nat} (h : n < 2 ^ width) : ofBits (bits width n) = n := by
  induction width generalizing n with
  | zero => exact (Nat.lt_one_iff.mp h).symm
  | succ width ih =>
    rw [bits_succ, ofBits_concat, ih (by rw [Nat.pow_succ] at h; omega), Nat.testBit_zero]
    have hbit : (decide (n % 2 = 1)).toNat = n % 2 := by
      rcases Nat.mod_two_eq_zero_or_one n with h | h <;> simp [h]
    omega

lemma ofBits_lt (bs : List Bool) : ofBits bs < 2 ^ bs.length := by
  induction bs using List.reverseRecOn with
  | nil => decide
  | append_singleton bs b ih =>
    rw [ofBits_concat, List.length_append, List.length_singleton, Nat.pow_succ]
    have hb := Bool.toNat_le b
    omega

lemma bits_ofBits (bs : List Bool) : bits bs.length (ofBits bs) = bs := by
  induction bs using List.reverseRecOn with
  | nil => rfl
  | append_singleton bs b ih =>
    have hhalf : (2 * ofBits bs + b.toNat) / 2 = ofBits bs := by
      have hb := Bool.toNat_lt b
      omega
    have hlow : (2 * ofBits bs + b.toNat).testBit 0 = b := by
      rw [Nat.testBit_zero]
      cases b <;> simp
    rw [List.length_append, List.length_singleton, bits_succ, ofBits_concat, hhalf, hlow, ih]

lemma bits_symbol {bs : List Bool} (h : bs.length = 5) : bits 5 (BitVec.ofNat 5 (ofBits bs)).toNat = bs := by
  have hlt : ofBits bs < 2 ^ 5 := h ▸ ofBits_lt bs
  have hbits : bits 5 (ofBits bs) = bs := h ▸ bits_ofBits bs
  rw [BitVec.toNat_ofNat, Nat.mod_eq_of_lt hlt, hbits]

lemma length_lt_five {bs : List Bool} (h : ∀ a b c d e rest, bs = a :: b :: c :: d :: e :: rest → False) :
    bs.length < 5 := by
  match bs, h with
  | [], _ | [_], _ | [_, _], _ | [_, _, _], _ | [_, _, _, _], _ => simp
  | a :: b :: c :: d :: e :: rest, h => exact (h a b c d e rest rfl).elim

lemma flatMap_symbolsOfBits (bs : List Bool) :
    ∃ fill : List Bool, fill.length < 5 ∧ ((symbolsOfBits bs).flatMap fun s => bits 5 s.toNat) = bs ++ fill := by
  induction bs using symbolsOfBits.induct with
  | case1 => exact ⟨[], by decide, rfl⟩
  | case2 a b c d e rest ih =>
    obtain ⟨fill, hlength, hfill⟩ := ih
    refine ⟨fill, hlength, ?_⟩
    rw [symbolsOfBits, List.flatMap_cons, hfill, bits_symbol rfl]
    rfl
  | case3 short hne hshort =>
    have hlt := length_lt_five hshort
    have hpos : 0 < short.length := List.length_pos_iff.mpr hne
    refine ⟨List.replicate (5 - short.length) false, by rw [List.length_replicate]; omega, ?_⟩
    rw [symbolsOfBits, List.flatMap_singleton, bits_symbol (by rw [List.length_append, List.length_replicate]; omega)]
    · exact hne
    · exact hshort

lemma bytesOfBits_cons (b : UInt8) (bs : List Bool) : bytesOfBits (bits 8 b.toNat ++ bs) = b :: bytesOfBits bs := by
  have hvalue : ofBits (bits 8 b.toNat) = b.toNat := ofBits_bits b.toNat_lt
  calc bytesOfBits (bits 8 b.toNat ++ bs) = UInt8.ofNat (ofBits (bits 8 b.toNat)) :: bytesOfBits bs := rfl
    _ = b :: bytesOfBits bs := by rw [hvalue, UInt8.ofNat_toNat]

lemma bytesOfBits_short {fill : List Bool} (h : fill.length < 8) : bytesOfBits fill = [] := by
  match fill, h with
  | [], _ | [_], _ | [_, _], _ | [_, _, _], _ | [_, _, _, _], _ | [_, _, _, _, _], _ | [_, _, _, _, _, _], _
  | [_, _, _, _, _, _, _], _ => rfl

lemma bytesOfBits_flatMap (bytes : List UInt8) {fill : List Bool} (h : fill.length < 8) :
    bytesOfBits ((bytes.flatMap fun b => bits 8 b.toNat) ++ fill) = bytes := by
  induction bytes with
  | nil => exact bytesOfBits_short h
  | cons b rest ih => rw [List.flatMap_cons, List.append_assoc, bytesOfBits_cons, ih]

theorem bytesOfSymbols_symbolsOfBytes (bytes : List UInt8) : bytesOfSymbols (symbolsOfBytes bytes) = bytes := by
  obtain ⟨fill, hlength, hfill⟩ := flatMap_symbolsOfBits (bytes.flatMap fun b => bits 8 b.toNat)
  rw [bytesOfSymbols, symbolsOfBytes, hfill, bytesOfBits_flatMap bytes (by omega)]

lemma length_symbolsOfBits (bs : List Bool) : (symbolsOfBits bs).length = (bs.length + 4) / 5 := by
  induction bs using symbolsOfBits.induct with
  | case1 => rfl
  | case2 a b c d e rest ih =>
    rw [symbolsOfBits, List.length_cons, ih]
    simp only [List.length_cons]
    omega
  | case3 short hne hshort =>
    have hpos : 0 < short.length := List.length_pos_iff.mpr hne
    have hlt := length_lt_five hshort
    rw [symbolsOfBits]
    · simp only [List.length_singleton]
      omega
    · exact hne
    · exact hshort

lemma length_symbolsOfBytes (bytes : List UInt8) :
    (symbolsOfBytes bytes).length = (8 * bytes.length + 4) / 5 := by
  have hbits : (bytes.flatMap fun b => bits 8 b.toNat).length = 8 * bytes.length := by
    induction bytes with
    | nil => rfl
    | cons b rest ih =>
      rw [List.flatMap_cons, List.length_append, length_bits, ih, List.length_cons]
      omega
  rw [symbolsOfBytes, length_symbolsOfBits, hbits]

end Roshambo.Bech32
