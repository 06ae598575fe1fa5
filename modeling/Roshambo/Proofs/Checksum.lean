import Mathlib.Tactic.Common
import Roshambo.Bech32.Checksum

/-! The checksum of written symbols: the register is linear, and the six symbols of a register lead back to it. -/

namespace Roshambo.Bech32

lemma feedback_xor : ∀ s t : Symbol, feedback (s ^^^ t) = feedback s ^^^ feedback t := by
  decide +kernel

lemma step_xor (r q : Register) (s t : Symbol) : step (r ^^^ q) (s ^^^ t) = step r s ^^^ step q t := by
  simp only [step, BitVec.shiftLeft_xor_distrib, BitVec.setWidth_xor, BitVec.extractLsb'_xor, feedback_xor]
  ac_rfl

lemma foldl_step_xor (symbols : List Symbol) (r q : Register) :
    symbols.foldl step (r ^^^ q) = (List.replicate symbols.length 0).foldl step r ^^^ symbols.foldl step q := by
  induction symbols generalizing r q with
  | nil => rfl
  | cons s rest ih =>
    have hstep : step (r ^^^ q) s = step r 0 ^^^ step q s := by
      simpa using step_xor r q 0 s
    rw [List.foldl_cons, hstep, ih]
    rfl

lemma step_shift (r : Register) (i : Nat) : step (r >>> (i + 5)) (r.extractLsb' i 5) = r >>> i := by
  have htop : (r >>> (i + 5)).extractLsb' 25 5 = 0 := by
    ext k hk
    simp only [BitVec.getElem_extractLsb', BitVec.getLsbD_ushiftRight, BitVec.ofNat_eq_ofNat, BitVec.getElem_zero]
    exact BitVec.getLsbD_of_ge r _ (by omega)
  have hnone : feedback 0 = 0 := by decide
  rw [step, htop, hnone, BitVec.ofNat_eq_ofNat, BitVec.xor_zero]
  ext k hk
  simp only [BitVec.getElem_xor, BitVec.getElem_shiftLeft, BitVec.getElem_setWidth, BitVec.getLsbD_extractLsb',
    BitVec.getElem_ushiftRight]
  by_cases h : k < 5
  · simp [h]
  · simp [h, show i + 5 + (k - 5) = i + k by omega]

lemma foldl_step_symbols (r : Register) : r.symbols.foldl step 0 = r := by
  have hstart : (0 : Register) = r >>> (25 + 5) := by
    ext k hk
    simp
  rw [hstart]
  simp only [Register.symbols, List.foldl_cons, List.foldl_nil]
  rw [step_shift r 25, step_shift r 20, step_shift r 15, step_shift r 10, step_shift r 5, step_shift r 0]
  rfl

lemma residue_append (symbols more : List Symbol) : residue (symbols ++ more) = more.foldl step (residue symbols) :=
  List.foldl_append

theorem isSound_checksum (hrp : Hrp) (data : List Symbol) : isSound hrp (data ++ checksum hrp data) = true := by
  have hresidue : residue (expand hrp ++ (data ++ checksum hrp data)) = bech32Constant := by
    set r := residue (expand hrp ++ data ++ List.replicate checksumLength 0) with hr
    have hlength : (checksum hrp data).length = checksumLength := rfl
    calc residue (expand hrp ++ (data ++ checksum hrp data))
        = (checksum hrp data).foldl step (residue (expand hrp ++ data) ^^^ 0#30) := by
          rw [← List.append_assoc, residue_append, BitVec.xor_zero]
      _ = r ^^^ (checksum hrp data).foldl step 0 := by
          rw [foldl_step_xor, hlength, hr, residue_append _ (List.replicate _ _)]
          rfl
      _ = r ^^^ (r ^^^ bech32Constant) := by rw [checksum, foldl_step_symbols]
      _ = bech32Constant := by rw [← BitVec.xor_assoc, BitVec.xor_self, BitVec.zero_xor]
  simp [isSound, hresidue]

end Roshambo.Bech32
