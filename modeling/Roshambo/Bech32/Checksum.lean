import Roshambo.Bech32.Hrp
import Roshambo.Bech32.Symbol

/-! The checksum of a Bech32 text: a register of thirty bits that every symbol is shifted into, and that ends at the
constant of its variant where the text is sound. -/

namespace Roshambo.Bech32

abbrev Register := BitVec 30

def feedback (top : Symbol) : Register :=
  (if top[0] then 0x3b6a57b2 else 0) ^^^ (if top[1] then 0x26508e6d else 0) ^^^
    (if top[2] then 0x1ea119fa else 0) ^^^ (if top[3] then 0x3d4233dd else 0) ^^^
    (if top[4] then 0x2a1462b3 else 0)

def step (r : Register) (s : Symbol) : Register :=
  (r <<< 5) ^^^ s.setWidth 30 ^^^ feedback (r.extractLsb' 25 5)

def residue (symbols : List Symbol) : Register := symbols.foldl step 1

def expand (hrp : Hrp) : List Symbol :=
  hrp.lower.map (fun c => BitVec.ofNat 5 (c.toNat / 32)) ++ 0 :: hrp.lower.map fun c => BitVec.ofNat 5 c.toNat

def bech32Constant : Register := 1

def bech32mConstant : Register := 0x2bc830a3

def checksumLength : Nat := 6

def Register.symbols (r : Register) : List Symbol :=
  [r.extractLsb' 25 5, r.extractLsb' 20 5, r.extractLsb' 15 5, r.extractLsb' 10 5, r.extractLsb' 5 5,
   r.extractLsb' 0 5]

def checksum (hrp : Hrp) (data : List Symbol) : List Symbol :=
  Register.symbols (residue (expand hrp ++ data ++ List.replicate checksumLength 0) ^^^ bech32Constant)

def isSound (hrp : Hrp) (symbols : List Symbol) : Bool :=
  let r := residue (expand hrp ++ symbols)
  r = bech32Constant || r = bech32mConstant

end Roshambo.Bech32
