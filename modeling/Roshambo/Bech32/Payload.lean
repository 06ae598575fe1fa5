import Roshambo.Bech32.Symbol

/-! Bytes as symbols and back. Writing fills the last symbol up with zeros; reading drops the bits after the last
whole byte, whatever they are. -/

namespace Roshambo.Bech32

def bits : Nat → Nat → List Bool
  | 0, _ => []
  | width + 1, n => n.testBit width :: bits width n

def ofBits (bs : List Bool) : Nat := bs.foldl (fun n b => 2 * n + b.toNat) 0

def symbolsOfBits : List Bool → List Symbol
  | [] => []
  | a :: b :: c :: d :: e :: rest => BitVec.ofNat 5 (ofBits [a, b, c, d, e]) :: symbolsOfBits rest
  | short => [BitVec.ofNat 5 (ofBits (short ++ List.replicate (5 - short.length) false))]

/-- Groups of eight bits; what is left over is dropped. -/
def bytesOfBits : List Bool → List UInt8
  | a :: b :: c :: d :: e :: f :: g :: h :: rest =>
    UInt8.ofNat (ofBits [a, b, c, d, e, f, g, h]) :: bytesOfBits rest
  | _ => []

def symbolsOfBytes (bytes : List UInt8) : List Symbol :=
  symbolsOfBits (bytes.flatMap fun b => bits 8 b.toNat)

def bytesOfSymbols (symbols : List Symbol) : List UInt8 :=
  bytesOfBits (symbols.flatMap fun s => bits 5 s.toNat)

end Roshambo.Bech32
