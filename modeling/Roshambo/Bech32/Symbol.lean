namespace Roshambo.Bech32

abbrev Symbol := BitVec 5

def alphabet : List Char :=
  ['q', 'p', 'z', 'r', 'y', '9', 'x', '8', 'g', 'f', '2', 't', 'v', 'd', 'w', '0',
   's', '3', 'j', 'n', '5', '4', 'k', 'h', 'c', 'e', '6', 'm', 'u', 'a', '7', 'l']

def Symbol.toChar (s : Symbol) : Char := alphabet.get ⟨s.toNat, s.isLt⟩

def Symbol.ofChar? (c : Char) : Option Symbol := (alphabet.idxOf? c.toLower).map (BitVec.ofNat 5)

theorem Symbol.ofChar?_toChar (s : Symbol) : Symbol.ofChar? s.toChar = some s := by
  revert s; decide

end Roshambo.Bech32
