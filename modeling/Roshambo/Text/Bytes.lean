namespace Roshambo.Text

def bytes (s : String) : List UInt8 := s.toUTF8.data.toList

theorem bytes_injective {s t : String} (h : bytes s = bytes t) : s = t := by
  simp only [bytes, String.toUTF8] at h
  exact String.toByteArray_inj.mp (ByteArray.ext (Array.toList_inj.mp h))

def lower (s : String) : List Char := s.toList.map Char.toLower

def sameLetters (s t : String) : Bool := lower s = lower t

end Roshambo.Text
