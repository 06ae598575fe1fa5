import Roshambo.Text.Breadth
import Roshambo.Text.Picture

/-! A text is measured from its end: pictures that are joined, and letters that are written as one, count once. -/

namespace Roshambo.Text

inductive Ligature
  | arabicAlef
  | hebrewLamed (joined : Bool)
  | khmerLetter
  | bugineseYa (joined : Bool)
  | bugineseVowelYa
  | tifinaghConsonant (joined : Bool)
  | tifinaghLink
  | lisuTone
  | turkicI (joined : Bool)
  deriving DecidableEq

inductive Tail
  | plain
  | lineFeed
  | tone
  | flag
  | flags
  | picture
  | joined
  | joinedKeycap
  | joinedFlags (letters : Nat)
  | joinedTags (letters digits : Nat)
  | kiratE
  | kiratAi
  | ligature (l : Ligature)
  deriving DecidableEq

def joiner : Char := '\u200d'

def isWithin (c : Char) (low high : Nat) : Bool := low ≤ c.toNat && c.toNat ≤ high

def isFlagLetter (c : Char) : Bool := isWithin c 0x1f1e6 0x1f1ff

def isTone (c : Char) : Bool := isWithin c 0x1f3fb 0x1f3ff

def isTagLetter (c : Char) : Bool := isWithin c 0xe0061 0xe007a

def isTagDigit (c : Char) : Bool := isWithin c 0xe0030 0xe0039

def arabicAlefs : Ranges :=
  [(0x622, 0x623), (0x625, 0x625), (0x627, 0x627), (0x671, 0x673), (0x675, 0x675), (0x773, 0x774), (0x870, 0x882)]

def arabicLams : Ranges := [(0x644, 0x644), (0x6b5, 0x6b8), (0x76a, 0x76a), (0x8a6, 0x8a6), (0x8c7, 0x8c7)]

def khmerLetters : Ranges :=
  [(0x1780, 0x1782), (0x1784, 0x1787), (0x1789, 0x178c), (0x178e, 0x1793), (0x1795, 0x1798), (0x179b, 0x179d),
    (0x17a0, 0x17a0), (0x17a2, 0x17a2), (0x17a7, 0x17a7), (0x17ab, 0x17ac), (0x17af, 0x17af)]

def tifinaghConsonants : Ranges := [(0x2d31, 0x2d65), (0x2d6f, 0x2d6f)]

/-- Characters without columns that keep two Arabic letters apart. -/
def separating : Ranges :=
  [(0x605, 0x605), (0x890, 0x891), (0x8e2, 0x8e2), (0x9be, 0x9be), (0x9d7, 0x9d7), (0xb3e, 0xb3e),
    (0xb57, 0xb57), (0xbbe, 0xbbe), (0xbd7, 0xbd7), (0xcc0, 0xcc0), (0xcc2, 0xcc2), (0xcc7, 0xcc8),
    (0xcca, 0xccb), (0xcd5, 0xcd6), (0xd3e, 0xd3e), (0xd4e, 0xd4e), (0xd57, 0xd57), (0xdcf, 0xdcf),
    (0xddf, 0xddf), (0x1160, 0x11ff), (0x1715, 0x1715), (0x1734, 0x1734), (0x180e, 0x180e), (0x1b35, 0x1b35),
    (0x1b3b, 0x1b3b), (0x1b3d, 0x1b3d), (0x1b43, 0x1b44), (0x1baa, 0x1baa), (0x1bf2, 0x1bf3), (0x200c, 0x200d),
    (0x2065, 0x2069), (0x302e, 0x302f), (0x3164, 0x3164), (0xa8fa, 0xa8fa), (0xa953, 0xa953), (0xa9c0, 0xa9c0),
    (0xd7b0, 0xd7c6), (0xd7cb, 0xd7fb), (0xff9e, 0xffa0), (0xfff0, 0xfff8), (0x111c0, 0x111c0),
    (0x111c2, 0x111c3), (0x11235, 0x11235), (0x1133e, 0x1133e), (0x1134d, 0x1134d), (0x11357, 0x11357),
    (0x113b8, 0x113b8), (0x113c2, 0x113c2), (0x113c5, 0x113c5), (0x113c7, 0x113c9), (0x113cf, 0x113cf),
    (0x113d1, 0x113d1), (0x114b0, 0x114b0), (0x114bd, 0x114bd), (0x115af, 0x115af), (0x116b6, 0x116b6),
    (0x11930, 0x11930), (0x1193d, 0x1193d), (0x1193f, 0x1193f), (0x11941, 0x11941), (0x11a84, 0x11a89),
    (0x11d46, 0x11d46), (0x11f02, 0x11f02), (0x11f41, 0x11f41), (0x16ff0, 0x16ff1), (0x1d165, 0x1d166),
    (0x1d16d, 0x1d172), (0xe0000, 0xe0000), (0xe0002, 0xe001f), (0xe0080, 0xe00ff), (0xe01f0, 0xe0fff)]

/-- Marks that are ignored where they are not known; no ligature but the Arabic one minds them. -/
def ignorableMarks : Ranges :=
  [(0x34f, 0x34f), (0x17b4, 0x17b5), (0x180b, 0x180d), (0x180f, 0x180f), (0xfe00, 0xfe0f), (0xe0100, 0xe01ef)]

def isTransparent (c : Char) : Bool := columns c = 0 && !separating.covers c

namespace Ligature

def of? (c : Char) : Option Ligature :=
  if arabicAlefs.covers c then some .arabicAlef
  else if c.toNat = 0x5dc then some (.hebrewLamed false)
  else if khmerLetters.covers c then some .khmerLetter
  else if c.toNat = 0x1a10 then some (.bugineseYa false)
  else if tifinaghConsonants.covers c then some (.tifinaghConsonant false)
  else if isWithin c 0xa4fc 0xa4fd then some .lisuTone
  else if c.toNat = 0x10c03 then some (.turkicI false)
  else none

def join : Ligature → Ligature
  | hebrewLamed _ => hebrewLamed true
  | bugineseYa _ => bugineseYa true
  | tifinaghConsonant _ => tifinaghConsonant true
  | turkicI _ => turkicI true
  | l => l

def extend? (c : Char) : Ligature → Option (Int × Tail)
  | arabicAlef =>
    if arabicLams.covers c then some (0, .plain)
    else if isTransparent c then some (0, .ligature arabicAlef)
    else none
  | hebrewLamed joined => if joined ∧ c.toNat = 0x5d0 then some (0, .plain) else none
  | khmerLetter => if c.toNat = 0x17d2 then some (-1, .plain) else none
  | bugineseYa joined => if joined ∧ c.toNat = 0x1a17 then some (0, .ligature bugineseVowelYa) else none
  | bugineseVowelYa => if c.toNat = 0x1a15 then some (0, .plain) else none
  | tifinaghConsonant joined =>
    if c.toNat = 0x2d7f then some (1, .ligature tifinaghLink)
    else if joined ∧ tifinaghConsonants.covers c then some (0, .plain)
    else none
  | tifinaghLink => if tifinaghConsonants.covers c then some (-1, .plain) else none
  | lisuTone => if isWithin c 0xa4f8 0xa4fb then some (0, .plain) else none
  | turkicI joined => if joined ∧ c.toNat = 0x10c32 then some (0, .plain) else none

def step? (c : Char) (l : Ligature) : Option (Int × Tail) :=
  if l ≠ arabicAlef ∧ c = joiner then some (0, .ligature l.join)
  else if l ≠ arabicAlef ∧ ignorableMarks.covers c then some (0, .ligature l)
  else l.extend? c

end Ligature

namespace Tail

def of (c : Char) : Tail :=
  if c = '\n' then lineFeed
  else if isFlagLetter c then flag
  else if isTone c then tone
  else if pictures.covers c then picture
  else if c.toNat = 0x16d67 then kiratE
  else if c.toNat = 0x16d68 then kiratAi
  else ((Ligature.of? c).map ligature).getD plain

def isJoined : Tail → Bool
  | joined | joinedKeycap => true
  | _ => false

def joinedStep? (c : Char) : Option (Int × Tail) :=
  if c.toNat = 0x20e3 then some (0, joinedKeycap)
  else if isFlagLetter c then some (1, joinedFlags 1)
  else if isTone c then some (0, tone)
  else if c.toNat = 0xe007f then some (0, joinedTags 0 0)
  else if pictures.covers c then some (0, picture)
  else none

def flagStep? (c : Char) (letters : Nat) : Option (Int × Tail) :=
  if isFlagLetter c then some (if letters % 2 = 1 then -1 else 3, joinedFlags (letters + 1))
  else if c = joiner ∧ 1 < letters then some (0, joined)
  else none

/-- The flag of a region is a black flag with three to six letters, or with three digits and up to four letters. -/
def tagStep? (c : Char) (letters digits : Nat) : Option (Int × Tail) :=
  if isTagLetter c ∧ digits = 0 ∧ letters < 6 then some (0, joinedTags (letters + 1) 0)
  else if isTagDigit c ∧ digits < 3 ∧ letters < 5 then some (0, joinedTags letters (digits + 1))
  else if c.toNat = 0x1f3f4 ∧ (digits = 3 ∨ digits = 0 ∧ 2 < letters) then some (0, picture)
  else none

def step? (c : Char) : Tail → Option (Int × Tail)
  | plain => none
  | lineFeed => if c = '\r' then some (0, plain) else none
  | tone =>
    if toned.covers c then some (0, picture) else if c = joiner then some (0, joined) else none
  | flag => if isFlagLetter c then some (1, flags) else none
  | flags =>
    if isFlagLetter c then some (1, flags) else if c = joiner then some (0, joined) else none
  | picture => if c = joiner then some (0, joined) else none
  | joined => joinedStep? c
  | joinedKeycap => none
  | joinedFlags letters => flagStep? c letters
  | joinedTags letters digits => tagStep? c letters digits
  | kiratE =>
    if c.toNat = 0x16d63 ∨ c.toNat = 0x16d69 then some (0, plain)
    else if c.toNat = 0x16d67 then some (0, kiratAi)
    else if c.toNat = 0x16d68 then some (1, kiratE)
    else none
  | kiratAi => if c.toNat = 0x16d63 then some (0, plain) else none
  | ligature l => l.step? c

def step (c : Char) (tail : Tail) : Int × Tail := (tail.step? c).getD ((columns c : Int), of c)

end Tail

end Roshambo.Text
