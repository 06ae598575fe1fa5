import Roshambo.Text.Tail

namespace Roshambo.Text

inductive Selector
  | picture
  | text
  | fullwidth
  deriving DecidableEq

def Selector.of? (c : Char) : Option Selector :=
  if c = '\ufe0f' then some .picture
  else if c = '\ufe0e' then some .text
  else if c = '\ufe01' then some .fullwidth
  else none

def isQuote (c : Char) : Bool := isWithin c 0x2018 0x2019 || isWithin c 0x201c 0x201d

structure Right where
  tail : Tail
  selector : Option Selector
  deriving DecidableEq

namespace Right

def of (tail : Tail) : Right := ⟨tail, none⟩

def select (selector : Selector) (tail : Tail) : Right :=
  match tail with
  | .ligature l => ⟨.ligature l, some selector⟩
  | .joined | .joinedKeycap => ⟨if selector = .picture then tail else .plain, some selector⟩
  | _ => ⟨.plain, some selector⟩

def unselected (r : Right) : Tail :=
  match r.selector, r.tail with
  | none, tail => tail
  | some _, .ligature l => .ligature l
  | some _, _ => .plain

def selected? (c : Char) (r : Right) : Option (Int × Tail) :=
  match r.selector with
  | some .picture => if pictorial.covers c then some (if r.tail.isJoined then 0 else 2, .picture) else none
  | some .text => if textual.covers c then some (1, .plain) else none
  | some .fullwidth => if isQuote c then some (2, .plain) else none
  | none => none

def step (c : Char) (r : Right) : Int × Right :=
  match r.selected? c, Selector.of? c with
  | some (n, tail), _ => (n, of tail)
  | none, some selector => (0, select selector r.unselected)
  | none, none => ((r.unselected.step c).1, of (r.unselected.step c).2)

end Right

def measure (cs : List Char) : Int × Right :=
  cs.foldr (fun c acc => let (n, r) := acc.2.step c; (acc.1 + n, r)) (0, Right.of .plain)

def width (s : String) : Nat := (measure s.toList).1.toNat

end Roshambo.Text
