import Roshambo.CommandLine.Help

/-! Common switches may stand at every level, each once. A value that is a word of its own is checked when its level
goes on or ends: a command named before that, with the help it may show, comes first. -/

namespace Roshambo.CommandLine

inductive Stop
  | misuse
  | shown (lines : List String)
  deriving DecidableEq

inductive Form
  | plain
  | separator
  | long (name : String) (value : Option String)
  | letters (cs : List Char)
  deriving DecidableEq

def Form.of (word : String) : Form :=
  match word.toList with
  | ['-', '-'] => .separator
  | '-' :: '-' :: cs =>
    let value := (cs.dropWhile (· ≠ '=')).tail?.map String.ofList
    .long (String.ofList (cs.takeWhile (· ≠ '='))) value
  | '-' :: c :: cs => .letters (c :: cs)
  | _ => .plain

structure Given where
  settings : Settings
  waiting : Option (Switch × String)

namespace Given

def empty : Given := ⟨[], none⟩

def assign? (given : Given) (s : Switch) (value : Value) : Option Given :=
  if (given.settings.lookup s.long).isSome then none
  else some { given with settings := (s.long, value) :: given.settings }

def give? (given : Given) (s : Switch) (text : String) : Option Given := do
  let (_, kind) ← s.value
  given.assign? s (← kind.read? text)

def settle? (given : Given) : Option Given :=
  match given.waiting with
  | none => some given
  | some (s, text) => { given with waiting := none }.give? s text

end Given

structure Level (α : Type) where
  path : List String
  entry : Entry α
  outer : List Given
  own : Given
  arguments : List Value

namespace Level

variable {α : Type} (g : Grammar α) (l : Level α)

def start : Level α := ⟨[], g.root, [], .empty, []⟩

def enter (entry : Entry α) : Level α := ⟨l.path ++ [entry.name], entry, l.own :: l.outer, .empty, []⟩

def orMisuse {β : Type} : Option β → Except Stop β
  | some b => .ok b
  | none => .error .misuse

def settle : Except Stop (Level α) := return { l with own := ← orMisuse l.own.settle? }

def give (s : Switch) (text : String) : Except Stop (Level α) := do
  let l ← l.settle
  return { l with own := ← orMisuse (l.own.give? s text) }

def await (s : Switch) (text : String) : Level α := { l with own := { l.own with waiting := some (s, text) } }

def help : Stop := .shown (Help.lines g l.path l.entry)

def turn (s : Switch) : Except Stop (Level α) := do
  let l ← l.settle
  if s = Help.helpSwitch then throw (l.help g)
  if s = Help.versionSwitch then throw (.shown [s!"{g.root.name} {g.version}"])
  return { l with own := ← orMisuse (l.own.assign? s .on) }

def switch? (p : Switch → Bool) : Option Switch := (Help.switchesOf g l.entry l.path.isEmpty).find? p

/-- Reads a switch by its name; the second result is a switch that still waits for its value. -/
def long (name : String) (value : Option String) : Except Stop (Level α × Option Switch) := do
  let s ← orMisuse (l.switch? g (·.long = name))
  match s.value, value with
  | none, none => return (← l.turn g s, none)
  | none, some _ => throw .misuse
  | some _, none => return (← l.settle, some s)
  | some _, some text => return (← l.give s text, none)

def letters (l : Level α) : List Char → Except Stop (Level α × Option Switch)
  | [] => return (l, none)
  | c :: cs => do
    let s ← orMisuse (l.switch? g (·.short = some c))
    match s.value, cs with
    | none, cs => letters (← l.turn g s) cs
    | some _, [] => return (← l.settle, some s)
    | some _, '=' :: text => return (← l.give s (String.ofList text), none)
    | some _, text => return (← l.give s (String.ofList text), none)

def argument (text : String) : Except Stop (Level α) := do
  let l ← l.settle
  let a ← orMisuse l.entry.arguments[l.arguments.length]?
  let value ← orMisuse (a.kind.read? text)
  return { l with arguments := l.arguments ++ [value] }

def settings? : Option Settings := do
  let levels ← (l.own :: l.outer).mapM Given.settle?
  return levels.flatMap (·.settings)

def finish : Except Stop α :=
  match l.entry with
  | .group _ _ _ => .error .misuse
  | .command _ _ arguments _ meaning =>
    if (arguments.drop l.arguments.length).any (·.required) then .error .misuse
    else orMisuse (l.settings?.bind fun settings => meaning ⟨l.arguments, settings⟩)

def helpFor (l : Level α) : List String → Stop
  | [] => l.help g
  | word :: words =>
    match l.entry.find? word, words with
    | some entry, words => helpFor (l.enter entry) words
    | none, [] => if l.entry.isGroup ∧ word = "help" then .shown (Help.helpLines g l.path) else .misuse
    | none, _ :: _ => .misuse

def step (form : Form) : Except Stop (Level α × Option Switch) :=
  match form with
  | .long name value => l.long g name value
  | .letters cs => letters g l cs
  | .plain | .separator => .error .misuse

def read (l : Level α) : List String → Except Stop α
  | [] => l.finish
  | word :: words =>
    if l.entry.isGroup ∧ word = "help" then .error (helpFor g l words)
    else match l.entry.find? word with
      | some entry => read (l.enter entry) words
      | none =>
        match Form.of word with
        | .separator => (words.foldlM argument l).bind finish
        | .plain => do read (← l.argument word) words
        | form => do
          match ← l.step g form, words with
          | (l, none), words => read l words
          | (_, some _), [] => throw .misuse
          | (l, some s), value :: words =>
            if Form.of value = .plain then read (l.await s value) words else throw .misuse

end Level

def Grammar.read {α : Type} (g : Grammar α) (words : List String) : Except Stop α := (Level.start g).read g words

end Roshambo.CommandLine
