import Roshambo.LedgerError
import Roshambo.Text.Hex

/-! A name is the path of a file, or a reference: `file:`, a path in which bytes may be written as a percent sign and
two digits, and after a question mark options, up to a number sign. -/

namespace Roshambo.CommandLine

/-- A database by the name it was asked for; one without a path is kept in memory and gone after the run. -/
structure DatabaseName where
  text : String
  path : Option String
  mayCreate : Bool
  deriving DecidableEq

namespace DatabaseName

def unescape : List UInt8 → List UInt8
  | [] => []
  | [a] => [a]
  | [a, b] => [a, b]
  | a :: b :: c :: rest =>
    match Hex.nibble? b, Hex.nibble? c with
    | some high, some low =>
      if a.toNat ≠ 37 then a :: unescape (b :: c :: rest)
      else if 16 * high + low = 0 then []
      else UInt8.ofNat (16 * high + low) :: unescape rest
    | _, _ => a :: unescape (b :: c :: rest)

def unescaped (cs : List Char) : String :=
  let text := String.ofList cs
  (String.fromUTF8? ⟨(unescape (Text.bytes text)).toArray⟩).getD text

def upTo (mark : Char) (cs : List Char) : List Char := cs.takeWhile (· ≠ mark)

def after (mark : Char) (cs : List Char) : List Char := (cs.dropWhile (· ≠ mark)).drop 1

def checkAuthority : List Char → Except StorageFault (List Char)
  | '/' :: '/' :: cs =>
    let authority := String.ofList (upTo '/' cs)
    if authority = "" ∨ authority = "localhost" then .ok (cs.dropWhile (· ≠ '/'))
    else .error (.unknownAuthority authority)
  | cs => .ok cs

def optionOf (text : String) : Option (String × String) :=
  let name := unescaped (upTo '=' text.toList)
  if name = "" then none else some (name, unescaped (after '=' text.toList))

def apply (name : DatabaseName) (option : String × String) : Except StorageFault DatabaseName :=
  match option with
  | ("mode", "rwc") => .ok { name with mayCreate := true }
  | ("mode", "rw") | ("mode", "ro") => .ok { name with mayCreate := false }
  | ("mode", "memory") => .ok { name with path := none }
  | ("mode", value) => .error (.unknownMode "access" value)
  | ("cache", "shared") | ("cache", "private") => .ok name
  | ("cache", value) => .error (.unknownMode "cache" value)
  | _ => .ok name

def systems : List String := ["unix", "unix-none", "unix-dotfile", "unix-excl"]

def checkSystem (options : List (String × String)) : Except StorageFault Unit :=
  match (options.filter (·.1 = "vfs")).getLast? with
  | some (_, system) => if systems.contains system then .ok () else .error (.unknownSystem system)
  | none => .ok ()

def ofReference (text : String) (cs : List Char) : Except StorageFault DatabaseName := do
  let cs ← checkAuthority cs
  let cs := upTo '#' cs
  let path := unescaped (upTo '?' cs)
  let options := ((String.ofList (after '?' cs)).splitOn "&").filterMap optionOf
  let name := ⟨text, if path = "" ∨ path = ":memory:" then none else some path, true⟩
  let name ← options.foldlM apply name
  checkSystem options
  return name

def ofText (text : String) : Except StorageFault DatabaseName :=
  match text.toList with
  | 'f' :: 'i' :: 'l' :: 'e' :: ':' :: cs => ofReference text cs
  | _ => .ok ⟨text, if text = ":memory:" then none else some text, true⟩

end DatabaseName

end Roshambo.CommandLine
