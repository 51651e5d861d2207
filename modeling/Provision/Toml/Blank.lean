import Provision.Toml.Value

namespace Provision.Toml

def isBlank (c : Char) : Bool := c = ' ' || c = '\t'

def skipBlanks (s : List Char) : List Char := s.dropWhile isBlank

/-- A character that a comment or a quoted text may hold as it is: no control character but the
tab. -/
def isPlain (c : Char) : Bool := c = '\t' || (0x20 ≤ c.toNat && c.toNat ≠ 0x7f)

def lineEnd? : List Char → Option (List Char)
  | '\n' :: s => some s
  | '\r' :: '\n' :: s => some s
  | _ => none

/-- The rest of a line that may hold a comment, with its end; the text may end there too. -/
def finishLine? (s : List Char) : Option (List Char) :=
  let s := skipBlanks s
  let s := match s with
    | '#' :: c => c.dropWhile isPlain
    | s => s
  if s.isEmpty then some [] else lineEnd? s

def skipLines : (fuel : Nat) → List Char → Option (List Char)
  | 0, s => some s
  | fuel + 1, s =>
    match skipBlanks s with
    | '#' :: c =>
      match lineEnd? (c.dropWhile isPlain) with
      | some rest => skipLines fuel rest
      | none => none
    | s =>
      match lineEnd? s with
      | some rest => skipLines fuel rest
      | none => some s

def skipSpace (s : List Char) : Option (List Char) := skipLines (s.length + 1) s

end Provision.Toml
