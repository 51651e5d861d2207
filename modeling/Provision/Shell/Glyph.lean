import Provision.Shell.Pattern
import Provision.Shell.State

namespace Provision.Shell

/-- What the pieces of a word come to, before it is split into words and before patterns in it
become the paths that fit them. What stood between quotes is neither split nor a pattern; what was
written bare is not split. -/
inductive Glyph
  | quoted (c : Char)
  | bare (c : Char)
  | loose (c : Char)
  /-- Keeps a word although nothing is in it. -/
  | mark
  | boundary
deriving DecidableEq

namespace Glyph

def ofQuoted (value : String) : List Glyph := value.toList.map .quoted

def ofLoose (value : String) : List Glyph := value.toList.map .loose

def ofValue (isQuoted : Bool) (value : String) : List Glyph :=
  if isQuoted then ofQuoted value else ofLoose value

def loosen : Glyph → Glyph
  | bare c => loose c
  | g => g

def char? : Glyph → Option Char
  | quoted c | bare c | loose c => some c
  | mark | boundary => none

def sign? : Glyph → Option Sign
  | quoted c => some ⟨c, true⟩
  | bare c | loose c => some ⟨c, false⟩
  | mark | boundary => none

def text (gs : List Glyph) : String := String.ofList (gs.filterMap char?)

def pattern (gs : List Glyph) : Pattern := Pattern.read (gs.filterMap sign?)

/-- Whether a separator is blank space, which counts once however long it is. -/
def isSpace (c : Char) : Bool := c = ' ' || c = '\t' || c = '\n'

inductive Passing
  | nothing
  | spaces
  | spacesAndOne
deriving DecidableEq

/-- How far words are split: the words before, the latest first, and the open word in reverse. -/
structure Splitting where
  words : List (List Glyph) := []
  current : List Glyph := []
  passing : Passing := .nothing

namespace Splitting

def grow (s : Splitting) (g : Glyph) : Splitting :=
  { s with current := g :: s.current, passing := .nothing }

def close (s : Splitting) (passing : Passing) : Splitting :=
  { words := s.current.reverse :: s.words, passing }

/-- Closes a word that is not empty. -/
def closeOpen (s : Splitting) : Splitting :=
  if s.current = [] then { s with passing := .nothing } else s.close .nothing

def step (separators : List Char) (s : Splitting) (g : Glyph) : Splitting :=
  match g with
  | .boundary => s.closeOpen
  | .loose c =>
    if !separators.contains c then s.grow g
    else if isSpace c then
      if s.current = [] then s else s.close .spacesAndOne
    else if s.passing = .spacesAndOne then { s with passing := .spaces }
    else s.close .spaces
  | g => s.grow g

end Splitting

def split (separators : List Char) (gs : List Glyph) : List (List Glyph) :=
  (gs.foldl (Splitting.step separators) {}).closeOpen.words.reverse

def segments : List Sign → List (List Sign)
  | [] => [[]]
  | s :: rest =>
    if s.char = '/' then [] :: segments rest
    else match segments rest with
      | [] => [[s]]
      | first :: others => (s :: first) :: others

def names (fs : FileSystem) (directory : String) : List String :=
  let path : Path := ⟨if directory = "" then "." else Octets.toText directory⟩
  match fs.find path with
  | .ok (l, .directory) =>
    let inside := (fs.entriesBelow l).filterMap (fun (m, _) =>
      if m.length = l.length + 1 then m.getLast? else none)
    "." :: ".." :: inside.map Octets.ofText
  | _ => []

/-- Whether a pattern can fit a name: a leading dot has to be written. -/
def allows (signs : List Sign) (name : String) : Bool :=
  name.toList.head? ≠ some '.' || (signs.head?.map (·.char)) = some '.'

def exists? (fs : FileSystem) (path : String) : Bool :=
  match fs.findUnfollowed ⟨Octets.toText path⟩ with
  | .ok _ => true
  | .error _ => false

def paths (fs : FileSystem) : List (List Sign) → (before : String) → List String
  | [], before => if exists? fs before then [before] else []
  | signs :: rest, before =>
    let slash := if rest.isEmpty then "" else "/"
    let p := Pattern.read signs
    if p.isActive then
      ((names fs before).filter (fun n => allows signs n && p.fits n.toList)).flatMap (fun n =>
        paths fs rest (before ++ n ++ slash))
    else paths fs rest (before ++ String.ofList (signs.map (·.char)) ++ slash)

/-- The paths that fit a word, in order; without any the word stands for itself. -/
def spread (fs : FileSystem) (gs : List Glyph) : List String :=
  let parts := segments (gs.filterMap sign?)
  let found := if parts.any (fun signs => (Pattern.read signs).isActive) then paths fs parts ""
    else []
  if found.isEmpty then [text gs] else found.mergeSort (fun a b => a ≤ b)

end Glyph
end Provision.Shell
