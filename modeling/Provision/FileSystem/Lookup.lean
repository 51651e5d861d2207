import Provision.IoError
import Provision.FileSystem.Basic

namespace Provision

/-- Where a path leads. -/
inductive Place
  | present (l : Location)
  | vacant (directory : Location) (name : String)
deriving DecidableEq

namespace FileSystem

/-- The steps of a path text; blank names are slashes, which lead nowhere but ask for a directory.
-/
def stepsOf (text : String) : List String := (Path.segments text.toList).map String.ofList

inductive Walk
  | found (p : Place)
  | atLink (directory : Location) (target : String) (rest : List String)
  | failed (e : IoError)

def nameLimit : Nat := 255

def pathLimit : Nat := 4095

def linkLimit : Nat := 40

/-- Walks along names; `creating` asks for a place for a file, which no slash may follow. -/
def walk (fs : FileSystem) (creating : Bool) : Location → List String → Walk
  | here, [] => .found (.present here)
  | here, n :: rest =>
    if n = "" ∨ n = "." then walk fs creating here rest
    else if n = ".." then walk fs creating here.dropLast rest
    else if creating && !rest.isEmpty && rest.all (· = "") then .failed .isDirectory
    else if nameLimit < n.utf8ByteSize then .failed .nameTooLong
    else match fs.entry? (here ++ [n]) with
      | none =>
        if rest.all (· = "") then .found (.vacant here n) else .failed .noEntry
      | some (.link target) => .atLink here target rest
      | some .directory => walk fs creating (here ++ [n]) rest
      | some (.file _ _) =>
        if rest.isEmpty then .found (.present (here ++ [n])) else .failed .notDirectory

def isRooted (text : String) : Bool := text.toList.head? = some '/'

def follow (fs : FileSystem) (creating : Bool) :
    (links : Nat) → Location → List String → Except IoError Place
  | links, here, steps =>
    match fs.walk creating here steps with
    | .found p => .ok p
    | .failed e => .error e
    | .atLink directory target rest =>
      match links with
      | 0 => .error .tooManyLinks
      | links + 1 =>
        fs.follow creating links (if isRooted target then [] else directory)
          (stepsOf target ++ rest)

/-- A path that no lookup accepts, whatever the file system holds. -/
def refused? (text : String) : Option IoError :=
  if text.toList.contains '\x00' then some .nulInName
  else if text = "" then some .noEntry
  else if pathLimit < text.utf8ByteSize then some .nameTooLong
  else none

def startOf (fs : FileSystem) (text : String) : Location := if isRooted text then [] else fs.cwd

/-- Where a path leads once every link is followed, from the left and at most forty of them. A path
whose last name is missing in an existing directory is told apart from one that leads nowhere,
because it can be created. -/
def lookup (fs : FileSystem) (p : Path) (creating : Bool := false) : Except IoError Place :=
  match refused? p.text with
  | some e => .error e
  | none => fs.follow creating linkLimit (fs.startOf p.text) (stepsOf p.text)

/-- The last step of a path when it is not followed. -/
inductive Last
  | name (text : String)
  | dot
  | dotDot
  | root
deriving DecidableEq

/-- A path cut before its last step: the directory it stands in, and whether slashes follow it. -/
structure Slot where
  directory : Location
  last : Last
  slashed : Bool

namespace Slot

def location? (s : Slot) : Option Location :=
  match s.last with
  | .name n => some (s.directory ++ [n])
  | _ => none

end Slot

def cutLast (steps : List String) : List String × Last × Bool :=
  let core := (steps.reverse.dropWhile (· = "")).reverse
  let slashed := decide (core.length < steps.length)
  match core.getLast? with
  | none => ([], .root, slashed)
  | some "." => (core.dropLast, .dot, slashed)
  | some ".." => (core.dropLast, .dotDot, slashed)
  | some n => (core.dropLast, .name n, slashed)

def slot (fs : FileSystem) (p : Path) : Except IoError Slot :=
  match refused? p.text with
  | some e => .error e
  | none =>
    let (front, last, slashed) := cutLast (stepsOf p.text)
    match fs.follow false linkLimit (fs.startOf p.text) front with
    | .error e => .error e
    | .ok (.vacant _ _) => .error .noEntry
    | .ok (.present l) =>
      if fs.entry? l ≠ some .directory then .error .notDirectory
      else match last with
        | .name n =>
          if nameLimit < n.utf8ByteSize then .error .nameTooLong else .ok ⟨l, last, slashed⟩
        | _ => .ok ⟨l, last, slashed⟩

end FileSystem
end Provision
