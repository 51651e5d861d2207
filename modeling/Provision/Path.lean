namespace Provision

/-- A path as it was written, so two paths that name one place can differ. It is never normalised:
joining keeps the pieces as given, and the components, the file name and the parent are read off the
text. The text is Unicode; a path of other bytes has no counterpart. -/
structure Path where
  text : String
deriving DecidableEq, Inhabited

/-- What a path names step by step. Repeated slashes and inner dots name nothing. -/
inductive Component
  | root
  | here
  | up
  | name (text : String)
deriving DecidableEq

namespace Path

def segments : List Char → List (List Char)
  | [] => [[]]
  | c :: cs =>
    if c = '/' then [] :: segments cs
    else match segments cs with
      | [] => [[c]]
      | s :: ss => (c :: s) :: ss

/-- Joins pieces with slashes; the inverse of `segments` on a nonempty list. -/
def unsegments : List (List Char) → List Char
  | [] => []
  | [s] => s
  | s :: ss => s ++ '/' :: unsegments ss

def isBlank (s : List Char) : Bool := s = [] || s = ['.']

def trimBlankEnd (ss : List (List Char)) : List (List Char) :=
  (ss.reverse.dropWhile isBlank).reverse

/-- Where a path starts, and the pieces that follow. -/
structure Split where
  lead : Option (List Char)
  body : List (List Char)

def split (cs : List Char) : Split :=
  match segments cs with
  | [] :: s :: ss => ⟨some [], s :: ss⟩
  | ['.'] :: ss => ⟨some ['.'], ss⟩
  | ss => ⟨none, ss⟩

/-- The text of a split path; a root with nothing below it keeps its slash. -/
def Split.join (s : Split) : List Char :=
  match s.lead, s.body with
  | some [], [] => ['/']
  | some l, ss => unsegments (l :: ss)
  | none, ss => unsegments ss

def ofChars (cs : List Char) : Path := ⟨String.ofList cs⟩

def chars (p : Path) : List Char := p.text.toList

def isAbsolute (p : Path) : Bool := p.chars.head? = some '/'

def stepOf (s : List Char) : Option Component :=
  if isBlank s then none
  else if s = ['.', '.'] then some .up
  else some (.name (String.ofList s))

def leadStep : Option (List Char) → List Component
  | none => []
  | some [] => [.root]
  | some _ => [.here]

def components (p : Path) : List Component :=
  let s := split p.chars
  leadStep s.lead ++ s.body.filterMap stepOf

/-- An absolute second path replaces the first; otherwise one slash stands between the two. -/
def join (p q : Path) : Path :=
  if q.isAbsolute || p.chars.isEmpty then q
  else if p.chars.getLast? = some '/' then ⟨p.text ++ q.text⟩
  else ⟨p.text ++ "/" ++ q.text⟩

/-- The last step, when it is a name: trailing slashes and dots do not hide it. -/
def fileName? (p : Path) : Option String :=
  match p.components.getLast? with
  | some (.name n) => some n
  | _ => none

/-- The path without its last step; none for the root and the empty path. -/
def parent? (p : Path) : Option Path :=
  let s := split p.chars
  match trimBlankEnd s.body with
  | [] => if s.lead = some ['.'] then some ⟨""⟩ else none
  | body => some (ofChars (Split.join { s with body := trimBlankEnd body.dropLast }))

def withFileName (p : Path) (name : String) : Path :=
  match p.fileName?, p.parent? with
  | some _, some q => q.join ⟨name⟩
  | _, _ => p.join ⟨name⟩

/-- A file name without its extension; a leading dot does not start an extension. -/
def stem (name : List Char) : List Char :=
  match (name.reverse.dropWhile (· ≠ '.')).reverse with
  | [] => name
  | before =>
    match before.dropLast with
    | [] => name
    | s => s

def withExtension (p : Path) (extension : String) : Path :=
  match p.fileName? with
  | none => p
  | some name =>
    let s := split p.chars
    let renamed := stem name.toList ++ '.' :: extension.toList
    ofChars (Split.join { s with body := (trimBlankEnd s.body).dropLast ++ [renamed] })

instance : ToString Path := ⟨Path.text⟩

end Path
end Provision
