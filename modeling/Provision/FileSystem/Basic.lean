import Provision.Path

namespace Provision

/-- The names that lead from the root to an entry. -/
abbrev Location := List String

inductive Entry
  | directory
  | file (content : ByteArray) (executable : Bool)
  | link (target : String)

instance : DecidableEq Entry
  | .directory, .directory => .isTrue rfl
  | .file content executable, .file content' executable' =>
    decidable_of_iff (content.data = content'.data ∧ executable = executable')
      (by simp [ByteArray.ext_iff])
  | .link target, .link target' => decidable_of_iff (target = target') (by simp)
  | .directory, .file _ _ | .directory, .link _ | .file _ _, .link _ => .isFalse (by simp)
  | .file _ _, .directory | .link _, .directory | .link _, .file _ _ => .isFalse (by simp)

/-- A finite table from locations to entries, and the directory that relative paths start from; the
root is a directory and stands in no table. Of what a host has beside that nothing is here: no file
under two names by a hard link, no owners and no permissions but that to run a file, so nothing is
refused for want of them; no special files; and no names that are not UTF-8. -/
structure FileSystem where
  entries : List (Location × Entry) := []
  cwd : Location := []

namespace FileSystem

def entry? (fs : FileSystem) (l : Location) : Option Entry :=
  if l = [] then some .directory else (fs.entries.find? (·.1 = l)).map (·.2)

def put (fs : FileSystem) (l : Location) (e : Entry) : FileSystem :=
  { fs with entries := (l, e) :: fs.entries.filter (·.1 ≠ l) }

def erase (fs : FileSystem) (l : Location) : FileSystem :=
  { fs with entries := fs.entries.filter (·.1 ≠ l) }

def below (top l : Location) : Bool := top.isPrefixOf l && top ≠ l

/-- Empties the directory at `top`; links below it are removed, what they point to is not. -/
def eraseBelow (fs : FileSystem) (top : Location) : FileSystem :=
  { fs with entries := fs.entries.filter (fun e => !below top e.1) }

def isEmptyAt (fs : FileSystem) (top : Location) : Bool :=
  fs.entries.all (fun e => !below top e.1)

end FileSystem
end Provision
