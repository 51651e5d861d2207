import Provision.Path

namespace Provision

structure Variable where
  name : String
  value : String
deriving DecidableEq

namespace Variable

def pair (v : Variable) : String × String := (v.name, v.value)

/-- The shell line that sets the variable. Of the value only double quotes are escaped. -/
def exportLine (v : Variable) : String :=
  let value := v.value.toList.flatMap (fun c => if c = '"' then ['\\', '"'] else [c])
  "export " ++ v.name ++ "=\"" ++ String.ofList value ++ "\""

end Variable

namespace SearchPath

/-- Puts an entry before a list of directories; an empty list leaves the entry alone. -/
def prepend (entry : String) : Option String → String
  | none => entry
  | some list => if list = "" then entry else entry ++ ":" ++ list

end SearchPath

/-- The caller's values that the build's own are put in front of. -/
structure Inherited where
  home : Option String := none
  libraryPath : Option String := none
  path : Option String := none

/-- The search path of the build; without a home directory the caller's is kept. -/
def Inherited.searchPath? (i : Inherited) : Option String :=
  match i.home with
  | none => i.path
  | some home =>
    if home = "" then i.path
    else some (SearchPath.prepend (((Path.mk home).join ⟨".cargo"⟩).join ⟨"bin"⟩).text i.path)

def buildVariables (archive : Path) (i : Inherited) : List Variable :=
  [⟨"LIBTORCH", archive.text⟩,
    ⟨"LD_LIBRARY_PATH", SearchPath.prepend (archive.join ⟨"lib"⟩).text i.libraryPath⟩] ++
  i.searchPath?.toList.map (⟨"PATH", ·⟩)

end Provision
