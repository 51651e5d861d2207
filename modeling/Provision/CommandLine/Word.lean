namespace Provision.CommandLine

inductive Word
  /-- Two dashes alone: no option follows. -/
  | escape
  | long (name : String) (value : Option String)
  | short (letters : List Char)
  | plain
deriving DecidableEq

namespace Word

def cutAtEquals : List Char → List Char × Option (List Char)
  | [] => ([], none)
  | c :: cs =>
    if c = '=' then ([], some cs)
    else
      let (name, value) := cutAtEquals cs
      (c :: name, value)

def ofString (s : String) : Word :=
  match s.toList with
  | ['-', '-'] => escape
  | '-' :: '-' :: cs =>
    let (name, value) := cutAtEquals cs
    long (String.ofList name) (value.map String.ofList)
  | '-' :: c :: cs => short (c :: cs)
  | _ => plain

theorem cutAtEquals_append {name value : List Char} (h : '=' ∉ name) :
    cutAtEquals (name ++ '=' :: value) = (name, some value) := by
  induction name with
  | nil => simp [cutAtEquals]
  | cons c cs ih =>
    simp only [List.mem_cons, not_or] at h
    simp [cutAtEquals, Ne.symm h.1, ih h.2]

end Word
end Provision.CommandLine
