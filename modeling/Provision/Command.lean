import Provision.Path

namespace Provision

/-- What to run, with which arguments, where, and with which variables on top of the inherited ones.
It is also the unit of a plan. -/
structure Command where
  program : String
  args : List String := []
  /-- The directory to run in, when it is not the caller's. -/
  cwd : Option Path := none
  /-- Variables set on top of the inherited ones, the last of one name winning. -/
  env : List (String × String) := []
deriving DecidableEq

namespace Command

/-- The first word is the program; no words make no command. -/
def ofWords? : List String → Option Command
  | [] => none
  | program :: args => some { program, args }

def words (c : Command) : List String := c.program :: c.args

def arg (c : Command) (a : String) : Command := { c with args := c.args ++ [a] }

def withArgs (c : Command) (more : List String) : Command := { c with args := c.args ++ more }

def inDirectory (c : Command) (dir : Path) : Command := { c with cwd := some dir }

def withEnv (c : Command) (vars : List (String × String)) : Command :=
  { c with env := c.env ++ vars }

/-- The words with single blanks between them; nothing is quoted. -/
def display (c : Command) : String := String.intercalate " " c.words

@[simp] theorem words_arg (c : Command) (a : String) : (c.arg a).words = c.words ++ [a] := rfl

@[simp] theorem words_withArgs (c : Command) (more : List String) :
    (c.withArgs more).words = c.words ++ more := rfl

@[simp] theorem words_withEnv (c : Command) (vars : List (String × String)) :
    (c.withEnv vars).words = c.words := rfl

end Command
end Provision
