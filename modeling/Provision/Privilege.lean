import Provision.Command

namespace Provision

/-- Set by a caller who vouches for the privileges of the run. -/
def buildAsRootVariable : String := "BASTIONAI_BUILD_AS_ROOT"

/-- Set on the child of a run that asked for more privileges. -/
def escalatedVariable : String := "BASTION_DEV_ESCALATED"

abbrev Environment := List (String × String)

namespace Environment

def value? (env : Environment) (name : String) : Option String :=
  (env.reverse.find? (·.1 = name)).map (·.2)

/-- An empty value counts as unset. -/
def isSet (env : Environment) (name : String) : Bool :=
  match env.value? name with
  | some v => v ≠ ""
  | none => false

end Environment

structure Privilege where
  isRoot : Bool
  overridden : Bool
  escalated : Bool
deriving DecidableEq

inductive Escalation
  | alreadyRoot
  | overridden
  | alreadyEscalated
  | reinvoke
deriving DecidableEq

namespace Escalation

def name : Escalation → String
  | alreadyRoot => "already_root"
  | overridden => "overridden"
  | alreadyEscalated => "already_escalated"
  | reinvoke => "reinvoke"

end Escalation

namespace Privilege

def ofEnvironment (isRoot : Bool) (env : Environment) : Privilege where
  isRoot := isRoot
  overridden := env.isSet buildAsRootVariable
  escalated := env.isSet escalatedVariable

def decide (p : Privilege) : Escalation :=
  if p.isRoot then .alreadyRoot
  else if p.overridden then .overridden
  else if p.escalated then .alreadyEscalated
  else .reinvoke

end Privilege

/-- The helper's words, the executable and its arguments. The command marks its child, so that this
never runs the tool a third time. -/
def reinvocation (helper : List String) (executable : Path) (args : List String) : Command :=
  let start := match Command.ofWords? helper with
    | some c => c.arg executable.text
    | none => { program := executable.text }
  (start.withArgs args).withEnv [(escalatedVariable, "1")]

end Provision
