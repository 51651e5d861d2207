import Provision.Path
import Provision.CommandLine.Given

namespace Provision

inductive Task
  | build (variant : Option Variant) (dryRun : Bool)
  | protos (compiler : Option String) (dryRun : Bool)
  | env
  | doctor
deriving DecidableEq

/-- What the tool is asked to do. An option before the subcommand holds unless it is given again
after it. -/
structure Invocation where
  json : Bool := false
  root : Path := ⟨"."⟩
  config : Option Path := none
  hostRoot : Path := ⟨"/"⟩
  verbose : Nat := 0
  task : Task
deriving DecidableEq

namespace Invocation

open CommandLine

def hostRootVariable : String := "BASTION_DEV_HOST_ROOT"

def taskOf (g : Given) : Subcommand → Task
  | .build => .build ((g.values .variant).bind Variant.ofName?) (g.flags .dryRun)
  | .protos => .protos (g.values .compiler) (g.flags .dryRun)
  | .env => .env
  | .doctor => .doctor

/-- Puts together what both levels give; what comes after the subcommand wins. -/
def ofGiven (hostRoot : Option String) (before after : Given) (s : Subcommand) : Invocation :=
  let value (s : Setting) : Option String := (after.values s).or (before.values s)
  { json := after.flags .json || before.flags .json
    root := ⟨(value .root).getD "."⟩
    config := (value .config).map (⟨·⟩)
    hostRoot := ⟨((value .hostRoot).or hostRoot).getD "/"⟩
    verbose := if after.verbose = 0 then before.verbose else after.verbose
    task := taskOf after s }

def parse (hostRoot : Option String) (words : List String) : Except Refusal Invocation := do
  match ← Given.read .top {} words with
  | (before, none) =>
    let before ← before.close hostRoot
    if before.isEmpty && hostRoot.isNone then .error .nothingGiven else .error .noSubcommand
  | (before, some (s, rest)) =>
    let (after, _) ← Given.read (.under s) {} rest
    let after ← after.close hostRoot
    let before ← before.close hostRoot
    pure (ofGiven hostRoot before after s)

end Invocation
end Provision
