import Provision.Archive
import Provision.Config
import Provision.Packages
import Provision.Privilege

namespace Provision

structure BootstrapPlan where
  platform : Platform
  variant : Variant
  url : String
  sha256 : Option String := none
  archiveDir : Path
  archiveZip : Path
  /-- The build command without the variables that point it to the archive. -/
  build : Command
  buildEnv : List (String × String) := []
  reinvoke : Command
  dryRun : Bool := false

structure BuildReport where
  platform : Platform
  variant : Variant
  escalation : Escalation
  missingPackages : List String
  archive : ArchiveStatus
  archiveDir : Path
  steps : List Command
  dryRun : Bool

inductive BootstrapOutcome
  /-- The reinvoked tool did the work and has reported. -/
  | delegated
  | completed (report : BuildReport)

namespace BootstrapPlan

variable {σ : Type}

def archiveRequest (plan : BootstrapPlan) : ArchiveRequest where
  url := plan.url
  sha256 := plan.sha256
  unpackDir := plan.archiveDir
  zipPath := plan.archiveZip
  dryRun := plan.dryRun

def buildCommand (plan : BootstrapPlan) : Command := plan.build.withEnv plan.buildEnv

/-- A status of the reinvoked tool is its own; anything else is a failed escalation. -/
def asEscalationFailure (plan : BootstrapPlan) (e : Failure) : Failure :=
  match e.fault? with
  | some (.childFailed _ _) => e
  | _ => .ofFault (.escalation plan.reinvoke.program e.message)

def escalate (R : Runner σ) (plan : BootstrapPlan) : Work σ Unit := do
  Work.note .bootstrap .info "not running as root, re-invoking with elevated privileges"
    [("command", plan.reinvoke.display)]
  (Work.run R plan.reinvoke).mapFailure plan.asEscalationFailure

def perform (A : Agents σ) (plan : BootstrapPlan) (escalation : Escalation) :
    Work σ BuildReport := do
  Work.forgetSteps
  if escalation = .reinvoke then Work.enter plan.reinvoke
  let profile := plan.platform.profile
  Work.note .bootstrap .info "checking native dependencies"
    [("platform", profile.platform.title), ("manager", Log.quoted profile.manager)]
  let missing ← ensurePackages A.toRunner profile
  let archive ← plan.archiveRequest.ensure A
  Work.enter plan.buildCommand
  Work.run A.toRunner plan.buildCommand
  let steps ← Work.steps
  pure {
    platform := plan.platform
    variant := plan.variant
    escalation
    missingPackages := missing
    archive
    archiveDir := plan.archiveDir
    steps
    dryRun := plan.dryRun }

/-- Packages, archive and build, each only after the one before it succeeded. A run without the
privileges it needs hands over to one with them. -/
def run (A : Agents σ) (plan : BootstrapPlan) (privilege : Privilege) :
    Work σ BootstrapOutcome := do
  if privilege.decide = .reinvoke ∧ plan.dryRun = false then
    plan.escalate A.toRunner
    pure .delegated
  else
    let report ← plan.perform A privilege.decide
    pure (.completed report)

end BootstrapPlan
end Provision
