import Provision.Platform
import Provision.Work

namespace Provision

variable {σ : Type}

/-- Asks for each package in order and keeps those that are not installed. -/
def missingPackages (R : Runner σ) (profile : PlatformProfile) : List String → Work σ (List String)
  | [] => pure []
  | package :: rest => do
    let installed ← Work.probe R (profile.probeOf package)
    let missing ← missingPackages R profile rest
    pure (if installed then missing else package :: missing)

/-- A failed command of the package manager is a failed installation. -/
def asInstallFailure (profile : PlatformProfile) (e : Failure) : Failure :=
  match e.fault? with
  | some (.childFailed _ status) => .ofFault (.packageInstall profile.manager status)
  | _ => e

def runManager (R : Runner σ) (profile : PlatformProfile) (c : Command) : Work σ Unit := do
  Work.enter c
  (Work.run R c).mapFailure (asInstallFailure profile)

/-- Installs what is missing of the profile's packages, and returns what was. -/
def ensurePackages (R : Runner σ) (profile : PlatformProfile) : Work σ (List String) := do
  let missing ← missingPackages R profile profile.packages
  if missing.isEmpty then
    Work.note .packages .info "all packages already installed"
      [("manager", Log.quoted profile.manager)]
    pure missing
  else
    Work.note .packages .info "installing missing packages"
      [("manager", Log.quoted profile.manager), ("packages", String.intercalate " " missing)]
    match profile.refresh with
    | some refresh => runManager R profile refresh
    | none => pure ()
    runManager R profile (profile.installOf missing)
    pure missing

end Provision
