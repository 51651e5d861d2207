import Provision.Platform
import Provision.Work

namespace Provision

variable {σ : Type}

def noteMarkers (hostRoot : Path) : List Platform → Work σ Unit
  | [] => pure ()
  | platform :: rest => do
    Work.note .platform .debug "checking distro marker"
      [("marker", (platform.markerUnder hostRoot).text)]
    noteMarkers hostRoot rest

def findPlatform? (hostRoot : Path) : Work σ (Option Platform) := do
  noteMarkers hostRoot (← Work.ask (Platform.checked · hostRoot))
  Work.ask (Platform.detect? · hostRoot)

/-- A host without any marker is not supported. -/
def findPlatform (hostRoot : Path) : Work σ Platform := do
  match ← findPlatform? hostRoot with
  | some platform => pure platform
  | none => Work.failWith (.unsupportedHost hostRoot)

end Provision
