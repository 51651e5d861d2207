import Provision.Detection
import Provision.Layout

namespace Provision

inductive CheckStatus
  | ok
  | missing
  | skipped
  | unsupported
deriving DecidableEq

namespace CheckStatus

def name : CheckStatus → String
  | ok => "ok"
  | missing => "missing"
  | skipped => "skipped"
  | unsupported => "unsupported"

/-- A check that was skipped stands in nobody's way. -/
def isFine : CheckStatus → Bool
  | ok | skipped => true
  | _ => false

end CheckStatus

structure Check where
  name : String
  status : CheckStatus
deriving DecidableEq

structure DoctorReport where
  platform : Option Platform
  checks : List Check

namespace DoctorReport

def isReady (r : DoctorReport) : Bool := r.checks.all (·.status.isFine)

def overall (r : DoctorReport) : String := if r.isReady then "ok" else "needs_attention"

end DoctorReport

namespace Doctor

variable {σ : Type}

def platformCheck (platform : Option Platform) : Check :=
  ⟨"platform", if platform.isSome then .ok else .unsupported⟩

/-- The questions asked of tools, in order; a tool that is not known is not asked for. -/
def toolProbes (platform : Option Platform) (c : Config) : List (String × Option Command) :=
  [("package_manager", platform.map (·.profile.version)),
    ("unzip", some { program := "unzip", args := ["-v"] }),
    ("build_tool", some { program := c.build.program, args := ["--version"] }),
    ("proto_compiler", (Command.ofWords? c.protos.compiler).map (·.arg "--version"))]

def checkTools (R : Runner σ) : List (String × Option Command) → Work σ (List Check)
  | [] => pure []
  | (name, none) :: rest => do
    let checks ← checkTools R rest
    pure (⟨name, .skipped⟩ :: checks)
  | (name, some c) :: rest => do
    let answer ← Work.probe R c
    let checks ← checkTools R rest
    pure (⟨name, if answer then .ok else .missing⟩ :: checks)

def neededPaths (l : Layout) (c : Config) : List (String × Path) :=
  [("server_dir", l.serverDir c), ("archive", l.archiveDir c)] ++
    c.protos.files.map (fun file => ("proto:" ++ file, (l.protoDir c).join ⟨file⟩))

def pathCheck (fs : FileSystem) (need : String × Path) : Check :=
  ⟨need.1, if fs.has need.2 then .ok else .missing⟩

/-- Asks and changes nothing, and makes every check whatever the others say. -/
def examine (R : Runner σ) (hostRoot : Path) (l : Layout) (c : Config) : Work σ DoctorReport := do
  let platform ← findPlatform? hostRoot
  let tools ← checkTools R (toolProbes platform c)
  let paths ← Work.ask (fun fs => (neededPaths l c).map (pathCheck fs))
  pure { platform, checks := platformCheck platform :: (tools ++ paths) }

end Doctor
end Provision
