import Provision.CommandLine.Help
import Provision.CommandLine.Invocation
import Provision.Config.Decode
import Provision.Download
import Provision.Host.Runner
import Provision.Log.Transcript
import Provision.Plan
import Provision.Report

namespace Provision

/-- What a run of the tool finds around it, the files apart. Its own path and the words it is given
are known and are text; that a system may fail to tell the path is left out. -/
structure Surroundings where
  environment : Environment := []
  isRoot : Bool := false
  executable : Path
  args : List String := []

namespace Surroundings

def inherited (s : Surroundings) : Inherited where
  home := s.environment.value? "HOME"
  libraryPath := s.environment.value? "LD_LIBRARY_PATH"
  path := s.environment.value? "PATH"

def privilege (s : Surroundings) : Privilege := .ofEnvironment s.isRoot s.environment

end Surroundings

inductive Reply
  | delegated
  | build (report : BuildReport)
  | stubs (report : StubReport)
  | exports (vars : List Variable)
  | health (report : DoctorReport)

namespace Reply

def ofOutcome : BootstrapOutcome → Reply
  | .delegated => .delegated
  | .completed report => .build report

def line (s : String) : String := s ++ "\n"

def lines (ls : List String) : String := String.join (ls.map line)

def text : Reply → String
  | delegated => ""
  | build r =>
    if r.dryRun then
      lines (["platform: " ++ r.platform.title, "archive: " ++ r.archive.title] ++
        r.steps.map Command.display)
    else
      line ("server built against " ++ r.archiveDir.text ++ " (archive " ++ r.archive.title ++ ")")
  | stubs r =>
    if r.dryRun then lines (r.invocations.map Command.display)
    else line ("generated stubs for " ++ toString r.invocations.length ++ " proto file(s) in " ++
      r.outDir.text)
  | exports vs => lines (vs.map Variable.exportLine)
  | health r =>
    lines (("overall: " ++ r.overall) :: r.checks.map (fun c => c.name ++ "\t" ++ c.status.name))

/-- What the reply's envelope holds; a delegated run has none of its own. -/
def data? : Reply → Option Json
  | delegated => none
  | build r => some r.toJson
  | stubs r => some r.toJson
  | exports vs => some (.array (vs.map Variable.toJson))
  | health r => some r.toJson

def printed (json : Bool) (r : Reply) : String :=
  if json then
    match r.data? with
    | some d => line (Json.success d).pretty
    | none => ""
  else r.text

end Reply

/-- What a failed run prints of its own; in JSON it is part of the output. -/
def Failure.printed (json : Bool) (e : Failure) : Printed :=
  if json then { out := e.toJson.pretty ++ "\n" } else { err := "error: " ++ e.message ++ "\n" }

namespace Tool

variable {σ : Type}

def loadConfig (root : Path) (named : Option Path) : Work σ Config := do
  match ← Work.ask (Config.source? · root named) with
  | some p => Work.note .config .debug "loading config" [("path", p.text)]
  | none => pure ()
  Work.ofExcept (← Work.ask (Config.load · root named))

def buildPlan (s : Surroundings) (l : Layout) (c : Config) (platform : Platform)
    (variant : Option Variant) (dryRun : Bool) : BootstrapPlan :=
  let v := variant.getD c.archive.variant
  let command : Command := { program := c.build.program }
  { platform
    variant := v
    url := c.archive.url v
    sha256 := c.archive.sha256 v
    archiveDir := l.archiveDir c
    archiveZip := l.archiveZip c
    build := (command.withArgs c.build.args).inDirectory (l.serverDir c)
    buildEnv := (buildVariables (l.archiveDir c) s.inherited).map Variable.pair
    reinvoke := reinvocation c.privilege.helper s.executable s.args
    dryRun }

def stubRequest (l : Layout) (c : Config) (compiler : Option String) (dryRun : Bool) :
    StubRequest where
  compiler := (compiler.map Text.words).getD c.protos.compiler
  protoDir := l.protoDir c
  includes := l.includes c
  files := c.protos.files
  outDir := l.stubOutDir c
  dryRun := dryRun

def build (A : Agents σ) (s : Surroundings) (hostRoot : Path) (l : Layout) (c : Config)
    (variant : Option Variant) (dryRun : Bool) : Work σ Reply := do
  let platform ← findPlatform hostRoot
  return .ofOutcome (← (buildPlan s l c platform variant dryRun).run A s.privilege)

def perform (A : Agents σ) (s : Surroundings) (i : Invocation) (l : Layout) (c : Config) :
    Work σ Reply :=
  match i.task with
  | .build variant dryRun => build A s i.hostRoot l c variant dryRun
  | .env => pure (.exports (buildVariables (l.archiveDir c) s.inherited))
  | .protos compiler dryRun => do
    pure (.stubs (← (stubRequest l c compiler dryRun).generate A.toRunner))
  | .doctor => do pure (.health (← Doctor.examine A.toRunner i.hostRoot l c))

def work (A : Agents σ) (s : Surroundings) (i : Invocation) : Work σ Reply := do
  let l ← Work.ofExcept (← Work.ask (Layout.resolve · i.root))
  let c ← loadConfig l.root i.config
  perform A s i l c

/-- Plans only, with every question answered in the negative. -/
def planners : Agents σ := { Runner.plan false none, Fetcher.idle with }

/-- Runs commands as processes and downloads over the network. -/
def doers (env : Environment) (network : Network) : Agents σ :=
  { Runner.system env, Fetcher.web network with }

end Tool

def Task.isReal : Task → Bool
  | .build _ dryRun | .protos _ dryRun => !dryRun
  | .env | .doctor => true

structure Finish where
  status : Nat
  printed : Printed
  fs : FileSystem

namespace Tool

variable {σ : Type}

def finish (filter : Log.Filter) (i : Invocation) (result : Except Failure Reply) (w : World σ) :
    Finish :=
  let before := Log.transcript filter i.task.isReal w.journal
  let (status, last) : Nat × Printed := match result with
    | .ok reply => (0, { out := reply.printed i.json })
    | .error e => (e.processStatus, e.printed i.json)
  ⟨status, { out := before.out ++ last.out, err := before.err ++ last.err }, w.fs⟩

def logFilter (s : Surroundings) (i : Invocation) : Log.Filter :=
  Log.Filter.chosen (s.environment.value? "RUST_LOG") i.verbose

def runWith (A : Agents σ) (s : Surroundings) (i : Invocation) (site : Site σ) : Finish :=
  let (result, w) := work A s i { toSite := site }
  finish (logFilter s i) i result w

/-- The answer to a command line that gives nothing to do; nothing is touched for it. -/
def decline (hostRoot : Option String) (r : CommandLine.Refusal) (fs : FileSystem) : Finish :=
  let shown := hostRoot.getD ""
  ⟨r.exitStatus, { out := r.output shown, err := r.complaint shown }, fs⟩

def run (s : Surroundings) (network : Network) (fs : FileSystem) : Finish :=
  let hostRoot := s.environment.value? Invocation.hostRootVariable
  match Invocation.parse hostRoot s.args with
  | .error r => decline hostRoot r fs
  | .ok i =>
    let agents : Agents Unit := if i.task.isReal then doers s.environment network else planners
    runWith agents s i ⟨fs, ()⟩

end Tool
end Provision
