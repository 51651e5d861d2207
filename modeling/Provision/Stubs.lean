import Provision.Work

namespace Provision

structure StubRequest where
  compiler : List String
  protoDir : Path
  includes : List Path := []
  files : List String
  outDir : Path
  dryRun : Bool := false

structure StubReport where
  outDir : Path
  invocations : List Command
  dryRun : Bool

def protoPathFlag (dir : Path) : String := "--proto_path=" ++ dir.text

def emptyCompiler : Failure := ⟨.other "proto compiler command is empty", []⟩

/-- The command for one input; both output flags name the same directory. -/
def stubInvocation (compiler : List String) (protoDir : Path) (includes : List Path)
    (input outDir : Path) : Except Failure Command :=
  match Command.ofWords? compiler with
  | none => .error emptyCompiler
  | some c => .ok (c.withArgs ((protoDir :: includes).map protoPathFlag ++
      ["--python_out=" ++ outDir.text, "--grpc_python_out=" ++ outDir.text, input.text]))

namespace StubRequest

variable {σ : Type}

def input (req : StubRequest) (file : String) : Path := req.protoDir.join ⟨file⟩

def invocation (req : StubRequest) (outDir : Path) (file : String) : Except Failure Command :=
  stubInvocation req.compiler req.protoDir req.includes (req.input file) outDir

/-- The commands for a list of files, or what is wrong with the first that has none. -/
def plan (req : StubRequest) (fs : FileSystem) (outDir : Path) :
    List String → Except Failure (List Command)
  | [] => .ok []
  | file :: rest =>
    if fs.hasFile (req.input file) then
      match req.invocation outDir file with
      | .error e => .error e
      | .ok c => (req.plan fs outDir rest).map (c :: ·)
    else .error (.ofFault (.missingProto (req.input file)))

/-- Makes the output directory and finds its own absolute path; a dry run takes it as given. -/
def prepare (req : StubRequest) : Work σ Path :=
  if req.dryRun then pure req.outDir
  else do
    (Work.changeMany (·.makeDirectories req.outDir)).mapFailure
      (·.withContext ("failed to create " ++ req.outDir.text))
    match ← Work.ask (·.realPath req.outDir) with
    | .ok p => pure p
    | .error e => Work.fail (.ofIo e)

def runAll (R : Runner σ) : List Command → Work σ Unit
  | [] => pure ()
  | c :: rest => do
    Work.note .stubs .info "generating stubs" [("command", c.display)]
    Work.run R c
    runAll R rest

/-- One compiler command for each definition file. All files are looked for before the first command
runs. -/
def generate (R : Runner σ) (req : StubRequest) : Work σ StubReport := do
  let outDir ← req.prepare
  let planned ← Work.ask (fun fs => req.plan fs outDir req.files)
  let invocations ← Work.ofExcept planned
  runAll R invocations
  pure { outDir, invocations, dryRun := req.dryRun }

end StubRequest
end Provision
