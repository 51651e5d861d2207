import Provision.Host.Executable

namespace Provision
namespace Command

def hasNul (c : Command) : Bool :=
  let texts := c.words ++ (c.cwd.map Path.text).toList ++ c.env.flatMap (fun (n, v) => [n, v])
  texts.any (·.toList.contains '\x00')

/-- Whether the search path is the command's own; its program is then found in another way, which
leaves files that are no programs to the shell. -/
def searchesItself (c : Command) : Bool :=
  c.env.any (·.1 = "PATH") && !c.program.toList.contains '/'

end Command

namespace Host

def process (env : Environment) (c : Command) (fs : FileSystem) : Except IoError Outcome := do
  if c.hasNul then throw .nulInCommand
  let inside ← match c.cwd with
    | some dir => fs.enter dir
    | none => pure fs
  let request : Request := { env := env ++ c.env, path := c.program, words := c.words }
  let outcome ← search (launch (startWithin processLimit) (fun _ => c.searchesItself)) request inside
  pure { outcome with fs := { outcome.fs with cwd := fs.cwd } }

def resultOf (program : String) (e : Ending) : Except Failure Unit :=
  if e.isSuccess then .ok () else .error (.ofFault (.childFailed program e.code))

end Host

variable {σ : Type}

def Runner.system (env : Environment) : Runner σ where
  run c site :=
    match Host.process env c site.fs with
    | .error e =>
      ((.error ((Failure.ofIo e).withContext ("failed to spawn " ++ c.program)), {}), site)
    | .ok o => ((Host.resultOf c.program o.ending, o.printed), { site with fs := o.fs })
  probe c site :=
    match Host.process env c site.fs with
    | .error _ => (false, site)
    | .ok o => (o.ending.isSuccess, { site with fs := o.fs })

end Provision
