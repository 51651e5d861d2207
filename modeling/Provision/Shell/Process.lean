import Provision.Shell.Run

namespace Provision.Shell

/-- Where the shell looks for programs when the environment does not say. -/
def usualPath : String := "/usr/local/sbin:/usr/local/bin:/usr/sbin:/usr/bin:/sbin:/bin"

namespace State

/-- The name of the directory that a process starts in: the one that it was told, if that is it. -/
def startDirectory (env : Environment) (fs : FileSystem) : String :=
  let real := FileSystem.pathOf fs.cwd
  match env.value? "PWD" with
  | some told =>
    if (Path.mk told).isAbsolute then
      match fs.find ⟨told⟩ with
      | .ok (l, _) => Octets.ofText (if l = fs.cwd then told else real.text)
      | .error _ => Octets.ofText real.text
    else Octets.ofText real.text
  | none => Octets.ofText real.text

def start (r : Host.Request) (fs : FileSystem) : State :=
  let here := startDirectory r.env fs
  let inherited := (r.env.map (fun (n, v) => (Octets.ofText n, Octets.ofText v))).filter (fun v =>
    isName v.1.toList)
  let own : List Var :=
    [{ name := "PATH", value := some usualPath }, { name := "PPID", value := some "0" },
      { name := "PS1", value := some "# " }, { name := "PS2", value := some "> " },
      { name := "PS4", value := some "+ " }]
  let fixed : List Var :=
    [{ name := "IFS", value := some " \t\n" }, { name := "OPTIND", value := some "1" },
      { name := "PWD", value := some here, exported := true }]
  let vars := own ++ inherited.map (fun (name, value) =>
    { name, value := some value, exported := true }) ++ fixed
  vars.foldl putVar
    { fs, here, name := Octets.ofText (r.words.headD "sh"), line := 0
      sources := [(0, Octets.ofBytes r.input)] }

end State

namespace Interpreter

/-- Does the script that the words of the shell ask for: a text, a file, or else the input. -/
def script (i : Interpreter) (args : List String) : Doing Unit := do
  let t ← Builtin.turnAll true args.length args
  let begin (name : Option String) (args : List String) : Doing Unit := modify fun s =>
    { s with name := name.getD s.name, args, line := 1 }
  match t.script, t.args with
  | true, [] => Doing.fail "-c requires an argument"
  | true, text :: rest =>
    begin rest.head? (rest.drop 1)
    i.text { last := true } text
  | false, [] =>
    let s ← get
    set { s.setSource 0 [] with line := 1, switches := 's' :: s.switches }
    i.text {} (String.ofList (s.source 0)) true
  | false, file :: rest =>
    let s ← get
    let content ← match s.fs.read ⟨Octets.toText file⟩ with
      | .ok content => pure content
      | .error .isDirectory => pure .empty
      | .error e => Doing.fail (Target.complaint false file e)
    begin (some file) rest
    i.text {} (String.ofList ((Octets.ofBytes content).filter (· ≠ '\x00'))) true

end Interpreter

def run (start : Host.Start) (r : Host.Request) (fs : FileSystem) : Host.Outcome :=
  let i := Interpreter.ofDepth start depthLimit
  let whole : Doing Host.Ending := do
    i.close (← Doing.observe (i.script ((r.words.drop 1).map Octets.ofText)))
  let (result, s) := whole (State.start r fs)
  { ending := match result with
      | .ok e => e
      | .error (.ended e) => e
      | .error _ => .exited s.status
    written := s.streams
    unread := Octets.toBytes (s.source 0)
    fs := s.fs }

end Provision.Shell
