import Provision.Download
import Provision.Work

namespace Provision

inductive Change
  | directory (path : Path)
  | file (path : Path) (content : ByteArray) (executable : Bool)
  | link (path : Path) (target : String)
  | remove (path : Path)

namespace Change

def whole (fs : FileSystem) (f : FileSystem → Except IoError FileSystem) :
    Except IoError Unit × FileSystem :=
  match f fs with
  | .ok fs' => (.ok (), fs')
  | .error e => (.error e, fs)

def afterParent (fs : FileSystem) (p : Path) (f : FileSystem → Except IoError FileSystem) :
    Except IoError Unit × FileSystem :=
  match p.parent? with
  | none => whole fs f
  | some parent =>
    match fs.makeDirectories parent with
    | (.ok (), fs') => whole fs' f
    | (.error e, fs') => (.error e, fs')

def removeAny (fs : FileSystem) (p : Path) : Except IoError Unit × FileSystem :=
  match fs.findUnfollowed p with
  | .error e => (.error e, fs)
  | .ok (_, .directory) => fs.removeTree p
  | .ok _ => whole fs (·.removeFile p)

def apply (fs : FileSystem) : Change → Except IoError Unit × FileSystem
  | directory p => fs.makeDirectories p
  | file p content executable =>
    afterParent fs p (fun fs => do (← fs.write p content).setExecutable p executable)
  | link p target => afterParent fs p (·.makeLink p target)
  | remove p => removeAny fs p

def applyAll (fs : FileSystem) (changes : List Change) : FileSystem :=
  changes.foldl (fun fs c => (c.apply fs).2) fs

end Change

inductive Ending
  | success
  | status (code : Int)
  | failure (text : String)

/-- What happens when a command is run whose display starts with a text. -/
structure Rule where
  startsWith : String
  once : Bool := false
  effects : List Change := []
  ending : Ending := .success
  contexts : List String := []

namespace Rule

def fits (r : Rule) (c : Command) : Bool := r.startsWith.toList.isPrefixOf c.display.toList

def result (r : Rule) (c : Command) : Except Failure Unit :=
  match r.ending with
  | .success => .ok ()
  | .status code =>
    .error ((Failure.ofFault (.childFailed c.program code)).withContexts r.contexts)
  | .failure text => .error (Failure.withContexts ⟨.other text, []⟩ r.contexts)

end Rule

/-- The rules that are left, and the answers to questions: a host whose commands do what a story
asks for. -/
structure Script where
  defaultAnswer : Bool := false
  answers : List (String × Bool) := []
  rules : List Rule := []

def useUp (c : Command) : List Rule → List Rule
  | [] => []
  | r :: rest => if r.fits c then (if r.once then rest else r :: rest) else r :: useUp c rest

/-- The first rule that fits decides; without one a command succeeds. -/
def Runner.scripted : Runner Script where
  run c site :=
    match site.agent.rules.find? (·.fits c) with
    | none => ((.ok (), {}), site)
    | some r =>
      ((r.result c, {}),
        { fs := Change.applyAll site.fs r.effects
          agent := { site.agent with rules := useUp c site.agent.rules } })
  probe c site :=
    let answer := (site.agent.answers.find? (·.1 = c.display)).map (·.2)
    (answer.getD site.agent.defaultAnswer, site)

variable {σ : Type}

def Fetcher.failing (reason : String) : Fetcher σ where
  fetch url _ site := (.error (.download url reason), site)

def Fetcher.constant (content : ByteArray) : Fetcher σ where
  fetch url target site :=
    match site.fs.write target content with
    | .ok fs => (.ok (), { site with fs := fs })
    | .error e => (.error (.download url e.message), site)

def Agents.scripted (content : ByteArray) : Agents Script :=
  { Runner.scripted, Fetcher.constant content with }

end Provision
