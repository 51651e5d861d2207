import Provision.Command
import Provision.Failure
import Provision.FileSystem.Operations
import Provision.Log.Note

namespace Provision

structure Printed where
  out : String := ""
  err : String := ""
deriving DecidableEq

/-- What agents act on: the files of the host, and a state of their own. -/
structure Site (σ : Type) where
  fs : FileSystem
  agent : σ

structure Runner (σ : Type) where
  run : Command → Site σ → (Except Failure Unit × Printed) × Site σ
  probe : Command → Site σ → Bool × Site σ

structure Fetcher (σ : Type) where
  fetch : String → Path → Site σ → Except Fault Unit × Site σ

/-- Those to whom commands and downloads are left. -/
structure Agents (σ : Type) extends Runner σ, Fetcher σ

inductive Event
  | noted (note : Log.Note)
  | probed (command : Command) (answer : Bool)
  | ran (command : Command) (result : Except Failure Unit) (printed : Printed)
  | fetched (url : String) (target : Path) (result : Except Fault Unit)

namespace Event

/-- Whether an agent was asked; notes are the run's own. -/
def isCall : Event → Bool
  | noted _ => false
  | _ => true

def command? : Event → Option Command
  | ran c _ _ => some c
  | _ => none

def probe? : Event → Option Command
  | probed c _ => some c
  | _ => none

def fetch? : Event → Option (String × Path)
  | fetched url target _ => some (url, target)
  | _ => none

def hasFailed : Event → Bool
  | ran _ (.error _) _ => true
  | fetched _ _ (.error _) => true
  | _ => false

end Event

structure World (σ : Type) extends Site σ where
  journal : List Event := []
  steps : List Command := []

namespace World

variable {σ : Type}

def calls (w : World σ) : List Event := w.journal.filter Event.isCall

def commands (w : World σ) : List Command := w.journal.filterMap Event.command?

def probes (w : World σ) : List Command := w.journal.filterMap Event.probe?

def fetches (w : World σ) : List (String × Path) := w.journal.filterMap Event.fetch?

end World

/-- A run over a world that may fail. Commands and downloads are left to agents, which may do
anything to the file system and keep a state of their own; all that is asked of them is entered in a
journal, with their answers. Work that fails keeps what it had done. -/
def Work (σ α : Type) : Type := World σ → Except Failure α × World σ

namespace Work

variable {σ α β : Type}

def andThen (x : Work σ α) (f : α → Work σ β) : Work σ β := fun w =>
  match x w with
  | (.ok a, w') => f a w'
  | (.error e, w') => (.error e, w')

instance : Monad (Work σ) where
  pure a := fun w => (.ok a, w)
  bind := andThen

@[simp] theorem pure_apply (a : α) (w : World σ) : (pure a : Work σ α) w = (.ok a, w) := rfl

theorem bind_apply (x : Work σ α) (f : α → Work σ β) (w : World σ) :
    (x >>= f) w = match x w with
      | (.ok a, w') => f a w'
      | (.error e, w') => (.error e, w') := rfl

def fail (e : Failure) : Work σ α := fun w => (.error e, w)

def failWith (f : Fault) : Work σ α := fail (.ofFault f)

def onFailure (x : Work σ α) (cleanup : Work σ Unit) : Work σ α := fun w =>
  match x w with
  | (.ok a, w') => (.ok a, w')
  | (.error e, w') => (.error e, (cleanup w').2)

def mapFailure (x : Work σ α) (f : Failure → Failure) : Work σ α := fun w =>
  match x w with
  | (.ok a, w') => (.ok a, w')
  | (.error e, w') => (.error (f e), w')

def ask (question : FileSystem → α) : Work σ α := fun w => (.ok (question w.fs), w)

def record (w : World σ) (e : Event) : World σ := { w with journal := w.journal ++ [e] }

def note (area : Log.Area) (level : Log.Level) (message : String)
    (fields : List (String × String) := []) : Work σ Unit := fun w =>
  (.ok (), record w (.noted ⟨area, level, message, fields⟩))

def enter (c : Command) : Work σ Unit := fun w => (.ok (), { w with steps := w.steps ++ [c] })

def forgetSteps : Work σ Unit := fun w => (.ok (), { w with steps := [] })

def steps : Work σ (List Command) := fun w => (.ok w.steps, w)

def run (R : Runner σ) (c : Command) : Work σ Unit := fun w =>
  let ((result, printed), site) := R.run c w.toSite
  (result, record { w with toSite := site } (.ran c result printed))

def probe (R : Runner σ) (c : Command) : Work σ Bool := fun w =>
  let (answer, site) := R.probe c w.toSite
  (.ok answer, record { w with toSite := site } (.probed c answer))

def fetch (F : Fetcher σ) (url : String) (target : Path) : Work σ Unit := fun w =>
  let (result, site) := F.fetch url target w.toSite
  (result.mapError .ofFault, record { w with toSite := site } (.fetched url target result))

def change (f : FileSystem → Except IoError FileSystem) : Work σ Unit := fun w =>
  match f w.fs with
  | .ok fs => (.ok (), { w with fs := fs })
  | .error e => (.error (.ofIo e), w)

def attempt (f : FileSystem → Except IoError FileSystem) : Work σ Unit := fun w =>
  match f w.fs with
  | .ok fs => (.ok (), { w with fs := fs })
  | .error _ => (.ok (), w)

/-- Makes a change in many entries; what was done before a failure stays done. -/
def changeMany (f : FileSystem → Except IoError Unit × FileSystem) : Work σ Unit := fun w =>
  match f w.fs with
  | (.ok (), fs) => (.ok (), { w with fs := fs })
  | (.error e, fs) => (.error (.ofIo e), { w with fs := fs })

def attemptMany (f : FileSystem → Except IoError Unit × FileSystem) : Work σ Unit := fun w =>
  (.ok (), { w with fs := (f w.fs).2 })

def ofExcept : Except Failure α → Work σ α
  | .ok a => pure a
  | .error e => fail e

end Work
end Provision
