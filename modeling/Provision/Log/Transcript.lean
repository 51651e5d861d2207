import Provision.Log.Filter
import Provision.Work

namespace Provision.Log

def runningNote (c : Command) : Note :=
  ⟨.runner, .info, "running", [("command", c.display), ("cwd", optional (c.cwd.map Path.text))]⟩

def probeNote (c : Command) (answer : Bool) : Note :=
  ⟨.runner, .debug, "probe", [("command", c.display), ("ok", if answer then "true" else "false")]⟩

def Note.shown (filter : Filter) (n : Note) : String :=
  if filter.shows n then n.line ++ "\n" else ""

/-- What an event leaves on standard error; `real` says that commands are processes. -/
def errorText (filter : Filter) (real : Bool) : Event → String
  | .noted n => n.shown filter
  | .probed c answer => if real then (probeNote c answer).shown filter else ""
  | .ran c _ printed => if real then (runningNote c).shown filter ++ printed.err else ""
  | .fetched _ _ _ => ""

def outputText (real : Bool) : Event → String
  | .ran _ _ printed => if real then printed.out else ""
  | _ => ""

/-- What a journal amounts to on the standard channels: the lines of the notes that are shown, and
what commands wrote, in the order in which it happened. -/
def transcript (filter : Filter) (real : Bool) (journal : List Event) : Printed where
  out := String.join (journal.map (outputText real))
  err := String.join (journal.map (errorText filter real))

end Provision.Log
