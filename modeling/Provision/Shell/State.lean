import Provision.Host.Outcome
import Provision.Shell.Octets
import Provision.Shell.Token

namespace Provision.Shell

inductive Port
  | null
  /-- Gathers what is written; the numbers 1 and 2 are the streams of the process. -/
  | sink (number : Nat)
  | source (number : Nat)
  | file (path : Path)
deriving DecidableEq

structure Var where
  name : String
  value : Option String
  exported : Bool := false
  /-- Whether it keeps its value for good. -/
  fixed : Bool := false

structure Function where
  name : String
  body : Script

structure State where
  fs : FileSystem
  here : String := "/"
  vars : List Var := []
  functions : List Function := []
  aliases : List (String × String) := []
  documents : List (Nat × Word) := []
  nextDocument : Nat := 0
  name : String := "sh"
  args : List String := []
  status : Nat := 0
  /-- The status of the script whose output was used last in the command that is done. -/
  outputStatus : Nat := 0
  line : Nat := 1
  /-- The line up to which the script is read. -/
  readTo : Nat := 1
  /-- The command of the shell's own that is spoken for. -/
  speaker : Option String := none
  switches : List Char := []
  ports : List (Nat × Port) := [(0, .source 0), (1, .sink 1), (2, .sink 2)]
  sources : List (Nat × List Char) := []
  written : List (Nat × List Char) := []
  fresh : Nat := 3
  traps : List (Nat × String) := []
  trapStatus : Option Nat := none
  pending : List Nat := []
  depth : Nat := 0
  loops : Nat := 0
  inFunction : Bool := false
  scopes : List (List (String × Option Var)) := []
  jobs : List Nat := []
  optionPlace : Nat := 0
  /-- The permissions that new files are not given. -/
  mask : Nat := 18

/-- Why something stopped early. -/
inductive Stop
  | loop (again : Bool) (levels : Nat)
  | leave
  | failed
  | ended (e : Host.Ending)

/-- Something that is done to the state of a shell. It may stop early: a loop or a function is left,
a mistake is made, or the shell ends; what was done before stays done. -/
abbrev Doing := ExceptT Stop (StateM State)

namespace State

def port? (s : State) (descriptor : Nat) : Option Port :=
  (s.ports.find? (·.1 = descriptor)).map (·.2)

def setPort (s : State) (descriptor : Nat) (p : Option Port) : State :=
  { s with ports := p.toList.map (descriptor, ·) ++ s.ports.filter (·.1 ≠ descriptor) }

def var? (s : State) (name : String) : Option Var := s.vars.find? (·.name = name)

def value? (s : State) (name : String) : Option String := (s.var? name).bind (·.value)

def putVar (s : State) (v : Var) : State :=
  if s.vars.any (·.name = v.name) then
    { s with vars := s.vars.map (fun u => if u.name = v.name then v else u) }
  else { s with vars := s.vars ++ [v] }

def eraseVar (s : State) (name : String) : State :=
  { s with vars := s.vars.filter (·.name ≠ name) }

def has (s : State) (switch : Char) : Bool := s.switches.contains switch

def function? (s : State) (name : String) : Option Function :=
  s.functions.find? (·.name = name)

def rank (name : String) : Nat :=
  let codes := name.toList.map Char.toNat
  (16 * codes.headD 0 + codes.foldl (· + ·) 0) % 39

def environment (s : State) : Environment :=
  let exported := s.vars.filter (·.exported)
  (exported.mergeSort (fun a b => rank a.name ≤ rank b.name)).filterMap (fun v =>
    v.value.map (fun value => (Octets.toText v.name, Octets.toText value)))

def source (s : State) (number : Nat) : List Char :=
  ((s.sources.find? (·.1 = number)).map (·.2)).getD []

def setSource (s : State) (number : Nat) (text : List Char) : State :=
  { s with sources := (number, text) :: s.sources.filter (·.1 ≠ number) }

def addSource (s : State) (text : List Char) : Port × State :=
  (.source s.fresh, { s.setSource s.fresh text with fresh := s.fresh + 1 })

def gathered (s : State) (number : Nat) : List Char :=
  (s.written.filter (·.1 = number)).reverse.flatMap (·.2)

def dropSink (s : State) (number : Nat) : State :=
  { s with written := s.written.filter (·.1 ≠ number) }

def streams (s : State) : List (Host.Stream × ByteArray) :=
  s.written.reverse.filterMap (fun (n, cs) =>
    if n = 1 then some (.out, Octets.toBytes cs)
    else if n = 2 then some (.err, Octets.toBytes cs)
    else none)

def appendTo (s : State) (path : Path) (cs : List Char) : Option State :=
  if s.fs.hasFile path then
    match s.fs.append path (Octets.toBytes cs) with
    | .ok fs => some { s with fs }
    | .error _ => none
  else some s

def print? (s : State) (descriptor : Nat) (cs : List Char) : Option State :=
  match s.port? descriptor with
  | some .null => some s
  | some (.sink n) => some { s with written := (n, cs) :: s.written }
  | some (.file path) => s.appendTo path cs
  | some (.source _) | none => if cs.isEmpty then some s else none

def heading (s : State) : String :=
  s.name ++ ": " ++ toString s.line ++ ": " ++ (s.speaker.map (· ++ ": ")).getD ""

end State

namespace Doing

variable {α : Type}

def observe (x : Doing α) : Doing (Except Stop α) := fun s =>
  let (result, after) := x s
  (.ok result, after)

def settle (result : Except Stop α) : Doing α :=
  match result with
  | .ok a => pure a
  | .error stop => throw stop

def ensuring (x : Doing α) (cleanup : State → State) : Doing α := do
  let result ← observe x
  modify cleanup
  settle result

def setStatus (n : Nat) : Doing Unit := modify fun s => { s with status := n }

/-- Writes to a descriptor; whether it could be written to. -/
def print (descriptor : Nat) (cs : List Char) : Doing Bool := do
  match (← get).print? descriptor cs with
  | some s =>
    set s
    return true
  | none => return false

def tell (text : String) : Doing Unit := do
  let _ ← print 2 (text ++ "\n").toList

def complain (text : String) : Doing Unit := do tell ((← get).heading ++ text)

def fail (text : String) : Doing α := do
  complain text
  setStatus 2
  throw .failed

def speaking (name : String) (x : Doing α) : Doing α := do
  let before := (← get).speaker
  modify fun s => { s with speaker := some name }
  ensuring x (fun s => { s with speaker := before })

/-- Changes a variable, unless it keeps its value for good. -/
def changeVar (name : String) (change : Var → Var) : Doing Unit := do
  let s ← get
  let v := (s.var? name).getD { name, value := none }
  if v.fixed then fail (name ++ ": is read only")
  else set (s.putVar (change v))

def setVar (name value : String) (exported : Bool := false) : Doing Unit := do
  if !isName name.toList then fail (name ++ ": bad variable name")
  else
    let all := (← get).has 'a'
    changeVar name (fun v =>
      { v with value := some value, exported := v.exported || exported || all })
    if name = "OPTIND" then modify fun s => { s with optionPlace := 0 }

def remember (name : String) : Doing Unit := modify fun s =>
  match s.scopes with
  | [] => s
  | scope :: outer => { s with scopes := ((name, s.var? name) :: scope) :: outer }

def closeScope (s : State) : State :=
  match s.scopes with
  | [] => s
  | scope :: outer =>
    scope.foldl (fun s (name, old) =>
      match old with
      | some v => s.putVar v
      | none => s.eraseVar name) { s with scopes := outer }

def inScope (x : Doing α) : Doing α := do
  modify fun s => { s with scopes := [] :: s.scopes }
  ensuring x closeScope

end Doing
end Provision.Shell
