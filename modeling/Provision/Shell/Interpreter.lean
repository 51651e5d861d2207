import Provision.Shell.Glyph
import Provision.Shell.Program

namespace Provision.Shell

structure Purpose where
  tested : Bool := false
  last : Bool := false

/-- What the parts of the shell ask of each other: to do a script, to expand a word and to start a
program. -/
structure Interpreter where
  start : Host.Start
  run : Purpose → Script → Doing Unit
  glyphs : (splits : Bool) → Word → Doing (List Glyph)

namespace Interpreter

def firstLines : (n : Nat) → List Char → List Char
  | 0, _ => []
  | n + 1, cs =>
    let line := cs.takeWhile (· ≠ '\n')
    line ++ (cs.drop line.length).take 1 ++ firstLines n (cs.drop (line.length + 1))

def display (ofFile : Bool) (cs : List Char) : Doing Unit := do
  if ofFile && (← get).has 'v' then
    let _ ← Doing.print 2 cs

def lines (i : Interpreter) (p : Purpose) (ofFile : Bool) :
    (fuel : Nat) → (done : Bool) → Reading → Doing Unit
  | 0, _, _ => pure ()
  | fuel + 1, done, before => do
    let s ← get
    let before :=
      { before with nextDocument := s.nextDocument, documents := [], aliases := s.aliases }
    match Reading.nextLine.run before with
    | .error m =>
      display ofFile (firstLines (m.line + 1 - before.line) before.rest)
      modify fun s => { s with line := m.line }
      Doing.fail m.complaint
    | .ok (c, r) =>
      display ofFile (before.rest.take (before.rest.length - r.rest.length))
      modify fun s =>
        { s with
          documents := r.documents ++ s.documents
          nextDocument := r.nextDocument
          readTo := r.line }
      match c with
      | none => if !done then Doing.setStatus 0
      | some .skip => lines i p ofFile fuel done r
      | some c =>
        let ends := match r.pushed with
          | some .ends => true
          | _ => false
        i.run { p with last := p.last && ends } c
        lines i p ofFile fuel true r

def text (i : Interpreter) (p : Purpose) (text : String) (ofFile : Bool := false) : Doing Unit := do
  let readTo := (← get).readTo
  Doing.ensuring (lines i p ofFile (text.length + 2) false { rest := text.toList })
    (fun s => { s with readTo })

/-- Ends a process: does what is to be done at its end, which can end it in another way. -/
def close (i : Interpreter) (result : Except Stop Unit) : Doing Host.Ending := do
  let s ← get
  match result with
  | .error (.ended (.killed signal)) => return .killed signal
  | result =>
    let status := match result with
      | .error (.ended e) => e.shellStatus
      | _ => s.status
    match s.traps.find? (·.1 = 0) with
    | none => return .exited status
    | some (_, action) =>
      set { s with
        traps := s.traps.filter (·.1 ≠ 0)
        trapStatus := some status
        status
        speaker := none }
      match ← Doing.observe (i.text {} action) with
      | .error (.ended e) => return e
      | _ => return .exited status

/-- Does something in a process of its own, of which only what it writes and reads and the files
remain. -/
def apart (i : Interpreter) (x : Doing Unit) : Doing Host.Ending := do
  let before ← get
  set { before with traps := before.traps.filter (·.2 = ""), depth := before.depth + 1, jobs := [] }
  let ending ← i.close (← Doing.observe x)
  let after ← get
  set { before with
    fs := { after.fs with cwd := before.fs.cwd }
    sources := after.sources
    written := after.written
    fresh := after.fresh
    pending := after.pending }
  return ending

def signalText? (signal : Nat) : Option String :=
  [(1, "Hangup"), (3, "Quit"), (4, "Illegal instruction"), (5, "Trace/breakpoint trap"),
    (6, "Aborted"), (7, "Bus error"), (8, "Floating point exception"), (9, "Killed"),
    (10, "User defined signal 1"), (11, "Segmentation fault"), (12, "User defined signal 2"),
    (14, "Alarm clock"), (15, "Terminated"), (16, "Stack fault"), (24, "CPU time limit exceeded"),
    (25, "File size limit exceeded"), (26, "Virtual timer expired"),
    (27, "Profiling timer expired"), (29, "I/O possible"), (30, "Power failure"),
    (31, "Bad system call")].lookup signal

def awaited (e : Host.Ending) : Doing Unit := do
  match e with
  | .killed signal =>
    match signalText? signal with
    | some text => Doing.tell text
    | none => pure ()
  | .exited _ => pure ()
  Doing.setStatus e.shellStatus

end Interpreter
end Provision.Shell
