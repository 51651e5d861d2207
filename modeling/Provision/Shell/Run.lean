import Provision.Shell.Builtin
import Provision.Shell.Redirection

namespace Provision.Shell

def loopLimit : Nat := 1000000

def depthLimit : Nat := 100000

inductive Act
  | own (name : String) (args : List String)
  | function (body : Script) (args : List String)
  | program (words : List String)

structure Resolved where
  act : Act
  special : Bool := false
  replaces : Bool := false

namespace State

def candidates (s : State) (name : String) : List String :=
  ((s.value? "PATH").getD "" |>.splitOn ":").map (fun dir =>
    if dir = "" then name else dir ++ "/" ++ name)

def firstProgram (fs : FileSystem) (last : IoError) : List String → Except IoError String
  | [] => .error last
  | path :: rest =>
    match fs.find ⟨Octets.toText path⟩ with
    | .ok (_, .file _ true) => .ok path
    | .ok _ => firstProgram fs .accessDenied rest
    | .error .noEntry | .error .notDirectory => firstProgram fs last rest
    | .error e => firstProgram fs e rest

/-- Finds the file of a program; a name with a slash is its path. -/
def program? (s : State) (name : String) : Except IoError String :=
  if name.toList.contains '/' then .ok name
  else firstProgram s.fs .noEntry (s.candidates name)

/-- What words ask for; behind the word that asks for it, no function is meant and no mistake ends
the shell. -/
def resolve (s : State) : (direct : Bool) → List String → Resolved
  | _, [] => ⟨.own "command" [], false, false⟩
  | direct, name :: args =>
    match if direct then s.function? name else none with
    | some f => ⟨.function f.body args, false, false⟩
    | none =>
      let asks := args.head?.any (fun a => a.startsWith "-" && a ≠ "--" && a ≠ "-p")
      if !direct && (name = "--" || name = "-p") then resolve s false args
      else if name = "command" && !asks then resolve s false args
      else if Builtin.isOwn name then ⟨.own name args, direct && isSpecial name, name = "exec"⟩
      else ⟨.program (name :: args), false, false⟩

end State

def startComplaint (e : IoError) : String :=
  match e with
  | .noEntry | .notDirectory => "not found"
  | e => e.describe

def startStatus (e : IoError) : Nat :=
  match e with
  | .noEntry | .notDirectory | .tooManyLinks | .nameTooLong => 127
  | _ => 126

namespace Interpreter

def process (i : Interpreter) (path : String) (words : List String) :
    Doing (Except IoError Host.Ending) := do
  let s ← get
  let source? := match s.port? 0 with
    | some (.source n) => some n
    | _ => none
  let request : Host.Request :=
    { env := s.environment
      path := Octets.toText path
      words := words.map Octets.toText
      input := Octets.toBytes ((source?.map s.source).getD []) }
  match i.start request s.fs with
  | .error e => return .error e
  | .ok o =>
    modify fun s => { s with fs := { o.fs with cwd := s.fs.cwd } }
    match source? with
    | some n => modify fun s => s.setSource n (Octets.ofBytes o.unread)
    | none => pure ()
    o.written.forM (fun (stream, content) => do
      let _ ← Doing.print (if stream = .out then 1 else 2) (Octets.ofBytes content))
    return .ok o.ending

/-- Does a program as a command; where it is the last of a process, the process becomes it. -/
def program (i : Interpreter) (p : Purpose) (words : List String) : Doing Unit := do
  let s ← get
  let name := words.headD ""
  match s.program? name with
  | .error e =>
    Doing.complain (name ++ ": " ++ startComplaint e)
    Doing.setStatus 127
  | .ok path =>
    match ← i.process path words with
    | .error e =>
      Doing.complain (name ++ ": " ++ startComplaint e)
      Doing.setStatus (startStatus e)
    | .ok ending =>
      if p.last && s.traps.isEmpty then throw (.ended ending) else awaited ending

def replace (i : Interpreter) (words : List String) : Doing Nat := do
  let name := words.headD ""
  let refuse (e : IoError) : Doing Nat := do
    Doing.complain (name ++ ": " ++ startComplaint e)
    Doing.setStatus (startStatus e)
    throw (.ended (.exited (startStatus e)))
  match (← get).program? name with
  | .error e => refuse e
  | .ok path =>
    match ← i.process path words with
    | .error e => refuse e
    | .ok ending =>
      modify fun s => { s with traps := [] }
      throw (.ended ending)

def describe (inWords : Bool) (name : String) : Doing Nat := do
  let s ← get
  let answer (sentence short : String) : Doing Nat :=
    Builtin.sayLine (if inWords then name ++ " is " ++ sentence else short)
  if Token.reservedWords.contains name then answer "a shell keyword" name
  else if let some meaning := s.aliases.lookup name then
    Builtin.sayLine (if inWords then name ++ " is an alias for " ++ meaning
      else "alias " ++ name ++ "=" ++ Builtin.quote meaning)
  else if (s.function? name).isSome then answer "a shell function" name
  else if Builtin.isOwn name || name = "command" then
    answer (if isSpecial name then "a special shell builtin" else "a shell builtin") name
  else
    let found := match s.program? name with
      | .ok path => if s.fs.has ⟨Octets.toText path⟩ then some path else none
      | .error _ => none
    match found with
    | some path => answer path path
    | none =>
      if inWords then
        let _ ← Builtin.sayLine (name ++ ": not found")
      return 127

def describeAll (inWords : Bool) (names : List String) : Doing Nat := do
  let statuses ← names.mapM (describe inWords)
  return (statuses.find? (· ≠ 0)).getD 0

def lookUp (args : List String) : Doing Nat := do
  let (_, names) ← Builtin.options ['r'] [] args
  let s ← get
  let isMissing (name : String) : Bool :=
    !name.toList.contains '/' && (s.function? name).isNone && !Builtin.isOwn name &&
      (s.program? name).toOption.isNone
  let missing := names.filter isMissing
  missing.forM (fun name => Doing.complain (name ++ ": not found"))
  return if missing.isEmpty then 0 else 1

def inquire (args : List String) : Doing Nat := do
  let (found, names) ← Builtin.options ['p', 'v', 'V'] [] args
  match names with
  | [] => return 0
  | name :: _ => describe (found.any (·.1 = 'V')) name

def sourceFile (s : State) (name : String) : Except String String :=
  if name.toList.contains '/' then .ok name
  else
    match (s.candidates name).find? (fun path => s.fs.hasFile ⟨Octets.toText path⟩) with
    | some path => .ok path
    | none => .error (name ++ ": not found")

def dot (i : Interpreter) (args : List String) : Doing Nat := do
  match (← Builtin.options [] [] args).2 with
  | [] => return 0
  | name :: _ =>
    let s ← get
    match sourceFile s name with
    | .error complaint => Doing.fail complaint
    | .ok path =>
      let content ← if path = Target.nullDevice then pure []
        else match s.fs.read ⟨Octets.toText path⟩ with
          | .ok content => pure (Octets.ofBytes content)
          | .error .isDirectory => pure []
          | .error e => Doing.fail (Target.complaint false path e)
      match ← Doing.observe (Doing.speaking path (i.text {} (String.ofList content) true)) with
      | .ok () | .error .leave => return (← get).status
      | .error stop => throw stop

def own (i : Interpreter) (p : Purpose) (name : String) (args : List String) : Doing Nat := do
  match name with
  | "." => i.dot args
  | "command" => inquire args
  | "eval" =>
    i.text { tested := p.tested } (String.intercalate " " args)
    return (← get).status
  | "exec" => if args.isEmpty then return 0 else i.replace args
  | "hash" => lookUp args
  | "type" => describeAll true args
  | name =>
    match Builtin.action? name with
    | some action => action args
    | none => return 127

def call (i : Interpreter) (p : Purpose) (body : Script) (args : List String) : Doing Unit := do
  let before ← get
  set { before with args, loops := 0, inFunction := true }
  let restore (s : State) : State :=
    { s with args := before.args, loops := before.loops, inFunction := before.inFunction }
  match ← Doing.observe (Doing.ensuring (i.run { tested := p.tested } body) restore) with
  | .ok () | .error .leave => pure ()
  | .error stop => throw stop

def act (i : Interpreter) (p : Purpose) (r : Resolved) : Doing Unit := do
  match r.act with
  | .own name args =>
    match ← Doing.observe (Doing.speaking name (i.own p name args)) with
    | .ok status => Doing.setStatus status
    | .error .failed => if r.special then throw .failed
    | .error stop => throw stop
  | .function body args => i.call p body args
  | .program words => i.program p words

/-- The words of a simple command; what some commands set is not split. -/
def arguments (i : Interpreter) (words : List Word) : Doing (List String) := do
  let setters : List String := ["export", "readonly", "local"]
  let step (before : List String) (w : Word) : Doing (List String) := do
    match setting? w with
    | some (name, value) =>
      if before.head?.any setters.contains then
        return before ++ [name ++ "=" ++ (← i.plain .inValue value)]
      else return before ++ (← i.fields w)
    | none => return before ++ (← i.fields w)
  words.foldlM step []

def trace (before : State) (shown : List String) : Doing Unit := do
  let s ← get
  if s.has 'x' then
    set (s.setPort 2 (before.port? 2))
    Doing.tell ((s.value? "PS4").getD "" ++ String.intercalate " " shown)
    modify fun t => t.setPort 2 (s.port? 2)

/-- Sets the variables that stand before a command; returns them as they are written. -/
def assign (i : Interpreter) (passing exported : Bool) (sets : List (String × Word)) :
    Doing (List String) :=
  sets.mapM (fun (name, word) => do
    let value ← i.plain .inValue word
    if passing then Doing.remember name
    Doing.setVar name value exported
    return name ++ "=" ++ value)

def heed (i : Interpreter) : Doing Unit := do
  let s ← get
  if s.depth = 0 && !s.pending.isEmpty then
    set { s with pending := [] }
    s.pending.forM (fun signal => do
      let s ← get
      match if Signal.isHard signal then none else s.traps.lookup signal with
      | some "" => pure ()
      | some action =>
        set { s with trapStatus := some s.status }
        i.text {} action
        modify fun t => { t with status := s.status, trapStatus := s.trapStatus }
      | none => if Signal.isFatal signal then throw (.ended (.killed signal)))

def check (p : Purpose) : Doing Unit := do
  let s ← get
  if s.has 'e' && !p.tested && s.status ≠ 0 then throw (.ended (.exited s.status))

/-- Sets variables and does what words ask for; the variables keep their values only if a mistake
would end the shell. -/
def command (i : Interpreter) (p : Purpose) (before : State) (r : Resolved)
    (sets : List (String × Word)) (args : List String) : Doing Unit := do
  let exported := !r.special || (r.replaces && 1 < args.length)
  let body : Doing Unit := do
    let shown ← i.assign (!r.special) exported sets
    trace before (shown ++ args)
    i.act p r
  if r.special then body else Doing.inScope body

def redirectedForGood (i : Interpreter) (rs : List Redirect) (x : Doing Unit) : Doing Bool := do
  let ts ← rs.mapM (fun r => do return (r.changed, ← i.target r))
  match ← Doing.observe (redirect ts) with
  | .ok () =>
    x
    return true
  | .error .failed => return false
  | .error stop => throw stop

def simple (i : Interpreter) (p : Purpose) (sets : List (String × Word)) (words : List Word)
    (redirects : List Redirect) : Doing Unit := do
  modify fun s => { s with outputStatus := 0 }
  let args ← i.arguments words
  let before ← get
  if args.isEmpty then
    let _ ← i.redirected redirects do
      let shown ← i.assign false false sets
      if !shown.isEmpty then trace before shown
      modify fun s => { s with status := s.outputStatus }
  else
    let r := before.resolve true args
    let body := i.command p before r sets args
    let done ← if r.replaces then i.redirectedForGood redirects body
      else i.redirected redirects body
    if !done && r.special then throw .failed

def forEach (round : α → Doing Unit) : List α → Doing Unit
  | [] => pure ()
  | a :: rest => do
    match ← Doing.observe (round a) with
    | .ok () => forEach round rest
    | .error (.loop again levels) =>
      if 1 < levels then throw (.loop again (levels - 1))
      else if again then forEach round rest
    | .error stop => throw stop

def around (condition : Doing Bool) (body : Doing Unit) : (fuel : Nat) → (last : Nat) → Doing Unit
  | 0, _ => pure ()
  | fuel + 1, last => do
    let round : Doing Bool := do
      if ← condition then
        body
        return true
      else
        Doing.setStatus last
        return false
    match ← Doing.observe round with
    | .ok more => if more then around condition body fuel (← get).status
    | .error (.loop again levels) =>
      if 1 < levels then throw (.loop again (levels - 1))
      else if again then around condition body fuel (← get).status
    | .error stop => throw stop

def inLoop (x : Doing Unit) : Doing Unit := do
  modify fun s => { s with loops := s.loops + 1 }
  Doing.ensuring x (fun s => { s with loops := s.loops - 1 })

def chosen (i : Interpreter) (subject : List Char) :
    List (List Word × Script) → Doing (Option Script)
  | [] => return none
  | (patterns, body) :: rest => do
    let fits ← patterns.foldlM (fun (found : Bool) w => do
      if found then return true else return (← i.pattern w).fits subject) false
    if fits then return some body else chosen i subject rest

def pipe (i : Interpreter) (p : Purpose) : List Script → Doing Unit
  | [] => pure ()
  | [c] => do awaited (← i.apart (i.run { p with last := true } c))
  | c :: rest => do
    let number := (← get).fresh
    let ending ← i.apart do
      modify fun s => { s.setPort 1 (some (.sink number)) with fresh := number + 1 }
      i.run { p with last := true } c
    awaited ending
    let s ← get
    let before := s.port? 0
    let (source, s) := (s.dropSink number).addSource (s.gathered number)
    set (s.setPort 0 (some source))
    Doing.ensuring (pipe i p rest) (fun s => s.setPort 0 before)

def runStep (i : Interpreter) (p : Purpose) (c : Script) : Doing Unit := do
  if (← get).has 'n' then return
  match c with
  | .skip => pure ()
  | .simple line sets words redirects =>
    modify fun s => { s with line }
    i.simple p sets words redirects
    check p
  | .andThen a b =>
    i.run { tested := p.tested } a
    i.run p b
  | .ifOk a b =>
    i.run { tested := true } a
    if (← get).status = 0 then i.run p b
  | .ifFailed a b =>
    i.run { tested := true } a
    if (← get).status ≠ 0 then i.run p b
  | .negate a =>
    i.run { tested := true } a
    modify fun s => { s with status := if s.status = 0 then 1 else 0 }
  | .background a =>
    let ending ← i.apart do
      let (source, s) := (← get).addSource []
      set (s.setPort 0 (some source))
      i.run { last := true } a
    modify fun s => { s with jobs := ending.shellStatus :: s.jobs, status := 0 }
  | .pipeline parts =>
    i.pipe p parts
    check p
  | .branch condition yes no =>
    i.run { tested := true } condition
    if (← get).status = 0 then i.run p yes
    else
      match no with
      | some c => i.run p c
      | none => Doing.setStatus 0
  | .forEach line name words body =>
    modify fun s => { s with line }
    let values ← match words with
      | some ws => do pure (← ws.mapM i.fields).flatten
      | none => do pure (← get).args
    if values.isEmpty then Doing.setStatus 0
    inLoop (forEach (fun value => do
      Doing.setVar name value
      i.run { tested := p.tested } body) values)
  | .loop whileOk condition body =>
    let goesOn : Doing Bool := do
      i.run { tested := true } condition
      return decide ((← get).status = 0) = whileOk
    inLoop (around goesOn (i.run { tested := p.tested } body) loopLimit 0)
  | .choice line subject arms =>
    modify fun s => { s with line }
    let text ← i.plain .atStart subject
    match ← i.chosen text.toList arms with
    | none | some .skip => Doing.setStatus 0
    | some body => i.run p body
  | .subshell line a redirects =>
    modify fun s => { s with line }
    let ending ← i.apart do
      if !(← i.redirected redirects (i.run { p with last := true } a)) then
        throw (.ended (.exited 2))
    awaited ending
    check p
  | .redirected line a redirects =>
    modify fun s => { s with line }
    if !(← i.redirected redirects (i.run { tested := p.tested } a)) then check p
  | .define _ name body =>
    modify fun s =>
      { s with
        functions := ⟨name, body⟩ :: s.functions.filter (·.name ≠ name)
        status := 0 }
  i.heed

/-- The interpreter of what is nested at most `depth` deep. -/
def ofDepth (start : Host.Start) : (depth : Nat) → Interpreter
  | 0 => ⟨start, fun _ _ => throw (.ended (.killed 11)), fun _ _ => return []⟩
  | depth + 1 =>
    let i := ofDepth start depth
    ⟨start, i.runStep, i.glyphsStep⟩

end Interpreter
end Provision.Shell
