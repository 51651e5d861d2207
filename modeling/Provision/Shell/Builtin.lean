import Provision.FileSystem.Permission
import Provision.Shell.Condition
import Provision.Shell.Expansion
import Provision.Shell.Format
import Provision.Shell.Signal

namespace Provision.Shell
namespace Builtin

abbrev Action := List String → Doing Nat

def say (cs : List Char) : Doing Nat := do
  if ← Doing.print 1 cs then return 0
  else
    Doing.complain (((← get).speaker).getD "" ++ ": I/O error")
    return 1

def sayLine (text : String) : Doing Nat := say (text ++ "\n").toList

def count (word : String) : Doing Nat := do
  match Integer.decimal? word with
  | some n =>
    if 0 ≤ n && n < Int.pow 2 31 then return n.toNat else Doing.fail ("Illegal number: " ++ word)
  | none => Doing.fail ("Illegal number: " ++ word)

def options (letters valued : List Char) :
    List String → Doing (List (Char × String) × List String)
  | [] => pure ([], [])
  | word :: rest =>
    match word.toList with
    | ['-', '-'] => pure ([], rest)
    | '-' :: c :: cs =>
      let known := letters.contains c || valued.contains c
      if !known then Doing.fail ("Illegal option -" ++ String.singleton c)
      else if valued.contains c then
        match cs, rest with
        | [], [] => Doing.fail ("No arg for -" ++ String.singleton c ++ " option")
        | [], value :: rest => do
          let (found, args) ← options letters valued rest
          return ((c, value) :: found, args)
        | cs, rest => do
          let (found, args) ← options letters valued rest
          return ((c, String.ofList cs) :: found, args)
      else
        match (c :: cs).find? (fun c => !letters.contains c) with
        | some bad => Doing.fail ("Illegal option -" ++ String.singleton bad)
        | none => do
          let (found, args) ← options letters valued rest
          return ((c :: cs).map (·, "") ++ found, args)
    | _ => pure ([], word :: rest)

def quote (text : String) : String :=
  "'" ++ String.intercalate "'\"'\"'" (text.splitOn "'") ++ "'"

def listVars (lead : String) (fits : Var → Bool) : Doing Nat := do
  let vars := ((← get).vars.filter fits).mergeSort (fun a b => a.name ≤ b.name)
  let line (v : Var) : String :=
    (if lead = "" then "" else lead ++ " ") ++ v.name ++
      (v.value.map (fun value => "=" ++ quote value)).getD "" ++ "\n"
  say (String.join (vars.map line)).toList

def echo : Action := fun args => say (Format.echo args)

def printf : Action := fun args => do
  match (← options [] [] args).2 with
  | [] => Doing.fail "usage: printf format [arg ...]"
  | format :: args =>
    let (r, mistake) := Format.print format args
    r.complaints.forM Doing.complain
    match mistake with
    | some complaint =>
      Doing.complain complaint
      let _ ← say r.written
      Doing.setStatus 2
      throw .failed
    | none =>
      let status ← say r.written
      return if r.complaints.isEmpty then status else 1

def test : Action := fun args => do
  match Condition.holds (← get).fs args with
  | .ok b => return if b then 0 else 1
  | .error complaint => Doing.fail complaint

def bracket : Action := fun args => do
  match args.getLast? with
  | some word =>
    if word.toList.head? = some ']' then test args.dropLast else Doing.fail "missing ]"
  | none => Doing.fail "missing ]"

def walk (here path : String) : String :=
  let start := if path.toList.head? = some '/' then [] else (here.splitOn "/").filter (· ≠ "")
  let step (names : List String) (n : String) : List String :=
    if n = "" || n = "." then names
    else if n = ".." then names.dropLast
    else names ++ [n]
  "/" ++ String.intercalate "/" ((path.splitOn "/").foldl step start)

def enter (physical : Bool) (path : String) : Doing Bool := do
  let s ← get
  let target := if physical then path else walk s.here path
  match s.fs.enter ⟨Octets.toText target⟩ with
  | .error _ => return false
  | .ok fs =>
    let here := if physical then Octets.ofText (FileSystem.pathOf fs.cwd).text else target
    set { s with fs, here }
    Doing.setVar "OLDPWD" s.here true
    Doing.setVar "PWD" here true
    return true

def cd : Action := fun args => do
  let (found, args) ← options ['L', 'P'] [] args
  let physical := (found.getLast?.map (·.1)) = some 'P'
  let s ← get
  let (target, shows) := match args with
    | [] => ((s.value? "HOME").getD "", false)
    | "-" :: _ => ((s.value? "OLDPWD").getD "", true)
    | word :: _ => (word, false)
  if ← enter physical (if target = "" then "." else target) then
    if shows then sayLine (← get).here else return 0
  else Doing.fail ("can't cd to " ++ target)

def pwd : Action := fun args => do
  let (found, _) ← options ['L', 'P'] [] args
  let s ← get
  if (found.getLast?.map (·.1)) = some 'P' then
    sayLine (Octets.ofText (FileSystem.pathOf s.fs.cwd).text)
  else sayLine s.here

def exit : Action := fun args => do
  let s ← get
  let status ← match args with
    | [] => pure (s.trapStatus.getD s.status)
    | word :: _ => count word
  Doing.setStatus status
  throw (.ended (.exited (status % 256)))

def leave : Action := fun args => do
  let status ← match args with
    | [] => pure (← get).status
    | word :: _ => count word
  Doing.setStatus status
  throw .leave

def leaveLoop (again : Bool) : Action := fun args => do
  let n ← match args with
    | [] => pure 1
    | word :: _ => count word
  if n = 0 then Doing.fail ("Illegal number: " ++ args.headD "")
  else
    let levels := min n (← get).loops
    if levels = 0 then return 0
    else
      Doing.setStatus 0
      throw (.loop again levels)

def shift : Action := fun args => do
  let n ← match args with
    | [] => pure 1
    | word :: _ => count word
  let s ← get
  if s.args.length < n then Doing.fail "can't shift that many"
  else
    set { s with args := s.args.drop n }
    return 0

def switchNames : List (String × Option Char) :=
  [("errexit", some 'e'), ("noglob", some 'f'), ("ignoreeof", some 'I'), ("interactive", some 'i'),
    ("monitor", some 'm'), ("noexec", some 'n'), ("stdin", some 's'), ("xtrace", some 'x'),
    ("verbose", some 'v'), ("vi", some 'V'), ("emacs", some 'E'), ("noclobber", some 'C'),
    ("allexport", some 'a'), ("notify", some 'b'), ("nounset", some 'u'), ("privileged", none),
    ("nolog", none), ("debug", none)]

def turn (on : Bool) (c : Char) : Doing Unit := modify fun s =>
  { s with switches := (if on then [c] else []) ++ s.switches.filter (· ≠ c) }

def turnNamed (on : Bool) (name : String) : Doing Unit := do
  match switchNames.lookup name with
  | some (some c) => turn on c
  | some none => pure ()
  | none => Doing.fail ("Illegal option -o " ++ name)

def turnLetter (on : Bool) (c : Char) : Doing Unit := do
  if State.switchLetters.contains c then turn on c
  else Doing.fail ("Illegal option -" ++ String.singleton c)

def listSwitches (readable : Bool) : Doing Unit := do
  let s ← get
  let isOn (c : Option Char) : Bool := c.any (s.switches.contains ·)
  let line : String × Option Char → String := fun (name, c) =>
    if readable then
      name ++ String.ofList (List.replicate (16 - name.length) ' ') ++ (if isOn c then "on" else "off")
    else "set " ++ (if isOn c then "-o " else "+o ") ++ name
  let lines := (if readable then ["Current option settings"] else []) ++ switchNames.map line
  let _ ← say (String.join (lines.map (· ++ "\n"))).toList

structure Turned where
  replaces : Bool
  args : List String
  script : Bool := false

def turnAll (starting : Bool) : (fuel : Nat) → List String → Doing Turned
  | 0, words => pure ⟨!words.isEmpty, words, false⟩
  | _ + 1, [] => pure ⟨false, [], false⟩
  | fuel + 1, word :: rest => do
    match word.toList with
    | ['-'] =>
      if !starting then
        turn false 'x'
        turn false 'v'
      return ⟨!rest.isEmpty, rest, false⟩
    | ['-', '-'] => return ⟨true, rest, false⟩
    | sign :: cs =>
      if sign = '-' || sign = '+' then
        let on := sign = '-'
        let script := starting && cs.contains 'c'
        (cs.filter (fun c => c ≠ 'o' && !(starting && (c = 'c' || c = 'l')))).forM (turnLetter on)
        if cs.contains 'o' then
          match rest.head? with
          | some name => turnNamed on name
          | none => listSwitches on
        let t ← turnAll starting fuel (if cs.contains 'o' then rest.drop 1 else rest)
        return { t with script := t.script || script }
      else return ⟨true, word :: rest, false⟩
    | [] => return ⟨true, word :: rest, false⟩

def setAgain : Action := fun args => do
  if args.isEmpty then listVars "" (·.value.isSome)
  else
    let t ← turnAll false args.length args
    if t.replaces then modify fun s => { s with args := t.args }
    return 0

def unset : Action := fun args => do
  let (found, names) ← options ['v', 'f'] [] args
  if (found.getLast?.map (·.1)) = some 'f' then
    modify fun s => { s with functions := s.functions.filter (fun f => !names.contains f.name) }
  else
    names.forM (fun name => do
      if !isName name.toList then Doing.fail (name ++ ": bad variable name")
      else
        Doing.changeVar name id
        modify fun s => s.eraseVar name)
  return 0

def assignment (word : String) : String × Option String :=
  let name := word.toList.takeWhile (· ≠ '=')
  (String.ofList name,
    if name.length < word.length then some (String.ofList (word.toList.drop (name.length + 1)))
    else none)

def markAll (lead : String) (marked : Var → Bool) (mark : Var → Var) : Action := fun args => do
  let (found, words) ← options ['p'] [] args
  if !found.isEmpty || words.isEmpty then listVars lead marked
  else
    words.forM (fun word => do
      let (name, value) := assignment word
      if !isName name.toList then Doing.fail (name ++ ": bad variable name")
      else
        match value with
        | some v => Doing.setVar name v
        | none => pure ()
        let v := ((← get).var? name).getD { name, value := none }
        modify fun s => s.putVar (mark v))
    return 0

def localVars : Action := fun args => do
  if !(← get).inFunction then Doing.fail "not in a function"
  else
    args.forM (fun word => do
      let (name, value) := assignment word
      if !isName name.toList then Doing.fail (name ++ ": bad variable name")
      else
        Doing.remember name
        match value with
        | some v => Doing.setVar name v
        | none => pure ())
    return 0

/-- A line of input: characters that a backslash protects are no separators. -/
def readLine (raw : Bool) : List Char → List Glyph × List Char × Bool
  | [] => ([], [], false)
  | '\n' :: rest => ([], rest, true)
  | c :: rest =>
    if c = '\\' && !raw then
      match rest with
      | [] => ([], [], false)
      | '\n' :: behind => readLine raw behind
      | d :: behind =>
        let (gs, left, whole) := readLine raw behind
        (.quoted d :: gs, left, whole)
    else
      let (gs, left, whole) := readLine raw rest
      (.loose c :: gs, left, whole)

/-- What is left for the last name: all but the separators around it. A separator other than blank
space goes only where nothing but one word stands before it. -/
def lastField (separators : List Char) (gs : List Glyph) : List Glyph :=
  let isSeparator (g : Glyph) : Bool := match g with
    | .loose c => separators.contains c
    | _ => false
  let isBlank (g : Glyph) : Bool := match g with
    | .loose c => separators.contains c && Glyph.isSpace c
    | _ => false
  let trimmed := (gs.reverse.dropWhile isBlank).reverse
  match trimmed.getLast? with
  | some g =>
    let before := (trimmed.dropLast.reverse.dropWhile isBlank).reverse
    if isSeparator g && !before.any isSeparator then before else trimmed
  | none => []

def firstField (separators : List Char) (gs : List Glyph) : List Glyph × List Glyph :=
  let isBlank (g : Glyph) : Bool := match g with
    | .loose c => separators.contains c && Glyph.isSpace c
    | _ => false
  let isOther (g : Glyph) : Bool := match g with
    | .loose c => separators.contains c && !Glyph.isSpace c
    | _ => false
  let word := gs.takeWhile (fun g => !isBlank g && !isOther g)
  match (gs.drop word.length).dropWhile isBlank with
  | g :: rest => (word, if isOther g then rest.dropWhile isBlank else g :: rest)
  | [] => (word, [])

def distribute (separators : List Char) : List String → List Glyph → List (String × String)
  | [], _ => []
  | [name], gs => [(name, Glyph.text (lastField separators gs))]
  | name :: names, gs =>
    let (word, rest) := firstField separators gs
    (name, Glyph.text word) :: distribute separators names rest

def read : Action := fun args => do
  let (found, names) ← options ['r'] ['p'] args
  if names.isEmpty then Doing.fail "arg count"
  else
    let s ← get
    let (gs, whole) ← match s.port? 0 with
      | some (.source n) => do
        let (gs, left, whole) := readLine (found.any (·.1 = 'r')) (s.source n)
        set (s.setSource n left)
        pure (gs, whole)
      | _ => pure ([], false)
    let gs := gs.dropWhile (fun g => match g with
      | .loose c => s.separators.contains c && Glyph.isSpace c
      | _ => false)
    (distribute s.separators names gs).forM (fun (name, value) => Doing.setVar name value)
    return if whole then 0 else 1

def killUsage : String :=
  "Usage: kill [-s sigspec | -signum | -sigspec] [pid | job]... or\nkill -l [exitstatus]"

def killRequest (args : List String) : Doing (Option Nat × List String × Bool) := do
  match args.head?.map String.toList with
  | some ('-' :: cs) =>
    match Signal.ofWord? 1 (String.ofList cs) with
    | some n => return (some n, args.drop 1, false)
    | none =>
      let (found, targets) ← options ['l'] ['s'] args
      let signal ← match found.find? (·.1 = 's') with
        | some (_, name) =>
          match Signal.ofWord? 1 name with
          | some n => pure (some n)
          | none => Doing.fail ("invalid signal number or name: " ++ name)
        | none => pure none
      return (signal, targets, found.any (·.1 = 'l'))
  | _ => return (none, args, false)

/-- Sends a signal to a process; only the shell's own is known. -/
def send (signal : Nat) (target : String) : Doing Bool := do
  let n ← count (match target.toList with
    | '-' :: cs => String.ofList cs
    | _ => target)
  if toString n = State.processNumber then
    if signal ≠ 0 then modify fun s => { s with pending := s.pending ++ [signal] }
    return true
  else
    Doing.complain "No such process\n"
    return false

def kill : Action := fun args => do
  let (signal, targets, lists) ← killRequest args
  if lists then
    match targets with
    | [] => say (String.join ("0\n" :: (Signal.names.drop 1).map (· ++ "\n"))).toList
    | word :: _ =>
      let n ← count word
      let n := if 128 < n then n - 128 else n
      if 0 < n && n < Signal.names.length then sayLine (Signal.name n)
      else Doing.fail ("invalid signal number or exit status: " ++ word)
  else if targets.isEmpty then Doing.fail killUsage
  else
    let sent ← targets.mapM (send (signal.getD 15))
    return if sent.all id then 0 else 1

def setTrap (action : Option String) (signal : Nat) : Doing Unit := modify fun s =>
  { s with
    traps := (action.toList.map (signal, ·)) ++ s.traps.filter (·.1 ≠ signal) }

def setTraps (action : Option String) : List String → Doing Nat
  | [] => return 0
  | word :: rest => do
    match Signal.ofWord? 0 word with
    | some n =>
      setTrap action n
      setTraps action rest
    | none =>
      Doing.tell ("trap: " ++ word ++ ": bad trap")
      return 1

def trap : Action := fun args => do
  let (_, words) ← options [] [] args
  match words with
  | [] =>
    let traps := (← get).traps.mergeSort (fun a b => a.1 ≤ b.1)
    let line : Nat × String → String := fun (n, action) =>
      "trap -- " ++ quote action ++ " " ++ Signal.name n ++ "\n"
    say (String.join (traps.map line)).toList
  | [word] => setTraps none [word]
  | first :: rest =>
    if (first ≠ "" && first.all Char.isDigit) && (Signal.ofWord? 0 first).isSome then
      setTraps none words
    else setTraps (if first = "-" then none else some first) rest

def wait : Action := fun args => do
  let s ← get
  let one (word : String) : Doing Nat := do
    if word.toList.head? = some '%' then Doing.fail ("No such job: " ++ word)
    else
      let n ← count word
      return if n < 2 then 127 else (s.jobs.reverse[n - 2]?).getD 127
  return (← args.mapM one).getLast?.getD 0

def maskText (mask : Nat) : String :=
  let part (shift : Nat) : String :=
    let bits := (mask / shift) % 8
    String.ofList ((if bits / 4 % 2 = 0 then ['r'] else []) ++
      (if bits / 2 % 2 = 0 then ['w'] else []) ++ (if bits % 2 = 0 then ['x'] else []))
  "u=" ++ part 64 ++ ",g=" ++ part 8 ++ ",o=" ++ part 1

def umask : Action := fun args => do
  let (found, words) ← options ['S'] [] args
  match words with
  | [] =>
    let mask := (← get).mask
    let digits := Nat.toDigits 8 mask
    if found.isEmpty then
      sayLine (String.ofList (List.replicate (4 - digits.length) '0' ++ digits))
    else sayLine (maskText mask)
  | word :: _ =>
    let change (mask : Option Nat) (complaint : String) : Doing Nat := do
      match mask with
      | some mask =>
        modify fun s => { s with mask }
        return 0
      | none => Doing.fail (complaint ++ word)
    if word.toList.head?.any Char.isDigit then
      change ((Permission.octal? word).map (· % 512)) "Illegal number: "
    else
      let clauses := word.splitOn ","
      let clauses := if clauses.getLast? = some "" then clauses.dropLast else clauses
      let bits := Permission.allBits ^^^ (← get).mask
      change ((Permission.clauses? 0 clauses bits).map (Permission.allBits ^^^ ·)) "Illegal mode: "

structure Found where
  letter : Char := '?'
  value : Option String
  index : Nat
  place : Nat := 0
  complaint : Option String := none
  done : Bool := false

def nextOption (letters : List Char) (args : List String) (index place : Nat) : Found :=
  let quiet := letters.head? = some ':'
  let before := (args[index - 2]?.getD "").toList
  let (rest, index) : List Char × Nat :=
    if 2 ≤ index && 0 < place && place < before.length then (before.drop place, index)
    else match (args[index - 1]?).map String.toList with
      | some ('-' :: c :: cs) => (c :: cs, index + 1)
      | _ => ([], index)
  let known := letters.dropWhile (fun l => l = ':' || some l ≠ rest.head?)
  match rest with
  | [] => { value := none, index, done := true }
  | ['-'] => { value := none, index, done := true }
  | c :: cs =>
    let place := if cs.isEmpty then 0 else (args[index - 2]?.getD "").length - cs.length
    match known with
    | [] =>
      if quiet then { value := some (String.singleton c), index, place }
      else { value := none, index, place, complaint := some ("Illegal option -" ++ String.singleton c) }
    | _ :: ':' :: _ =>
      if !cs.isEmpty then { letter := c, value := some (String.ofList cs), index }
      else match args[index - 1]? with
        | some value => { letter := c, value := some value, index := index + 1 }
        | none =>
          if quiet then { letter := ':', value := some (String.singleton c), index }
          else
            { value := none, index
              complaint := some ("No arg for -" ++ String.singleton c ++ " option") }
    | _ => { letter := c, value := some "", index, place }

def getopts : Action := fun args => do
  match args with
  | letters :: name :: words =>
    let s ← get
    let words := if words.isEmpty then s.args else words
    let index := max 1 (((s.value? "OPTIND").bind String.toNat?).getD 1)
    let f := nextOption letters.toList words index s.optionPlace
    match f.complaint with
    | some text => Doing.tell text
    | none => pure ()
    match f.value with
    | some v => Doing.setVar "OPTARG" v
    | none => if !f.done then modify fun s => s.eraseVar "OPTARG"
    Doing.setVar "OPTIND" (toString f.index)
    modify fun s => { s with optionPlace := f.place }
    Doing.setVar name (String.singleton f.letter)
    return if f.done then 1 else 0
  | _ => Doing.fail "Usage: getopts optstring var [arg...]"

def nothing : Action := fun _ => return 0

def nameAliases : Action := fun args => do
  let line (a : String × String) : String := a.1 ++ "=" ++ quote a.2
  let one (word : String) : Doing Nat := do
    let known := (← get).aliases
    match assignment word with
    | ("", _) | (_, none) =>
      match known.find? (·.1 = word) with
      | some a => sayLine (line a)
      | none =>
        Doing.tell ("alias: " ++ word ++ " not found")
        return 1
    | (name, some meaning) =>
      let isKnown := known.any (·.1 = name)
      let aliases := if isKnown then known.map (fun a => if a.1 = name then (name, meaning) else a)
        else known ++ [(name, meaning)]
      modify fun s => { s with aliases }
      return 0
  if args.isEmpty then
    let known := (← get).aliases.mergeSort (fun a b => State.rank a.1 ≤ State.rank b.1)
    say (String.join (known.map (line · ++ "\n"))).toList
  else
    return (← args.mapM one).foldl max 0

def unalias : Action := fun args => do
  let (found, names) ← options ['a'] [] args
  let one (name : String) : Doing Nat := do
    let s ← get
    if s.aliases.any (·.1 = name) then
      set { s with aliases := s.aliases.filter (·.1 ≠ name) }
      return 0
    else
      Doing.tell ("unalias: " ++ name ++ " not found")
      return 1
  if !found.isEmpty then
    modify fun s => { s with aliases := [] }
    return 0
  else return (← names.mapM one).foldl max 0

def times : Action := fun _ =>
  let line := "0m0.000000s 0m0.000000s\n"
  say (line ++ line).toList

def foreground : Action := fun _ => Doing.fail "No current job"

/-- The commands that need nothing but their arguments. -/
def action? (name : String) : Option Action :=
  match name with
  | ":" | "true" => some (fun _ => return 0)
  | "false" => some (fun _ => return 1)
  | "echo" => some echo
  | "printf" => some printf
  | "test" => some test
  | "[" => some bracket
  | "cd" | "chdir" => some cd
  | "pwd" => some pwd
  | "exit" => some exit
  | "return" => some leave
  | "break" => some (leaveLoop false)
  | "continue" => some (leaveLoop true)
  | "shift" => some shift
  | "set" => some setAgain
  | "unset" => some unset
  | "export" => some (markAll "export" (·.exported) ({ · with exported := true }))
  | "readonly" => some (markAll "readonly" (·.fixed) ({ · with fixed := true }))
  | "local" => some localVars
  | "read" => some read
  | "kill" => some kill
  | "trap" => some trap
  | "wait" => some wait
  | "umask" => some umask
  | "getopts" => some getopts
  | "jobs" | "ulimit" => some nothing
  | "times" => some times
  | "alias" => some nameAliases
  | "unalias" => some unalias
  | "fg" | "bg" => some foreground
  | _ => none

def doers : List String := [".", "command", "eval", "exec", "hash", "type"]

def isOwn (name : String) : Bool := (action? name).isSome || doers.contains name

end Builtin
end Provision.Shell
