import Provision.Host.Programs
import Provision.Shell.Process

namespace Provision.Host

inductive Native
  | shell
  | environment
  | plain (work : Program.Work)

namespace Native

def home : Location := ["usr", "bin"]

def names : List String := ["dash", "env"] ++ Program.all.map (·.1)

def at? (l : Location) : Option Native :=
  match l with
  | ["usr", "bin", "dash"] => some .shell
  | ["usr", "bin", "env"] => some .environment
  | ["usr", "bin", name] => (Program.all.lookup name).map .plain
  | _ => none

end Native

def baseEntries : List (Location × Entry) :=
  [(["usr"], .directory), (Native.home, .directory), (["bin"], .link "usr/bin"),
    (Native.home ++ ["sh"], .link "dash")] ++
  Native.names.map (fun n => (Native.home ++ [n], .file .empty true))

def shellPath : String := "/bin/sh"

/-- Where programs are looked for when the environment does not say. -/
def defaultSearchPath : String := "/bin:/usr/bin"

def candidates (env : Environment) (program : String) : List String :=
  if program.toList.contains '/' then [program]
  else (((env.value? "PATH").getD defaultSearchPath).splitOn ":").map (fun dir =>
    if dir = "" then program else dir ++ "/" ++ program)

/-- Tries paths in order. A file that must not be run is passed over like one that is missing, and
remembered for when nothing else is found. -/
def firstOf (run : String → Except IoError Outcome) (denied : Bool) (last : IoError) :
    List String → Except IoError Outcome
  | [] => .error (if denied then .accessDenied else last)
  | path :: rest =>
    match run path with
    | .ok o => .ok o
    | .error .accessDenied => firstOf run true .accessDenied rest
    | .error .noEntry => firstOf run denied .noEntry rest
    | .error .notDirectory => firstOf run denied .notDirectory rest
    | .error e => .error e

/-- A name without a slash is looked for along the search path. A file is a program of the host, or
a script that names its interpreter in its first line. -/
def search (start : Start) (r : Request) (fs : FileSystem) : Except IoError Outcome :=
  let program := r.words.headD ""
  if program = "" then .error .noEntry
  else if program.toList.contains '/' then start { r with path := program } fs
  else if FileSystem.nameLimit < program.utf8ByteSize then .error .nameTooLong
  else firstOf (fun path => start { r with path } fs) false .noEntry (candidates r.env program)

structure Surroundings where
  env : Environment
  words : List String
  zero : Bool := false
  complaint : Option String := none

namespace Surroundings

def assign : Surroundings → List String → Surroundings
  | s, [] => { s with words := [] }
  | s, word :: rest =>
    let name := word.toList.takeWhile (· ≠ '=')
    if name.length < word.length then
      let n := String.ofList name
      let value := String.ofList (word.toList.drop (name.length + 1))
      assign { s with env := s.env.filter (·.1 ≠ n) ++ [(n, value)] } rest
    else { s with words := word :: rest }

def pieces (text : String) : List String :=
  (text.splitOn " ").filter (· ≠ "")

def unset (s : Surroundings) (name : String) : Surroundings :=
  { s with env := s.env.filter (·.1 ≠ name) }

def read : Surroundings → (fuel : Nat) → List String → Surroundings
  | s, 0, words => s.assign words
  | s, _ + 1, [] => s.assign []
  | s, fuel + 1, word :: rest =>
    match word.toList, rest with
    | ['-'], rest => read { s with env := [] } fuel rest
    | ['-', '-'], rest => s.assign rest
    | ['-', 'u'], name :: rest => (s.unset name).read fuel rest
    | '-' :: 'u' :: c :: cs, rest => (s.unset (String.ofList (c :: cs))).read fuel rest
    | ['-', 'S'], text :: rest => s.read fuel (pieces text ++ rest)
    | '-' :: 'S' :: c :: cs, rest => s.read fuel (pieces (String.ofList (c :: cs)) ++ rest)
    | '-' :: 'i' :: cs, rest =>
      let s := { s with env := [] }
      if cs = [] then s.read fuel rest else s.read fuel (String.ofList ('-' :: cs) :: rest)
    | '-' :: '0' :: cs, rest =>
      let s := { s with zero := true }
      if cs = [] then s.read fuel rest else s.read fuel (String.ofList ('-' :: cs) :: rest)
    | '-' :: '-' :: _, _ =>
      { s with complaint := some ("unrecognized option '" ++ word ++ "'") }
    | '-' :: c :: _, _ =>
      { s with complaint := some ("invalid option -- '" ++ String.singleton c ++ "'") }
    | _, rest => s.assign (word :: rest)

def ofWords (env : Environment) (words : List String) : Surroundings :=
  read ⟨env, [], false, none⟩ (words.length + (words.map String.length).foldl (· + ·) 0) words

end Surroundings

def runEnvironment (start : Start) (r : Request) (fs : FileSystem) : Outcome :=
  let p := Progress.ofRequest r fs
  let s := Surroundings.ofWords r.env (r.words.drop 1)
  let failed (p : Progress) (status : Nat) : Outcome := { p with status }.outcome
  match s.complaint, s.words with
  | some complaint, _ => failed (p.refuse complaint) 125
  | none, [] =>
    let ending := if s.zero then "\x00" else "\n"
    (p.say (String.join (s.env.map (fun (n, v) => n ++ "=" ++ v ++ ending)))).outcome
  | none, words =>
    match search start { r with env := s.env, words } fs with
    | .ok o => o
    | .error e =>
      let p := p.complain (Progress.quoted (words.headD "") ++ ": " ++ e.describe)
      let p := if e = .noEntry && (words.headD "").toList.contains ' '
        then p.complain "use -[v]S to pass options in shebang lines" else p
      failed p (if e = .noEntry then 127 else 126)

def Native.run (n : Native) (start : Start) (r : Request) (fs : FileSystem) : Outcome :=
  match n with
  | shell => Shell.run start r fs
  | environment => runEnvironment start r fs
  | plain work => Program.run work r fs

inductive Image
  | native (n : Native)
  | script (interpreter : String) (argument : Option String)

def headLimit : Nat := 256

def isSpace (c : Char) : Bool := c = ' ' || c = '\t'

/-- The interpreter that the first line names, and all that follows it as one argument. -/
def interpreter? (content : ByteArray) : Option (String × Option String) :=
  let head := content.extract 0 headLimit
  let line := ByteArray.mk (head.toList.takeWhile (fun b => b ≠ 10 && b ≠ 0)).toArray
  match (String.fromUTF8? line).map String.toList with
  | some ('#' :: '!' :: cs) =>
    let cs := ((cs.dropWhile isSpace).reverse.dropWhile isSpace).reverse
    let name := cs.takeWhile (fun c => !isSpace c)
    let argument := (cs.dropWhile (fun c => !isSpace c)).dropWhile isSpace
    if name = [] then none
    else some (String.ofList name, if argument = [] then none else some (String.ofList argument))
  | _ => none

def imageAt (fs : FileSystem) (path : String) : Except IoError Image :=
  match fs.find ⟨path⟩ with
  | .error e => .error e
  | .ok (l, .file content executable) =>
    if !executable then .error .accessDenied
    else match Native.at? l, interpreter? content with
      | some n, _ => .ok (.native n)
      | none, some (name, argument) => .ok (.script name argument)
      | none, none => .error .badExecutable
  | .ok _ => .error .accessDenied

/-- How many scripts in a row can be each other's interpreters. -/
def interpreterLimit : Nat := 5

def wordLimit : Nat := 131071

/-- Runs what is at a path; a script is run by its interpreter, which is given the script's path. -/
def execute (start : Start) : (depth : Nat) → Start
  | 0, _, _ => .error .tooManyLinks
  | depth + 1, r, fs =>
    match imageAt fs r.path with
    | .error e => .error e
    | .ok image =>
      if r.words.any (fun a => wordLimit < a.utf8ByteSize) then .error .argumentListTooLong
      else match image with
        | .native n => .ok (n.run start r fs)
        | .script name argument =>
          let words := name :: argument.toList ++ r.path :: r.words.drop 1
          execute start depth { r with path := name, words } fs

def launch (start : Start) (accepts : ByteArray → Bool) : Start := fun r fs =>
  match execute start interpreterLimit r fs with
  | .error .badExecutable =>
    if ((fs.read ⟨r.path⟩).toOption).any accepts then
      let words := shellPath :: r.path :: r.words.drop 1
      execute start interpreterLimit { r with path := shellPath, words } fs
    else .error .badExecutable
  | result => result

def startsAsText (content : ByteArray) : Bool :=
  (content.toList.find? (fun b => b = 10 || b = 0)) ≠ some 0

def startWithin : (depth : Nat) → Start
  | 0 => fun _ _ => .error .busy
  | depth + 1 => launch (startWithin depth) startsAsText

def processLimit : Nat := 64

end Provision.Host
