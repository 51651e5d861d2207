import Provision.Config
import Provision.CommandLine.Refusal
import Provision.CommandLine.Word

namespace Provision.CommandLine

/-- What a command line gives on one level. A setting without an equals sign waits for the next
word, and its value is looked at only when another option or the end follows. -/
structure Given where
  flags : Flag → Bool := fun _ => false
  values : Setting → Option String := fun _ => none
  verbose : Nat := 0
  /-- The setting given last, while its value has not been looked at. -/
  pending : Option (Setting × Option String) := none

/-- How often more detail can be asked for; further requests change nothing. -/
def verboseLimit : Nat := 255

def Setting.refusal? (s : Setting) (value : String) : Option Refusal :=
  if s = .compiler then none
  else if value = "" then some (.missingValue s)
  else if s = .variant ∧ Variant.ofName? value = none then some (.invalidValue s value)
  else none

namespace Given

/-- Gives a setting its value; it has only one. -/
def assign (g : Given) (s : Setting) (value : String) : Except Refusal Given :=
  if (g.values s).isSome then .error (.repeated (.setting s))
  else match s.refusal? value with
    | some r => .error r
    | none => .ok { g with values := fun t => if t = s then some value else g.values t }

def settle (g : Given) : Except Refusal Given :=
  match g.pending with
  | none => .ok g
  | some (s, none) => .error (.missingValue s)
  | some (s, some value) => { g with pending := none }.assign s value

def awaitsValue (g : Given) : Bool :=
  match g.pending with
  | some (_, none) => true
  | _ => false

def raise (g : Given) (f : Flag) : Except Refusal Given :=
  if g.flags f then .error (.repeated (.flag f))
  else .ok { g with flags := fun e => e = f || g.flags e }

def topicOf : Level → Topic
  | .top => .program
  | .under s => .subcommand s

def takeBare (level : Level) (g : Given) : Meaning → Except Refusal Given
  | .flag f => g.settle.bind (·.raise f)
  | .verbose => g.settle.map (fun g => { g with verbose := min (g.verbose + 1) verboseLimit })
  | .help => g.settle.bind (fun _ => .error (.helpWanted (topicOf level)))
  | .version => g.settle.bind (fun _ => .error .versionWanted)
  | .setting s => g.settle.map (fun g => { g with pending := some (s, none) })

def takeLong (level : Level) (g : Given) (name : String) (value : Option String) :
    Except Refusal Given :=
  match level.long? name, value with
  | none, _ => .error (.unknownArgument ("--" ++ name))
  | some (.setting s), some v => g.settle.bind (·.assign s v)
  | some m, some v => .error (.unexpectedValue v m)
  | some m, none => g.takeBare level m

def takeShort (level : Level) : Given → List Char → Except Refusal Given
  | g, [] => .ok g
  | g, c :: cs =>
    match level.short? c with
    | none => .error (.unknownArgument (String.ofList ['-', c]))
    | some m =>
      match g.takeBare level m with
      | .error r => .error r
      | .ok g => takeShort level g cs

/-- A word that is no option where none is expected. -/
def stray (level : Level) (word : String) : Refusal :=
  match level with
  | .top => .unknownSubcommand word
  | .under _ => .unknownArgument word

def helpWord : String := "help"

/-- A word behind two dashes: nothing is expected there, not even a subcommand. -/
def strayEscaped (level : Level) (word : String) : Refusal :=
  if (Subcommand.ofName? word).isSome || word = helpWord then .unknownArgument word
  else stray level word

def takePlain (level : Level) (g : Given) (word : String) : Except Refusal Given :=
  match g.pending with
  | some (s, none) => .ok { g with pending := some (s, some word) }
  | _ => .error (stray level word)

def helpOn : List String → Refusal
  | [] => .helpWanted .program
  | [word] =>
    match Subcommand.ofName? word with
    | some s => .helpWanted (.subcommand s)
    | none => if word = helpWord then .helpWanted .help else .unknownSubcommand word
  | word :: next :: _ =>
    if (Subcommand.ofName? word).isSome || word = helpWord then .unknownSubcommand next
    else .unknownSubcommand word

def expectsSubcommand (level : Level) (g : Given) : Bool := level = .top && !g.awaitsValue

def read (level : Level) : Given → List String →
    Except Refusal (Given × Option (Subcommand × List String))
  | g, [] => .ok (g, none)
  | g, word :: rest =>
    if expectsSubcommand level g && word = helpWord then .error (helpOn rest)
    else match if expectsSubcommand level g then Subcommand.ofName? word else none with
      | some s => .ok (g, some (s, rest))
      | none =>
        match Word.ofString word with
        | .escape =>
          match rest with
          | [] => .ok (g, none)
          | next :: _ => .error (strayEscaped level next)
        | .long name value =>
          match g.takeLong level name value with
          | .error r => .error r
          | .ok g => read level g rest
        | .short letters =>
          match takeShort level g letters with
          | .error r => .error r
          | .ok g => read level g rest
        | .plain =>
          match g.takePlain level word with
          | .error r => .error r
          | .ok g => read level g rest

/-- Looks at the last value, and at the environment's host root where none was given. -/
def close (g : Given) (hostRoot : Option String) : Except Refusal Given :=
  g.settle.bind (fun g =>
    if (g.values .hostRoot).isNone ∧ hostRoot = some "" then .error (.missingValue .hostRoot)
    else .ok g)

def isEmpty (g : Given) : Bool :=
  !(g.flags .json || g.flags .dryRun) && g.verbose = 0 &&
    [Setting.root, .config, .hostRoot, .variant, .compiler].all (fun s => (g.values s).isNone)

end Given
end Provision.CommandLine
