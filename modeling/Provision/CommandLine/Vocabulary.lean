namespace Provision.CommandLine

def programName : String := "bastion-dev"

inductive Subcommand
  | build
  | protos
  | env
  | doctor
deriving DecidableEq

namespace Subcommand

def all : List Subcommand := [build, protos, env, doctor]

def name : Subcommand → String
  | build => "build"
  | protos => "protos"
  | env => "env"
  | doctor => "doctor"

def ofName? (word : String) : Option Subcommand := all.find? (·.name = word)

end Subcommand

inductive Flag
  | json
  | dryRun
deriving DecidableEq

inductive Setting
  | root
  | config
  | hostRoot
  | variant
  | compiler
deriving DecidableEq

inductive Meaning
  | flag (f : Flag)
  | setting (s : Setting)
  | verbose
  | help
  | version
deriving DecidableEq

namespace Meaning

def all : List Meaning :=
  [.flag .json, .flag .dryRun, .setting .root, .setting .config, .setting .hostRoot,
    .setting .variant, .setting .compiler, .verbose, .help, .version]

def name : Meaning → String
  | flag .json => "json"
  | flag .dryRun => "dry-run"
  | setting .root => "root"
  | setting .config => "config"
  | setting .hostRoot => "host-root"
  | setting .variant => "variant"
  | setting .compiler => "compiler"
  | verbose => "verbose"
  | help => "help"
  | version => "version"

def letter? : Meaning → Option Char
  | verbose => some 'v'
  | help => some 'h'
  | version => some 'V'
  | _ => none

def placeholder? : Meaning → Option String
  | setting .root => some "ROOT"
  | setting .config => some "CONFIG"
  | setting .hostRoot => some "HOST_ROOT"
  | setting .variant => some "VARIANT"
  | setting .compiler => some "COMPILER"
  | _ => none

def shown (m : Meaning) : String :=
  match m.placeholder? with
  | some p => "--" ++ m.name ++ " <" ++ p ++ ">"
  | none => "--" ++ m.name ++ (if m = verbose then "..." else "")

end Meaning

/-- Where a word stands. Options that concern every subcommand are known before a subcommand and
after it. -/
inductive Level
  | top
  | under (s : Subcommand)
deriving DecidableEq

namespace Level

def knows : Level → Meaning → Bool
  | top, .version => true
  | under _, .version => false
  | under .build, .flag .dryRun | under .build, .setting .variant => true
  | under .protos, .flag .dryRun | under .protos, .setting .compiler => true
  | _, .flag .dryRun | _, .setting .variant | _, .setting .compiler => false
  | _, _ => true

def long? (l : Level) (name : String) : Option Meaning :=
  Meaning.all.find? (fun m => m.name = name && l.knows m)

def short? (l : Level) (letter : Char) : Option Meaning :=
  Meaning.all.find? (fun m => m.letter? = some letter && l.knows m)

end Level
end Provision.CommandLine
