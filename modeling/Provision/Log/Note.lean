import Provision.Text.Extender
import Provision.Text.Unseen

namespace Provision.Log

inductive Level
  | error
  | warn
  | info
  | debug
  | trace
deriving DecidableEq

namespace Level

def rank : Level → Nat
  | error => 1
  | warn => 2
  | info => 3
  | debug => 4
  | trace => 5

def tag : Level → String
  | error => "ERROR"
  | warn => " WARN"
  | info => " INFO"
  | debug => "DEBUG"
  | trace => "TRACE"

end Level

inductive Area
  | archive
  | bootstrap
  | config
  | packages
  | platform
  | runner
  | stubs
deriving DecidableEq

namespace Area

def name : Area → String
  | archive => "archive"
  | bootstrap => "bootstrap"
  | config => "config"
  | packages => "packages"
  | platform => "platform"
  | runner => "runner"
  | stubs => "stubs"

def target (a : Area) : String := "bastion_dev::services::" ++ a.name

end Area

/-- A note as it was made; the values are already texts. -/
structure Note where
  area : Area
  level : Level
  message : String
  fields : List (String × String) := []
deriving DecidableEq

/-- The names under which a note holds something; the message is one of them. -/
def Note.fieldNames (n : Note) : List String := "message" :: n.fields.map (·.1)

def Note.line (n : Note) : String :=
  n.level.tag ++ " " ++ n.message ++
    String.join (n.fields.map (fun (name, value) => " " ++ name ++ "=" ++ value))

def quotedChar (c : Char) : List Char :=
  match c with
  | '"' => ['\\', '"']
  | '\\' => ['\\', '\\']
  | '\n' => ['\\', 'n']
  | '\r' => ['\\', 'r']
  | '\t' => ['\\', 't']
  | '\x00' => ['\\', '0']
  | c =>
    if Text.isExtender c || Text.isUnseen c then
      "\\u\x7b".toList ++ Nat.toDigits 16 c.toNat ++ ['\x7d']
    else [c]

/-- A value in double quotes; what would not show of its own is written by its number. -/
def quoted (s : String) : String := "\"" ++ String.ofList (s.toList.flatMap quotedChar) ++ "\""

def optional : Option String → String
  | none => "None"
  | some s => "Some(" ++ quoted s ++ ")"

end Provision.Log
