import Provision.CommandLine.Vocabulary
import Provision.Text.Terminal

namespace Provision.CommandLine

inductive Topic
  | program
  | subcommand (s : Subcommand)
  | help
deriving DecidableEq

inductive Refusal
  | helpWanted (topic : Topic)
  | versionWanted
  | nothingGiven
  | noSubcommand
  | unknownSubcommand (word : String)
  | unknownArgument (word : String)
  | unexpectedValue (value : String) (option : Meaning)
  | repeated (option : Meaning)
  | missingValue (s : Setting)
  | invalidValue (s : Setting) (value : String)
deriving DecidableEq

namespace Refusal

/-- Asking for a text is no error. -/
def exitStatus : Refusal → Nat
  | helpWanted _ | versionWanted => 0
  | _ => 2

def cited (word : String) : String := "'" ++ Text.strong word ++ "'"

def complaint? : Refusal → Option String
  | helpWanted _ | versionWanted | nothingGiven => none
  | noSubcommand => some (cited programName ++ " requires a subcommand but one was not provided")
  | unknownSubcommand word => some ("unrecognized subcommand " ++ cited word)
  | unknownArgument word => some ("unexpected argument " ++ cited word ++ " found")
  | unexpectedValue value option =>
    some ("unexpected value " ++ cited value ++ " for " ++ cited option.shown ++
      " found; no more were expected")
  | repeated option => some ("the argument " ++ cited option.shown ++ " cannot be used multiple times")
  | missingValue s =>
    some ("a value is required for " ++ cited (Meaning.setting s).shown ++
      " but none was supplied")
  | invalidValue s value =>
    some ("invalid value " ++ cited value ++ " for " ++ cited (Meaning.setting s).shown)

def message? (r : Refusal) : Option String :=
  r.complaint?.map (fun c => "error: " ++ Text.visible c)

end Refusal
end Provision.CommandLine
