namespace Provision

inductive IoError
  | noEntry
  | argumentListTooLong
  | badExecutable
  | accessDenied
  | busy
  | alreadyExists
  | notDirectory
  | isDirectory
  | invalidArgument
  | nameTooLong
  | notEmpty
  | tooManyLinks
  /-- A name holds a NUL, which no system call can be given. -/
  | nulInName
  /-- A word or a variable of a command holds a NUL. -/
  | nulInCommand
  | notText
deriving DecidableEq

namespace IoError

def describe : IoError → String
  | noEntry => "No such file or directory"
  | argumentListTooLong => "Argument list too long"
  | badExecutable => "Exec format error"
  | accessDenied => "Permission denied"
  | busy => "Device or resource busy"
  | alreadyExists => "File exists"
  | notDirectory => "Not a directory"
  | isDirectory => "Is a directory"
  | invalidArgument => "Invalid argument"
  | nameTooLong => "File name too long"
  | notEmpty => "Directory not empty"
  | tooManyLinks => "Too many levels of symbolic links"
  | nulInName => "file name contained an unexpected NUL byte"
  | nulInCommand => "nul byte found in provided data"
  | notText => "stream did not contain valid UTF-8"

/-- The system's own number; the last three are found without asking the system. -/
def number? : IoError → Option Nat
  | noEntry => some 2
  | argumentListTooLong => some 7
  | badExecutable => some 8
  | accessDenied => some 13
  | busy => some 16
  | alreadyExists => some 17
  | notDirectory => some 20
  | isDirectory => some 21
  | invalidArgument => some 22
  | nameTooLong => some 36
  | notEmpty => some 39
  | tooManyLinks => some 40
  | nulInName => none
  | nulInCommand => none
  | notText => none

def message (e : IoError) : String :=
  match e.number? with
  | some n => e.describe ++ " (os error " ++ toString n ++ ")"
  | none => e.describe

end IoError
end Provision
