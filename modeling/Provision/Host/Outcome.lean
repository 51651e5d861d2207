import Provision.FileSystem.Operations
import Provision.Privilege
import Provision.Text.Bytes
import Provision.Work

namespace Provision.Host

inductive Ending
  | exited (status : Nat)
  | killed (signal : Nat)
deriving DecidableEq

namespace Ending

def isSuccess (e : Ending) : Bool := e = exited 0

/-- The status as a caller sees it; a killed process has none, and counts as failed. -/
def code : Ending → Nat
  | exited status => status
  | killed _ => 1

def shellStatus : Ending → Nat
  | exited status => status
  | killed signal => 128 + signal

end Ending

inductive Stream
  | out
  | err
deriving DecidableEq

structure Outcome where
  ending : Ending
  written : List (Stream × ByteArray) := []
  unread : ByteArray := .empty
  fs : FileSystem

namespace Outcome

def stream (o : Outcome) (s : Stream) : ByteArray :=
  (o.written.filter (·.1 = s)).foldl (fun all piece => all ++ piece.2) .empty

def printed (o : Outcome) : Printed where
  out := Text.ofBytes (o.stream .out)
  err := Text.ofBytes (o.stream .err)

end Outcome

structure Request where
  env : Environment
  path : String
  words : List String
  input : ByteArray := .empty

abbrev Start := Request → FileSystem → Except IoError Outcome

end Provision.Host
