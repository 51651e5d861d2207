import Provision.Shell.Integer
import Provision.Text.Blank

namespace Provision.Shell.Signal

def names : List String :=
  ["EXIT", "HUP", "INT", "QUIT", "ILL", "TRAP", "ABRT", "BUS", "FPE", "KILL", "USR1", "SEGV", "USR2",
    "PIPE", "ALRM", "TERM", "16", "CHLD", "CONT", "STOP", "TSTP", "TTIN", "TTOU", "URG", "XCPU",
    "XFSZ", "VTALRM", "PROF", "WINCH", "IO", "PWR", "SYS", "32", "33", "RTMIN"] ++
  (List.range 15).map (fun n => "RTMIN+" ++ toString (n + 1)) ++
  (List.range 14).map (fun n => "RTMAX-" ++ toString (14 - n)) ++ ["RTMAX"]

def name (n : Nat) : String := names[n]?.getD ""

def ofWord? (least : Nat) (word : String) : Option Nat :=
  if word ≠ "" && word.all Char.isDigit then
    (Integer.decimal? word).bind (fun n => if n.toNat < names.length then some n.toNat else none)
  else (names.findIdx? (fun n => Text.equalIgnoringCase n word)).filter (least ≤ ·)

/-- Whether a signal ends a process that does nothing about it. -/
def isFatal (n : Nat) : Bool := n ≠ 0 && !(17 ≤ n && n ≤ 23) && n ≠ 28

/-- Whether a process can do nothing about a signal. -/
def isHard (n : Nat) : Bool := n = 9 || n = 19

end Provision.Shell.Signal
