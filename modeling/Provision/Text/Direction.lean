import Provision.Text.Alphanumeric
import Provision.Text.Extender

namespace Provision.Text

inductive Direction
  | rightward
  | leftward
  | digit
  | leftwardDigit
  | mark
  | neutral
deriving DecidableEq

def leftwardDigits : Ranges :=
  [(0x600, 0x605), (0x660, 0x669), (0x66b, 0x66c), (0x6dd, 0x6dd), (0x890, 0x891), (0x8e2, 0x8e2),
    (0x10d30, 0x10d39), (0x10e60, 0x10e7e)]

def leftwardScripts : Ranges :=
  [(0x590, 0x8ff), (0xfb1d, 0xfdcf), (0xfdf0, 0xfdff), (0xfe70, 0xfeff), (0x10800, 0x10fff),
    (0x1e800, 0x1efff)]

def otherDigits : Ranges := [(0x30, 0x39), (0xb2, 0xb3), (0xb9, 0xb9), (0x6f0, 0x6f9)]

def directionOf (c : Char) : Direction :=
  if otherDigits.contains c then .digit
  else if leftwardDigits.contains c then .leftwardDigit
  else if isExtender c then .mark
  else if isAlphanumeric c then if leftwardScripts.contains c then .leftward else .rightward
  else .neutral

def isLeftward (cs : List Char) : Bool :=
  cs.any (fun c => directionOf c = .leftward || directionOf c = .leftwardDigit)

def lastDirection (cs : List Char) : Option Direction :=
  (cs.map directionOf).reverse.find? (· ≠ .mark)

/-- Whether a label of a name keeps to one direction: it starts with a letter of its direction,
holds none of the other, and ends with a letter or a digit. -/
def goesOneWay (cs : List Char) : Bool :=
  let ds := cs.map directionOf
  match ds.head?, lastDirection cs with
  | none, _ => true
  | some .rightward, some last =>
    !isLeftward cs && (last = .rightward || last = .digit)
  | some .leftward, some last =>
    !ds.contains .rightward && !(ds.contains .digit && ds.contains .leftwardDigit) &&
      (last = .leftward || last = .digit || last = .leftwardDigit)
  | some _, _ => false

end Provision.Text
