import Provision.Text.Blank

namespace Provision.Shell

inductive Listed
  | range (low high : Char)
  | ofClass (name : String)
deriving DecidableEq

inductive Item
  | one (c : Char)
  | anyOne
  | anyRun
  | among (listed : List Listed) (inverted : Bool)
deriving DecidableEq

abbrev Pattern := List Item

/-- A character of a pattern before brackets are read; a quoted one stands for itself. -/
structure Sign where
  char : Char
  quoted : Bool
deriving DecidableEq

namespace Listed

/-- The classes that a bracket can name; they know ASCII only. -/
def classHolds (name : String) (c : Char) : Bool :=
  match name with
  | "alpha" => c.isAlpha
  | "digit" => c.isDigit
  | "alnum" => c.isAlphanum
  | "upper" => 'A' ≤ c && c ≤ 'Z'
  | "lower" => 'a' ≤ c && c ≤ 'z'
  | "space" => c = ' ' || ('\t' ≤ c && c ≤ '\r')
  | "blank" => c = ' ' || c = '\t'
  | "punct" => '!' ≤ c && c ≤ '~' && !c.isAlphanum
  | "print" => ' ' ≤ c && c ≤ '~'
  | "graph" => '!' ≤ c && c ≤ '~'
  | "cntrl" => c < ' ' || c = '\x7f'
  | "xdigit" => c.isDigit || ('a' ≤ c && c ≤ 'f') || ('A' ≤ c && c ≤ 'F')
  | _ => false

def holds (c : Char) : Listed → Bool
  | range low high => low ≤ c && c ≤ high
  | ofClass name => classHolds name c

end Listed

namespace Pattern

def readListed : (fuel : Nat) → (listed : List Listed) → List Sign →
    Option (List Listed × List Sign)
  | 0, _, _ => none
  | _ + 1, _, [] => none
  | fuel + 1, listed, s :: rest =>
    if s.char = ']' && !s.quoted && listed ≠ [] then some (listed, rest)
    else
      let name := (rest.drop 1).takeWhile (fun s => s.char.isAlpha)
      match s, rest, rest.drop (1 + name.length) with
      | ⟨'[', false⟩, ⟨':', _⟩ :: _, ⟨':', _⟩ :: ⟨']', _⟩ :: behind =>
        readListed fuel (listed ++ [.ofClass (String.ofList (name.map (·.char)))]) behind
      | _, ⟨'-', false⟩ :: high :: behind, _ =>
        if high.char = ']' && !high.quoted then
          readListed fuel (listed ++ [.range s.char s.char]) rest
        else readListed fuel (listed ++ [.range s.char high.char]) behind
      | _, _, _ => readListed fuel (listed ++ [.range s.char s.char]) rest

/-- Reads a bracket behind its opening sign; one that does not close stands for itself. -/
def bracket? (signs : List Sign) : Option (Item × List Sign) :=
  let (inverted, rest) := match signs with
    | ⟨'!', false⟩ :: rest => (true, rest)
    | signs => (false, signs)
  (readListed (rest.length + 1) [] rest).map (fun (listed, behind) =>
    (.among listed inverted, behind))

def ofSigns : (fuel : Nat) → List Sign → Pattern
  | 0, _ => []
  | _ + 1, [] => []
  | fuel + 1, s :: rest =>
    if s.quoted then .one s.char :: ofSigns fuel rest
    else match s.char with
      | '\\' => match rest with
        | d :: behind => .one d.char :: ofSigns fuel behind
        | [] => [.one '\\']
      | '*' => .anyRun :: ofSigns fuel rest
      | '?' => .anyOne :: ofSigns fuel rest
      | '[' =>
        match bracket? rest with
        | some (item, behind) => item :: ofSigns fuel behind
        | none => .one '[' :: ofSigns fuel rest
      | c => .one c :: ofSigns fuel rest

def read (signs : List Sign) : Pattern := ofSigns (signs.length + 1) signs

def Item.fits (c : Char) : Item → Bool
  | .one d => c = d
  | .anyOne => true
  | .anyRun => false
  | .among listed inverted => listed.any (·.holds c) != inverted

def fits : Pattern → List Char → Bool
  | [], cs => cs.isEmpty
  | .anyRun :: ps, cs => (List.range (cs.length + 1)).any (fun n => fits ps (cs.drop n))
  | p :: ps, c :: cs => Item.fits c p && fits ps cs
  | _ :: _, [] => false

/-- Whether it is anything but a text. -/
def isActive (p : Pattern) : Bool :=
  p.any (fun i => match i with
    | .one _ => false
    | _ => true)

/-- What stands between texts that are cut as one. -/
def divider : Char := '\x00'

def firstText (cs : List Char) : List Char := cs.takeWhile (· ≠ divider)

/-- Cuts off what fits at the front; only the first text is looked at. -/
def cutFront (p : Pattern) (longest : Bool) (cs : List Char) : List Char :=
  let lengths := if longest then (List.range (cs.length + 1)).reverse
    else List.range ((firstText cs).length + 1)
  match lengths.find? (fun n => p.fits (firstText (cs.take n))) with
  | some n => cs.drop n
  | none => cs

/-- Cuts off what fits at the back; a text that fits as a whole goes with all that follow it. -/
def cutBack (p : Pattern) (longest : Bool) (cs : List Char) : List Char :=
  let lengths := if longest then List.range ((firstText cs).length + 1)
    else (List.range (cs.length + 1)).reverse
  match lengths.find? (fun n => p.fits (firstText (cs.drop n))) with
  | some n => cs.take n
  | none => cs

end Pattern
end Provision.Shell
