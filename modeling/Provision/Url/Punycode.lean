import Provision.Url.Escape

namespace Provision.Url.Punycode

def digit (d : Nat) : Char := if d < 26 then Char.ofNat (97 + d) else Char.ofNat (48 + d - 26)

def digitValue? (c : Char) : Option Nat :=
  if 'a' ≤ c && c ≤ 'z' then some (c.toNat - 97)
  else if 'A' ≤ c && c ≤ 'Z' then some (c.toNat - 65)
  else if c.isDigit then some (c.toNat - 48 + 26)
  else none

def limit (place bias : Nat) : Nat :=
  if place ≤ bias then 1 else if bias + 26 ≤ place then 26 else place - bias

/-- Divides a distance down, and counts how far the places have moved. -/
def settle (delta moved : Nat) : Nat × Nat :=
  if 455 < delta then settle (delta / 35) (moved + 36) else (delta, moved)
termination_by delta
decreasing_by omega

def adapt (delta count : Nat) (first : Bool) : Nat :=
  let d := if first then delta / 700 else delta / 2
  let (d, moved) := settle (d + d / count) 0
  moved + 36 * d / (d + 38)

def digits (bias : Nat) : (fuel : Nat) → (place n : Nat) → List Char
  | 0, _, _ => []
  | fuel + 1, place, n =>
    let t := limit place bias
    if n < t then [digit n]
    else digit (t + (n - t) % (36 - t)) :: digits bias fuel (place + 36) ((n - t) / (36 - t))

structure State where
  written : List Char := []
  delta : Nat := 0
  bias : Nat := 72
  count : Nat

def pass (basic n : Nat) (s : State) (c : Char) : State :=
  if c.toNat < n then { s with delta := s.delta + 1 }
  else if c.toNat = n then
    { written := s.written ++ digits s.bias (s.delta + 1) 36 s.delta
      delta := 0
      bias := adapt s.delta (s.count + 1) (s.count = basic)
      count := s.count + 1 }
  else s

def isBasic (c : Char) : Bool := c.toNat < 0x80

def others (label : List Char) : List Nat :=
  (((label.filter (!isBasic ·)).map Char.toNat).mergeSort).eraseDups

def writeOthers (label : List Char) (basic : Nat) : List Nat → (n : Nat) → State → State
  | [], _, s => s
  | m :: rest, n, s =>
    let s := label.foldl (pass basic m) { s with delta := s.delta + (m - n) * (s.count + 1) }
    writeOthers label basic rest (m + 1) { s with delta := s.delta + 1 }

/-- The characters beyond ASCII are taken out of a label and written behind it, in ascending order,
each as its distance from the one before in a number of base 36 whose digits have limits that adapt
to the distances seen so far. -/
def encode (label : List Char) : List Char :=
  let basic := label.filter isBasic
  let s := writeOthers label basic.length (others label) 0x80 { count := basic.length }
  (if basic = [] then [] else basic ++ ['-']) ++ s.written

/-- Reads one distance; returns the sum and the text behind it. -/
def readNumber (bias : Nat) : List Char → (place weight n : Nat) → Option (Nat × List Char)
  | [], _, _, _ => none
  | c :: rest, place, weight, n =>
    match digitValue? c with
    | none => none
    | some d =>
      let t := limit place bias
      if d < t then some (n + d * weight, rest)
      else readNumber bias rest (place + 36) (weight * (36 - t)) (n + d * weight)

def readOthers : (fuel : Nat) → (bias n place : Nat) → (label : List Char) → List Char →
    Option (List Char)
  | 0, _, _, _, _, _ => none
  | _ + 1, _, _, _, label, [] => some label
  | fuel + 1, bias, n, place, label, c :: cs =>
    match readNumber bias (c :: cs) 36 1 place with
    | none => none
    | some (sum, rest) =>
      let count := label.length + 1
      let n' := n + sum / count
      if n'.isValidChar then
        readOthers fuel (adapt (sum - place) count (place = 0)) n' (sum % count + 1)
          (label.insertIdx (sum % count) (Char.ofNat n')) rest
      else none

/-- The label behind a disguise. -/
def decode? (cs : List Char) : Option (List Char) :=
  let behind := (cs.reverse.takeWhile (· ≠ '-')).reverse
  let basic := cs.take (cs.length - behind.length - 1)
  readOthers (cs.length + 1) 72 0x80 0 basic behind

end Provision.Url.Punycode
