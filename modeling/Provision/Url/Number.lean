import Provision.Url.Escape

namespace Provision.Url

def digitsIn (base : Nat) (cs : List Char) : Option Nat :=
  cs.foldlM (fun n c => (hexValue? c).bind (fun d => if d < base then some (base * n + d) else none))
    0

/-- A part of an old address; the sign of a base alone is zero. -/
def part? (cs : List Char) : Option Nat :=
  match cs with
  | [] => none
  | '0' :: 'x' :: rest | '0' :: 'X' :: rest => digitsIn 16 rest
  | '0' :: c :: rest => digitsIn 8 (c :: rest)
  | cs => digitsIn 10 cs

def parts (name : String) : List String :=
  let ps := name.splitOn "."
  if ps.length ≠ 1 && ps.getLast? = some "" then ps.dropLast else ps

def endsInNumber (name : String) : Bool :=
  match (parts name).getLast? with
  | some p => (p ≠ "" && p.toList.all Char.isDigit) || (part? p.toList).isSome
  | none => false

/-- Puts the parts together: all but the last are bytes, and the last fills what is left. -/
def joinParts : (left : Nat) → List Nat → Option Nat
  | _, [] => none
  | left, [n] => if n < Nat.pow 256 left then some n else none
  | left, n :: rest =>
    if n < 256 then (joinParts (left - 1) rest).map (n * Nat.pow 256 (left - 1) + ·) else none

def oldNumber? (name : String) : Option Nat :=
  let ps := parts name
  if 4 < ps.length then none else (ps.mapM (fun p => part? p.toList)).bind (joinParts 4)

def oldText (n : Nat) : String :=
  let byte (place : Nat) := n / Nat.pow 256 place % 256
  String.intercalate "." ([n / Nat.pow 256 3, byte 2, byte 1, byte 0].map toString)

/-- Four decimal bytes without zeros before them, as the end of a new address: two pieces. -/
def tail? (cs : List Char) : Option (List Nat) :=
  let byte? (p : String) : Option Nat :=
    match p.toList with
    | [] => none
    | ['0'] => some 0
    | '0' :: _ => none
    | ds => if ds.all Char.isDigit then (digitsIn 10 ds).filter (· < 256) else none
  match ((String.ofList cs).splitOn ".").mapM byte? with
  | some [a, b, c, d] => some [256 * a + b, 256 * c + d]
  | _ => none

/-- A run of pieces with colons between them; an old address may end it. -/
def pieces? (mayEndOld : Bool) (cs : List Char) : Option (List Nat) :=
  let piece? (p : String) : Option Nat :=
    if p.length ≤ 4 && p ≠ "" then digitsIn 16 p.toList else none
  if cs = [] then some []
  else
    let ps := (String.ofList cs).splitOn ":"
    let last := ps.getLastD ""
    if mayEndOld && last.toList.contains '.' then do
      let front ← ps.dropLast.mapM piece?
      let back ← tail? last.toList
      pure (front ++ back)
    else ps.mapM piece?

/-- The eight pieces of a new address; two colons stand for at least one zero. -/
def newNumber? (cs : List Char) : Option (List Nat) :=
  match (String.ofList cs).splitOn "::" with
  | [whole] => (pieces? true whole.toList).filter (·.length = 8)
  | [front, back] => do
    let a ← pieces? false front.toList
    let b ← pieces? true back.toList
    if a.length + b.length ≤ 7 then pure (a ++ List.replicate (8 - a.length - b.length) 0 ++ b)
    else none
  | _ => none

def zeros (ps : List Nat) : Nat := (ps.takeWhile (· = 0)).length

def longestZeros (ps : List Nat) : Nat × Nat :=
  (List.range ps.length).foldl (fun best i =>
    let n := zeros (ps.drop i)
    if best.2 < n then (i, n) else best) (0, 0)

def hexText (n : Nat) : String := String.ofList (Nat.toDigits 16 n)

/-- A new address as it is shown: the first longest run of two or more zeros is left out. -/
def newText (ps : List Nat) : String :=
  let joined (ps : List Nat) : String := String.intercalate ":" (ps.map hexText)
  let (start, n) := longestZeros ps
  if n < 2 then joined ps else joined (ps.take start) ++ "::" ++ joined (ps.drop (start + n))

end Provision.Url
