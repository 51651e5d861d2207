namespace Provision.Shell.Integer

def largest : Int := Int.pow 2 63 - 1

def smallest : Int := -Int.pow 2 63

def wrap (n : Int) : Int := Int.bmod n (Nat.pow 2 64)

def isBlank (c : Char) : Bool := c = ' ' || ('\t' ≤ c && c ≤ '\r')

def digit? (base : Nat) (c : Char) : Option Nat :=
  let n :=
    if c.isDigit then c.toNat - 48
    else if 'a' ≤ c && c ≤ 'z' then c.toNat - 87
    else if 'A' ≤ c && c ≤ 'Z' then c.toNat - 55
    else base
  if n < base then some n else none

structure Scan where
  value : Int
  /-- What stands behind the number; all of the text if it starts with none. -/
  rest : List Char
  found : Bool
  tooLarge : Bool

def baseOf (cs : List Char) : Nat × List Char :=
  match cs with
  | '0' :: x :: d :: rest =>
    if (x = 'x' || x = 'X') && (digit? 16 d).isSome then (16, d :: rest) else (8, cs)
  | '0' :: _ => (8, cs)
  | _ => (10, cs)

/-- Reads an integer behind blanks, in a base if one is given and else in the base it shows, octal
behind a zero and hexadecimal behind a zero and an `x`, and keeps what `kept` keeps of it. -/
def scanWithin (kept : Int → Int) (base? : Option Nat) (text : List Char) : Scan :=
  let behind := text.dropWhile isBlank
  let (negative, unsigned) := match behind with
    | '-' :: rest => (true, rest)
    | '+' :: rest => (false, rest)
    | cs => (false, cs)
  let (base, digits) := match base? with
    | some b => (b, unsigned)
    | none => baseOf unsigned
  let shown := digits.takeWhile (fun c => (digit? base c).isSome)
  if shown = [] then ⟨0, text, false, false⟩
  else
    let size : Nat := shown.foldl (fun n c => n * base + (digit? base c).getD 0) 0
    let value : Int := if negative then -size else size
    ⟨kept value, digits.drop shown.length, true, kept value ≠ value⟩

/-- Reads an integer; one that is too large becomes the nearest that is not. -/
def scan (base? : Option Nat) (text : List Char) : Scan :=
  scanWithin (fun n => max smallest (min largest n)) base? text

/-- Reads an integer without sign; a negative one counts down from the largest. -/
def scanUnsigned (text : List Char) : Scan :=
  let most := Int.pow 2 64 - 1
  let s := scanWithin (fun n => max (-most) (min most n)) none text
  { s with value := if s.tooLarge then most else s.value % Int.pow 2 64 }

/-- The integer that a text is as a whole; blanks may stand around it. An empty text is zero where
the base is not given. -/
def read? (base? : Option Nat) (text : String) : Option Int :=
  let s := scan base? text.toList
  let rest := if s.found then s.rest else text.toList
  if s.tooLarge || !rest.all isBlank || (!s.found && base?.isSome) then none else some s.value

def decimal? (text : String) : Option Int := read? (some 10) text

end Provision.Shell.Integer
