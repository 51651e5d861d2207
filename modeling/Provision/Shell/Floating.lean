import Provision.Shell.Integer

namespace Provision.Shell

/-- The size of a number: a quotient, or one that no quotient stands for. -/
inductive Size
  | quotient (numerator denominator : Nat)
  | infinite
  | undefined

/-- A number with a fraction, as the nearest of those with 53 binary digits to what was written,
held as an exact quotient; an even last digit wins a tie. -/
structure Floating where
  negative : Bool
  size : Size

namespace Floating

/-- The whole number next to a quotient; a half goes to the even neighbour. -/
def nearest (numerator denominator : Nat) : Nat :=
  let whole := numerator / denominator
  let twice := 2 * (numerator % denominator)
  if denominator < twice || (twice = denominator && whole % 2 = 1) then whole + 1 else whole

def shift (numerator denominator : Nat) (power : Int) : Nat × Nat :=
  if power < 0 then (numerator, denominator * Nat.pow 2 power.natAbs)
  else (numerator * Nat.pow 2 power.toNat, denominator)

def scale (numerator denominator : Nat) : Int :=
  let guess : Int := max (-1074) ((numerator.log2 : Int) - denominator.log2 - 53)
  let (n, d) := shift numerator denominator (-guess)
  if n / d < Nat.pow 2 53 then guess else guess + 1

def round (numerator denominator : Nat) : Size :=
  if numerator = 0 then .quotient 0 1
  else
    let power := scale numerator denominator
    let (n, d) := shift numerator denominator (-power)
    let (n, d) := shift (nearest n d) 1 power
    if n / d < Nat.pow 2 1024 then .quotient n d else .infinite

structure Scan where
  value : Floating
  rest : List Char
  found : Bool
  outside : Bool

def behind? (word : String) (cs : List Char) : Option (List Char) :=
  if (cs.take word.length).map Char.toLower = word.toList then some (cs.drop word.length) else none

def exponent (letter : Char) (cs : List Char) : Int × List Char :=
  match cs with
  | c :: rest =>
    let (negative, digits) := match rest with
      | '-' :: digits => (true, digits)
      | '+' :: digits => (false, digits)
      | digits => (false, digits)
    let shown := digits.takeWhile Char.isDigit
    if c.toLower = letter && !shown.isEmpty then
      let n : Nat := min 100000 (shown.foldl (fun n c => 10 * n + (c.toNat - 48)) 0)
      (if negative then -(n : Int) else n, digits.drop shown.length)
    else (0, cs)
  | [] => (0, cs)

/-- Digits around a point, as a whole number with the number of places; nothing if there are none.
-/
def digits? (base : Nat) (cs : List Char) : Option (Nat × Nat × List Char) :=
  let isDigit (c : Char) : Bool := (Integer.digit? base c).isSome
  let whole := cs.takeWhile isDigit
  let (places, rest) := match cs.drop whole.length with
    | '.' :: behind => (behind.takeWhile isDigit, behind.dropWhile isDigit)
    | rest => ([], rest)
  let all := whole ++ places
  if all.isEmpty then none
  else
    let value := all.foldl (fun n c => base * n + (Integer.digit? base c).getD 0) 0
    some (value, places.length, rest)

/-- Whether a number that was not zero has become zero, or one that is too large. -/
def isOutside (numerator : Nat) : Size → Bool
  | .quotient n _ => n = 0 && numerator ≠ 0
  | _ => true

/-- A whole number of a base with places, times a power of a base; extremes are cut off. -/
def sizeOf (value : Nat) (base places power : Nat) (exponent : Int) : Size :=
  let most : Int := 2000 + 4 * places
  let exponent := max (-most - 4 * value.log2) (min most exponent)
  if exponent < 0 then round value (base.pow places * power.pow exponent.natAbs)
  else round (value * power.pow exponent.toNat) (base.pow places)

def size? (cs : List Char) : Option (Size × List Char × Bool) :=
  let number (base power : Nat) (letter : Char) (cs : List Char) :
      Option (Size × List Char × Bool) :=
    (digits? base cs).map (fun (value, places, rest) =>
      let (e, rest) := exponent letter rest
      let size := sizeOf value base places power e
      (size, rest, isOutside value size))
  let hexadecimal := match cs with
    | '0' :: x :: rest => if x.toLower = 'x' then number 16 2 'p' rest else none
    | _ => none
  match behind? "infinity" cs, behind? "inf" cs, behind? "nan" cs with
  | some rest, _, _ | none, some rest, _ => some (.infinite, rest, false)
  | none, none, some rest => some (.undefined, rest, false)
  | none, none, none => hexadecimal.orElse (fun _ => number 10 10 'e' cs)

def scan (text : List Char) : Scan :=
  let cs := text.dropWhile Integer.isBlank
  let (negative, cs) := match cs with
    | '-' :: rest => (true, rest)
    | '+' :: rest => (false, rest)
    | cs => (false, cs)
  match size? cs with
  | some (size, rest, outside) => ⟨⟨negative, size⟩, rest, true, outside⟩
  | none => ⟨⟨false, .quotient 0 1⟩, text, false, false⟩

def padded (base length n : Nat) : List Char :=
  let digits := Nat.toDigits base n
  List.replicate (length - digits.length) '0' ++ digits

/-- A quotient with so many places behind the point; `marked` keeps the point before none. -/
def fixed (marked : Bool) (places numerator denominator : Nat) : List Char :=
  let digits := padded 10 (places + 1) (nearest (numerator * Nat.pow 10 places) denominator)
  let n := digits.length - places
  digits.take n ++ (if places = 0 && !marked then [] else ['.']) ++ digits.drop n

def shiftTen (numerator denominator : Nat) (power : Int) : Nat × Nat :=
  if power < 0 then (numerator, denominator * Nat.pow 10 power.natAbs)
  else (numerator * Nat.pow 10 power.toNat, denominator)

def magnitude (numerator denominator : Nat) : Int :=
  let guess : Int :=
    ((Nat.toDigits 10 numerator).length : Int) - (Nat.toDigits 10 denominator).length
  let (n, d) := shiftTen numerator denominator (-guess)
  if n < d then guess - 1 else guess

def leading (places numerator denominator : Nat) : Nat × Int :=
  if numerator = 0 then (0, 0)
  else
    let power := magnitude numerator denominator
    let (n, d) := shiftTen numerator denominator (places - power)
    let digits := nearest n d
    if digits < Nat.pow 10 (places + 1) then (digits, power) else (digits / 10, power + 1)

def pointed (marked : Bool) (digits : List Char) : List Char :=
  digits.take 1 ++ (if digits.length < 2 && !marked then [] else ['.']) ++ digits.drop 1

def signed (length : Nat) (power : Int) : List Char :=
  (if power < 0 then '-' else '+') :: padded 10 length power.natAbs

def scientific (marked : Bool) (places numerator denominator : Nat) : List Char :=
  let (digits, power) := leading places numerator denominator
  pointed marked (padded 10 (places + 1) digits) ++ 'e' :: signed 2 power

def trim (cs : List Char) : List Char :=
  if cs.contains '.' then
    let kept := cs.reverse.dropWhile (· = '0')
    (if kept.head? = some '.' then kept.drop 1 else kept).reverse
  else cs

def general (marked : Bool) (digits numerator denominator : Nat) : List Char :=
  let digits := max 1 digits
  let (shown, power) := leading (digits - 1) numerator denominator
  let trim (cs : List Char) := if marked then cs else trim cs
  if -4 ≤ power && power < digits then
    trim (fixed marked (digits - 1 - power).toNat numerator denominator)
  else trim (pointed marked (padded 10 digits shown)) ++ 'e' :: signed 2 power

/-- A quotient in hexadecimal with a power of two, in as many places as it needs if none are
asked for. -/
def hexadecimal (marked : Bool) (places : Option Nat) (numerator denominator : Nat) : List Char :=
  let (mantissa, power) : Nat × Int := if numerator = 0 then (0, -52) else
    let power := scale numerator denominator
    let (n, d) := shift numerator denominator (-power)
    let lost := 52 - (n / d).log2
    (n / d * Nat.pow 2 lost, power - lost)
  let shown := match places with
    | some p => if p < 13 then padded 16 (p + 1) (nearest mantissa (Nat.pow 2 (52 - 4 * p)))
      else padded 16 14 mantissa ++ List.replicate (p - 13) '0'
    | none => match (padded 16 14 mantissa).reverse.dropWhile (· = '0') with
      | [] => ['0']
      | kept => kept.reverse
  ['0', 'x'] ++ pointed marked shown ++ 'p' :: signed 1 (power + 52)

end Floating
end Provision.Shell
