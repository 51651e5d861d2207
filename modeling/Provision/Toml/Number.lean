import Provision.Toml.Text

namespace Provision.Toml

/-- How a reading attempt ended: a failure either leaves room for another grammar or does not. -/
inductive Attempt (α : Type)
  | read (a : α) (rest : List Char)
  | other
  | broken

namespace Attempt

variable {α : Type}

def orElse (x : Attempt α) (next : Attempt α) : Attempt α :=
  match x with
  | other => next
  | x => x

end Attempt

def isDigit (c : Char) : Bool := '0' ≤ c && c ≤ '9'

/-- Digits with single underscores between them; an underscore without a digit after it breaks. -/
def moreDigits (digit : Char → Bool) : (read : List Char) → List Char → Attempt (List Char)
  | read, '_' :: c :: s => if digit c then moreDigits digit (c :: read) s else .broken
  | _, ['_'] => .broken
  | read, c :: s => if digit c then moreDigits digit (c :: read) s else .read read.reverse (c :: s)
  | read, [] => .read read.reverse []

def someDigits (digit : Char → Bool) : List Char → Attempt (List Char)
  | c :: s => if digit c then moreDigits digit [c] s else .other
  | [] => .other

def readSign : List Char → List Char × List Char
  | '+' :: s => ([], s)
  | '-' :: s => (['-'], s)
  | s => ([], s)

/-- A decimal number with its sign; a zero in front stands alone. -/
def decimal (s : List Char) : Attempt (List Char) :=
  let (sign, s) := readSign s
  match s with
  | '0' :: s => .read (sign ++ ['0']) s
  | s =>
    match someDigits isDigit s with
    | .read digits rest => .read (sign ++ digits) rest
    | .other => .other
    | .broken => .broken

def natOf (base : Nat) (digits : List Char) : Nat :=
  digits.foldl (fun n c => base * n + (hexDigit? c).getD 0) 0

def intOf : List Char → Int
  | '-' :: digits => - (natOf 10 digits : Int)
  | digits => natOf 10 digits

def integer? (n : Int) : Option Value :=
  if -Int.pow 2 63 ≤ n ∧ n < Int.pow 2 63 then some (.integer n) else none

/-- A fraction: a dot and digits. -/
def fraction : List Char → Attempt (List Char)
  | '.' :: s =>
    match someDigits isDigit s with
    | .read digits rest => .read digits rest
    | _ => .broken
  | _ => .other

/-- An exponent: a letter, a sign and digits. -/
def exponent : List Char → Attempt (List Char)
  | c :: s =>
    if c = 'e' || c = 'E' then
      let (sign, s) := readSign s
      match someDigits isDigit s with
      | .read digits rest => .read (sign ++ digits) rest
      | _ => .broken
    else .other
  | [] => .other

def overflows (digits : Nat) (power : Int) : Bool :=
  let places := (Nat.toDigits 10 digits).length
  if digits = 0 then false
  else if 400 < power + places then true
  else if power + places < 300 then false
  else
    let limit := Nat.pow 2 1024 - Nat.pow 2 970
    if 0 ≤ power then limit ≤ digits * Nat.pow 10 power.toNat
    else limit * Nat.pow 10 (-power).toNat ≤ digits

/-- A float is refused when it is too large; too far below zero it counts as minus infinity. -/
def float? (whole frac exp : List Char) : Option Value :=
  let negative := whole.head? = some '-'
  let digits := natOf 10 (whole.filter isDigit ++ frac)
  if !negative && overflows digits (intOf exp - frac.length) then none
  else some (.float (String.ofList (whole ++ '.' :: frac ++ 'e' :: exp)))

def ofOption {α : Type} (a : Option α) (rest : List Char) : Attempt α :=
  match a with
  | some a => .read a rest
  | none => .broken

def float (s : List Char) : Attempt Value :=
  match decimal s with
  | .other => .other
  | .broken => .broken
  | .read whole rest =>
    match exponent rest with
    | .broken => .broken
    | .read exp rest => ofOption (float? whole [] exp) rest
    | .other =>
      match fraction rest with
      | .other => .other
      | .broken => .broken
      | .read frac rest =>
        match exponent rest with
        | .broken => .broken
        | .read exp rest => ofOption (float? whole frac exp) rest
        | .other => ofOption (float? whole frac []) rest

def specialFloat (s : List Char) : Attempt Value :=
  let (sign, s) := readSign s
  match s with
  | 'i' :: 'n' :: 'f' :: rest => .read (.float (String.ofList (sign ++ "inf".toList))) rest
  | 'n' :: 'a' :: 'n' :: rest => .read (.float (String.ofList (sign ++ "nan".toList))) rest
  | _ => .other

def based (base : Nat) (digit : Char → Bool) (s : List Char) : Attempt Value :=
  match someDigits digit s with
  | .read digits rest => ofOption (integer? (natOf base digits)) rest
  | _ => .broken

def integer (s : List Char) : Attempt Value :=
  match s with
  | '0' :: 'x' :: s => based 16 (fun c => (hexDigit? c).isSome) s
  | '0' :: 'o' :: s => based 8 (fun c => '0' ≤ c && c ≤ '7') s
  | '0' :: 'b' :: s => based 2 (fun c => c = '0' || c = '1') s
  | s =>
    match decimal s with
    | .read digits rest => ofOption (integer? (intOf digits)) rest
    | .other => .other
    | .broken => .broken

def fixedDigits (n : Nat) (s : List Char) : Option (Nat × List Char) :=
  let digits := s.take n
  if digits.length = n && digits.all isDigit then some (natOf 10 digits, s.drop n) else none

def twoDigits (low high : Nat) (s : List Char) : Option (List Char) :=
  match fixedDigits 2 s with
  | some (n, rest) => if low ≤ n && n ≤ high then some rest else none
  | none => none

def daysIn (year month : Nat) : Nat :=
  if month = 2 then
    if year % 4 = 0 && (year % 100 ≠ 0 || year % 400 = 0) then 29 else 28
  else if month = 4 || month = 6 || month = 9 || month = 11 then 30
  else 31

def date (s : List Char) : Attempt Unit :=
  match fixedDigits 4 s with
  | some (year, '-' :: rest) =>
    match fixedDigits 2 rest with
    | some (month, '-' :: rest) =>
      match fixedDigits 2 rest with
      | some (day, rest) =>
        if 1 ≤ month && month ≤ 12 && 1 ≤ day && day ≤ daysIn year month then .read () rest
        else .broken
      | none => .broken
    | _ => .broken
  | _ => .other

def secondFraction : List Char → List Char
  | '.' :: c :: s => if isDigit c then s.dropWhile isDigit else '.' :: c :: s
  | s => s

def time (s : List Char) : Attempt Unit :=
  match twoDigits 0 23 s with
  | some (':' :: rest) =>
    match twoDigits 0 59 rest with
    | some (':' :: rest) =>
      match twoDigits 0 60 rest with
      | some rest => .read () (secondFraction rest)
      | none => .broken
    | _ => .broken
  | _ => .other

def offset (s : List Char) : Attempt Unit :=
  match s with
  | c :: rest =>
    if c = 'Z' || c = 'z' then .read () rest
    else if c = '+' || c = '-' then
      match twoDigits 0 23 rest with
      | some (':' :: rest) =>
        match twoDigits 0 59 rest with
        | some rest => .read () rest
        | none => .broken
      | _ => .broken
    else .other
  | [] => .other

/-- What may follow a date: a letter or a blank, a time, and an offset. -/
def timeAfterDate (s : List Char) : Attempt Unit :=
  match s with
  | c :: rest =>
    if c = 'T' || c = 't' || c = ' ' then
      match time rest with
      | .read () rest =>
        match offset rest with
        | .other => .read () rest
        | x => x
      | x => x
    else .other
  | [] => .other

def moment (s : List Char) : Attempt Value :=
  let ended (rest : List Char) : Attempt Value :=
    .read (.moment (String.ofList (s.take (s.length - rest.length)))) rest
  match date s with
  | .broken => .broken
  | .read () rest =>
    match timeAfterDate rest with
    | .read () rest => ended rest
    | .other => ended rest
    | .broken => .broken
  | .other =>
    match time s with
    | .read () rest => ended rest
    | .other => .other
    | .broken => .broken

/-- Reads a date, a time or a number, tried in this order. A number is cut from the text by its
grammar first and judged afterwards, so one that is out of range makes the document unusable and is
not read as something shorter. -/
def readNumber (s : List Char) : Option (Value × List Char) :=
  match (moment s).orElse ((float s).orElse ((specialFloat s).orElse (integer s))) with
  | .read v rest => some (v, rest)
  | _ => none

end Provision.Toml
