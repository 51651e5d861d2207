import Provision.Shell.Floating

namespace Provision.Shell.Format

def octalDigit? (c : Char) : Option Nat := Integer.digit? 8 c

def octal (cs : List Char) : Char × List Char :=
  let digits := (cs.take 3).takeWhile (fun c => (octalDigit? c).isSome)
  let n := digits.foldl (fun n c => 8 * n + (octalDigit? c).getD 0) 0
  (Char.ofNat (n % 256), cs.drop digits.length)

def letter? : Char → Option Char
  | '\\' => some '\\'
  | 'a' => some '\x07'
  | 'b' => some '\x08'
  | 'e' => some '\x1b'
  | 'f' => some '\x0c'
  | 'n' => some '\n'
  | 'r' => some '\r'
  | 't' => some '\t'
  | 'v' => some '\x0b'
  | _ => none

def letterFor? : Char → Option Char
  | '\\' => some '\\'
  | '\'' => some '\''
  | '\x07' => some 'a'
  | '\x08' => some 'b'
  | '\x0c' => some 'f'
  | '\n' => some 'n'
  | '\r' => some 'r'
  | '\t' => some 't'
  | '\x0b' => some 'v'
  | _ => none

/-- What stands behind a backslash comes to a character; before anything unknown the backslash
stands for itself. -/
def escape (cs : List Char) : Char × List Char :=
  match cs with
  | [] => ('\\', [])
  | c :: rest =>
    if (octalDigit? c).isSome then octal cs
    else match letter? c with
      | some d => (d, rest)
      | none => ('\\', cs)

/-- Replaces all that backslashes stand for; the flag says that the output ends early. Octal digits
may stand behind a zero. -/
def unescape : (fuel : Nat) → List Char → List Char × Bool
  | 0, cs => (cs, false)
  | _ + 1, [] => ([], false)
  | _ + 1, '\\' :: 'c' :: _ => ([], true)
  | fuel + 1, '\\' :: cs =>
    let (c, rest) := match cs with
      | '0' :: digits => octal digits
      | cs => escape cs
    let (tail, stop) := unescape fuel rest
    (c :: tail, stop)
  | fuel + 1, c :: cs =>
    let (tail, stop) := unescape fuel cs
    (c :: tail, stop)

def unescapeAll (cs : List Char) : List Char × Bool := unescape (cs.length + 1) cs

def echo (args : List String) : List Char :=
  let (args, newline) := match args with
    | "-n" :: rest => (rest, false)
    | args => (args, true)
  let (shown, stop) := unescapeAll (String.intercalate " " args).toList
  shown ++ (if newline && !stop then ['\n'] else [])

structure Style where
  left : Bool := false
  zeros : Bool := false
  plus : Bool := false
  blank : Bool := false
  marked : Bool := false
  width : Nat := 0
  precision : Option Nat := none

namespace Style

def withFlag (s : Style) (c : Char) : Style :=
  match c with
  | '-' => { s with left := true }
  | '0' => { s with zeros := true }
  | '+' => { s with plus := true }
  | ' ' => { s with blank := true }
  | _ => { s with marked := true }

def withWidth (s : Style) (n : Int) : Style :=
  if n < 0 then { s with left := true, width := n.natAbs } else { s with width := n.toNat }

def withPrecision (s : Style) (n : Int) : Style :=
  { s with precision := if n < 0 then none else some n.toNat }

def pad (s : Style) (text : List Char) : List Char :=
  let blanks := List.replicate (s.width - text.length) ' '
  if s.left then text ++ blanks else blanks ++ text

def text (s : Style) (cs : List Char) : List Char :=
  s.pad (match s.precision with
    | some n => cs.take n
    | none => cs)

def padNumber (s : Style) (zeros : Bool) (sign digits : List Char) : List Char :=
  if zeros && !s.left then
    sign ++ List.replicate (s.width - sign.length - digits.length) '0' ++ digits
  else s.pad (sign ++ digits)

def signOf (s : Style) (negative : Bool) : List Char :=
  if negative then ['-'] else if s.plus then ['+'] else if s.blank then [' '] else []

/-- Digits with zeros before them up to the precision; a zero has none at precision zero. -/
def minimal (s : Style) (digits : List Char) : List Char :=
  match s.precision with
  | none => digits
  | some 0 => if digits = ['0'] then [] else digits
  | some n => List.replicate (n - digits.length) '0' ++ digits

def signed (s : Style) (n : Int) : List Char :=
  s.padNumber (s.zeros && s.precision.isNone) (s.signOf (n < 0)) (s.minimal (Nat.toDigits 10 n.natAbs))

def unsigned (s : Style) (base : Nat) (capitals : Bool) (n : Nat) : List Char :=
  let shown := s.minimal (Nat.toDigits base n)
  let mark := if !s.marked || n = 0 || base ≠ 16 then [] else ['0', 'x']
  let shown := if s.marked && base = 8 && shown.head? ≠ some '0' then '0' :: shown else shown
  let cased (cs : List Char) := if capitals then cs.map Char.toUpper else cs
  s.padNumber (s.zeros && s.precision.isNone) (cased mark) (cased shown)

def real (s : Style) (letter : Char) (x : Floating) : List Char :=
  let cased (cs : List Char) := if letter.isUpper then cs.map Char.toUpper else cs
  let sign := s.signOf x.negative
  match x.size with
  | .infinite => s.pad (sign ++ cased "inf".toList)
  | .undefined => s.pad (sign ++ cased "nan".toList)
  | .quotient n d =>
    let places := s.precision.getD 6
    let shown := match letter.toLower with
      | 'e' => Floating.scientific s.marked places n d
      | 'g' => Floating.general s.marked places n d
      | 'a' => Floating.hexadecimal s.marked s.precision n d
      | _ => Floating.fixed s.marked places n d
    s.padNumber s.zeros sign (cased shown)

end Style

/-- A run over a format: what is written, what is complained of, and the arguments that are left. -/
structure Run where
  written : List Char := []
  complaints : List String := []
  args : List String

inductive Stop
  | early
  | mistake (complaint : String)

abbrev Writing := StateT Run (Except (Stop × Run))

namespace Writing

def put (cs : List Char) : Writing Unit := modify fun r => { r with written := r.written ++ cs }

def complain (text : String) : Writing Unit :=
  modify fun r => { r with complaints := r.complaints ++ [text] }

def stop {α : Type} (s : Stop) : Writing α := do throw (s, ← get)

def arg? : Writing (Option String) := do
  let r ← get
  set { r with args := r.args.drop 1 }
  return r.args.head?

def check (text : String) (found : Bool) (rest : List Char) (tooLarge : Bool) : Writing Unit := do
  if !found && !rest.isEmpty then complain (text ++ ": expected numeric value")
  else if !rest.isEmpty then complain (text ++ ": not completely converted")
  else if tooLarge then complain (text ++ ": Numerical result out of range")

/-- The number that the next argument is; a quote asks for the number of a character. -/
def integer : Writing Int := do
  match ← arg? with
  | none => return 0
  | some text =>
    match text.toList with
    | '"' :: rest | '\'' :: rest => return (rest.head?.map (fun c => (c.toNat : Int))).getD 0
    | cs =>
      let s := Integer.scan none cs
      check text s.found s.rest s.tooLarge
      return s.value

def natural : Writing Nat := do
  match ← arg? with
  | none => return 0
  | some text =>
    match text.toList with
    | '"' :: rest | '\'' :: rest => return (rest.head?.map (·.toNat)).getD 0
    | cs =>
      let s := Integer.scanUnsigned cs
      check text s.found s.rest s.tooLarge
      return s.value.toNat

def real : Writing Floating := do
  match ← arg? with
  | none => return ⟨false, .quotient 0 1⟩
  | some text =>
    match text.toList with
    | '"' :: rest | '\'' :: rest =>
      return ⟨false, .quotient ((rest.head?.map (·.toNat)).getD 0) 1⟩
    | cs =>
      let s := Floating.scan cs
      check text s.found s.rest s.outside
      return s.value

/-- A number in a format: digits, or the next argument. -/
def number? (cs : List Char) : Writing (Option Int × List Char) := do
  match cs with
  | '*' :: rest => return (some (← integer), rest)
  | cs =>
    let digits := cs.takeWhile Char.isDigit
    let value : Nat := digits.foldl (fun n c => 10 * n + (c.toNat - 48)) 0
    return (if digits = [] then none else some value, cs.drop digits.length)

/-- Writes an argument in the way that a letter asks for; `shown` is all of the directive. -/
def convert (s : Style) (letter : Char) (shown : List Char) : Writing Unit := do
  match letter with
  | 's' => put (s.text ((← arg?).getD "").toList)
  | 'c' => put (s.pad [(((← arg?).getD "").toList.head?).getD '\x00'])
  | 'b' =>
    let (cs, ends) := unescapeAll ((← arg?).getD "").toList
    put (s.text cs)
    if ends then stop .early
  | 'd' | 'i' => put (s.signed (← integer))
  | 'u' => put (s.unsigned 10 false (← natural))
  | 'o' => put (s.unsigned 8 false (← natural))
  | 'x' => put (s.unsigned 16 false (← natural))
  | 'X' => put (s.unsigned 16 true (← natural))
  | _ =>
    if "aAeEfFgG".toList.contains letter then put (s.real letter (← real))
    else stop (.mistake (String.ofList shown ++ ": invalid directive"))

def isFlag (c : Char) : Bool := c = '#' || c = '-' || c = '+' || c = ' ' || c = '0'

def directive (cs : List Char) : Writing (List Char) := do
  let flags := cs.takeWhile isFlag
  let s : Style := flags.foldl Style.withFlag {}
  let (width, rest) ← number? (cs.drop flags.length)
  let s := (width.map s.withWidth).getD s
  let (s, rest) ← match rest with
    | '.' :: behind => do
      let (precision, rest) ← number? behind
      pure (s.withPrecision (precision.getD 0), rest)
    | rest => pure (s, rest)
  match rest with
  | [] => stop (.mistake "missing format character")
  | letter :: behind =>
    convert s letter ('%' :: cs.take (cs.length - behind.length))
    return behind

def once : (fuel : Nat) → List Char → Writing Unit
  | 0, _ => pure ()
  | _ + 1, [] => pure ()
  | fuel + 1, '\\' :: cs => do
    let (c, rest) := escape cs
    put [c]
    once fuel rest
  | fuel + 1, '%' :: '%' :: cs => do
    put ['%']
    once fuel cs
  | fuel + 1, '%' :: cs => do
    let rest ← directive cs
    once fuel rest
  | fuel + 1, c :: cs => do
    put [c]
    once fuel cs

/-- Writes a format once, and again while arguments are left that it uses up. -/
def all (format : List Char) : (fuel : Nat) → Writing Unit
  | 0 => pure ()
  | fuel + 1 => do
    let before := (← get).args.length
    once (format.length + 1) format
    let left := (← get).args.length
    if left ≠ 0 && left < before then all format fuel

end Writing

/-- Writes arguments by a format; returns why that stopped before its end, if it did by mistake. -/
def print (format : String) (args : List String) : Run × Option String :=
  match (Writing.all format.toList (args.length + 1)).run { args } with
  | .ok ((), r) => (r, none)
  | .error (.early, r) => (r, none)
  | .error (.mistake complaint, r) => (r, some complaint)

end Provision.Shell.Format
