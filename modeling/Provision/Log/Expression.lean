import Provision.Text.Alphanumeric

namespace Provision.Log.Expression

def isFlag (c : Char) : Bool := "imsUuRx".toList.contains c

/-- The flags up to the end of the list, each at most once, with at most one minus that is followed
by a flag; returns the mark that ends them and the text behind it. -/
def flags? (seen : List Char) : List Char → Option (Char × List Char)
  | [] => none
  | c :: cs =>
    if c = ')' || c = ':' then
      if seen.head? = some '-' || (c = ')' && seen = []) then none else some (c, cs)
    else if seen.contains c || !(isFlag c || c = '-') then none
    else flags? (c :: seen) cs

def isNameStart (c : Char) : Bool := c = '_' || c.isAlpha || (0x80 ≤ c.toNat && Text.isAlphanumeric c)

def isNameChar (c : Char) : Bool := isNameStart c || Text.isAlphanumeric c || ".[]".toList.contains c

def groupName? (cs : List Char) : Option (String × List Char) :=
  match cs.takeWhile (· ≠ '>'), cs.dropWhile (· ≠ '>') with
  | c :: name, _ :: rest =>
    if isNameStart c && name.all isNameChar then some (String.ofList (c :: name), rest) else none
  | _, _ => none

def hexLength? : Char → Option Nat
  | 'x' => some 2
  | 'u' => some 4
  | 'U' => some 8
  | _ => none

def isHex (c : Char) : Bool := c.isDigit || ('a' ≤ c && c ≤ 'f') || ('A' ≤ c && c ≤ 'F')

def hexValue (c : Char) : Nat :=
  if c.isDigit then c.toNat - 48 else if 'a' ≤ c then c.toNat - 87 else c.toNat - 55

def ofHex (cs : List Char) : Nat := cs.foldl (fun n c => 16 * n + hexValue c) 0

def isCategory (c : Char) : Bool := "CLMNPSZ".toList.contains c

/-- What a backslash and the text behind it stand for: a character or a class of them. -/
inductive Escape
  | literal (c : Char)
  | ofClass
  | place
deriving DecidableEq

def letter? : Char → Option Escape
  | 'a' => some (.literal '\x07')
  | 'f' => some (.literal '\x0c')
  | 't' => some (.literal '\t')
  | 'n' => some (.literal '\n')
  | 'r' => some (.literal '\r')
  | 'v' => some (.literal '\x0b')
  | 'd' | 'D' | 's' | 'S' | 'w' | 'W' => some .ofClass
  | 'A' | 'z' => some .place
  | c => if c.toNat < 0x80 && !c.isAlphanum && c ≠ '<' && c ≠ '>' then some (.literal c) else none

/-- Reads what follows a backslash. The ends of words are refused: no automaton is built for them. -/
def escape? : List Char → Option (Escape × List Char)
  | [] => none
  | c :: cs =>
    if c = 'p' || c = 'P' then
      match cs with
      | d :: rest => if isCategory d then some (.ofClass, rest) else none
      | [] => none
    else match hexLength? c with
      | some n =>
        let digits := cs.take n
        let value := ofHex digits
        if digits.length = n && digits.all isHex && value.isValidChar then
          some (.literal (Char.ofNat value), cs.drop n)
        else none
      | none => (letter? c).map (·, cs)

def classNames : List String :=
  ["alnum", "alpha", "ascii", "blank", "cntrl", "digit", "graph", "lower", "print", "punct",
    "space", "upper", "word", "xdigit"]

def namedClass? (cs : List Char) : Option (List Char) :=
  match cs with
  | ':' :: rest =>
    let rest := match rest with
      | '^' :: r => r
      | r => r
    let name := rest.takeWhile Char.isAlpha
    match rest.drop name.length with
    | ':' :: ']' :: behind =>
      if classNames.contains (String.ofList name) then some behind else none
    | _ => none
  | _ => none

def classItem? : List Char → Option (Escape × List Char)
  | [] => none
  | '\\' :: cs =>
    match escape? cs with
    | some (.place, _) => none
    | r => r
  | c :: cs => some (.literal c, cs)

/-- What stands at the start of a class and counts for itself. -/
def classStart (cs : List Char) : List Char :=
  let cs := match cs with
    | '^' :: rest => rest
    | rest => rest
  let dashes := cs.takeWhile (· = '-')
  match dashes, cs.drop dashes.length with
  | [], ']' :: rest => rest
  | _, rest => rest

def classEnd? : (fuel : Nat) → (depth : Nat) → List Char → Option (List Char)
  | 0, _, _ => none
  | _ + 1, _, [] => none
  | fuel + 1, depth, ']' :: cs => if depth ≤ 1 then some cs else classEnd? fuel (depth - 1) cs
  | fuel + 1, depth, '[' :: cs =>
    match namedClass? cs with
    | some rest => classEnd? fuel depth rest
    | none => classEnd? fuel (depth + 1) (classStart cs)
  | fuel + 1, depth, c :: cs =>
    match classItem? (c :: cs) with
    | none => none
    | some (low, '-' :: rest) =>
      match rest with
      | ']' :: _ | '-' :: _ => classEnd? fuel depth rest
      | _ =>
        match low, classItem? rest with
        | .literal a, some (.literal b, rest) => if a ≤ b then classEnd? fuel depth rest else none
        | _, _ => none
    | some (_, rest) => classEnd? fuel depth rest

/-- Reads on with `depth` groups open and the names they have; `operand` says whether something
stands before that can be repeated. -/
def isReadable : (fuel : Nat) → (depth : Nat) → (operand : Bool) → (names : List String) →
    List Char → Bool
  | 0, _, _, _, _ => false
  | _ + 1, depth, _, _, [] => depth = 0
  | fuel + 1, depth, operand, names, c :: cs =>
    match c with
    | '|' => isReadable fuel depth false names cs
    | '*' | '+' | '?' =>
      let rest := match cs with
        | '?' :: r => r
        | r => r
      operand && isReadable fuel depth true names rest
    | '\x7b' => false
    | ')' => depth ≠ 0 && isReadable fuel (depth - 1) true names cs
    | '[' =>
      match classEnd? (cs.length + 1) 1 (classStart cs) with
      | some rest => isReadable fuel depth true names rest
      | none => false
    | '\\' =>
      match escape? cs with
      | some (_, rest) => isReadable fuel depth true names rest
      | none => false
    | '(' =>
      let named (rest : List Char) : Bool :=
        match groupName? rest with
        | some (n, rest) => !names.contains n && isReadable fuel (depth + 1) false (n :: names) rest
        | none => false
      match cs with
      | '?' :: 'P' :: '<' :: rest => named rest
      | '?' :: '<' :: rest => named rest
      | '?' :: rest =>
        match flags? [] rest with
        | some (mark, rest) =>
          isReadable fuel (if mark = ':' then depth + 1 else depth) false names rest
        | none => false
      | rest => isReadable fuel (depth + 1) false names rest
    | _ => isReadable fuel depth true names cs

/-- Nothing is ever matched: only whether an expression is well formed decides whether a filter can
be read. A brace cannot close inside a filter, so every form that needs one is malformed. -/
def isWellFormed (text : String) : Bool := isReadable (text.length + 1) 0 false [] text.toList

end Provision.Log.Expression
