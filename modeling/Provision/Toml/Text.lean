import Provision.Toml.Blank

namespace Provision.Toml

def hexDigit? (c : Char) : Option Nat :=
  if '0' ≤ c && c ≤ '9' then some (c.toNat - 48)
  else if 'a' ≤ c && c ≤ 'f' then some (c.toNat - 87)
  else if 'A' ≤ c && c ≤ 'F' then some (c.toNat - 55)
  else none

def readHex : (n : Nat) → (value : Nat) → Reader Nat
  | 0, value, s => some (value, s)
  | n + 1, value, c :: s =>
    match hexDigit? c with
    | some d => readHex n (16 * value + d) s
    | none => none
  | _ + 1, _, [] => none

/-- The character of a number, surrogates and numbers past the last character excepted. -/
def charOf? (n : Nat) : Option Char :=
  if n < 0xd800 || (0xdfff < n && n < 0x110000) then some (Char.ofNat n) else none

def readEscape : Reader Char
  | 'b' :: s => some ('\x08', s)
  | 't' :: s => some ('\t', s)
  | 'n' :: s => some ('\n', s)
  | 'f' :: s => some ('\x0c', s)
  | 'r' :: s => some ('\r', s)
  | '"' :: s => some ('"', s)
  | '\\' :: s => some ('\\', s)
  | 'u' :: s => do
    let (n, s) ← readHex 4 0 s
    pure (← charOf? n, s)
  | 'U' :: s => do
    let (n, s) ← readHex 8 0 s
    pure (← charOf? n, s)
  | _ => none

def readBasic : (fuel : Nat) → (read : List Char) → Reader (List Char)
  | 0, _, _ => none
  | _ + 1, read, '"' :: s => some (read.reverse, s)
  | fuel + 1, read, '\\' :: s =>
    match readEscape s with
    | some (c, s) => readBasic fuel (c :: read) s
    | none => none
  | fuel + 1, read, c :: s => if isPlain c then readBasic fuel (c :: read) s else none
  | _ + 1, _, [] => none

def readLiteral : (read : List Char) → Reader (List Char)
  | read, '\'' :: s => some (read.reverse, s)
  | read, c :: s => if isPlain c then readLiteral (c :: read) s else none
  | _, [] => none

/-- Three quotes end a text; one or two more before them belong to it. -/
def closing? (quote : Char) (s : List Char) : Option (Nat × List Char) :=
  match s.takeWhile (· = quote) with
  | run => if 3 ≤ run.length then some (min (run.length - 3) 2, s.drop (min run.length 5)) else none

def skipBlankLines : List Char → List Char
  | '\r' :: '\n' :: s => skipBlankLines s
  | c :: s => if isBlank c || c = '\n' then skipBlankLines s else c :: s
  | [] => []

def skipFold? (s : List Char) : Option (List Char) :=
  (lineEnd? (skipBlanks s)).map skipBlankLines

def readLongBasic : (fuel : Nat) → (read : List Char) → Reader (List Char)
  | 0, _, _ => none
  | fuel + 1, read, s =>
    match closing? '"' s with
    | some (extra, rest) => some (read.reverse ++ List.replicate extra '"', rest)
    | none =>
      match lineEnd? s with
      | some rest => readLongBasic fuel ('\n' :: read) rest
      | none =>
        match s with
        | '\\' :: rest =>
          match skipFold? rest with
          | some rest => readLongBasic fuel read rest
          | none =>
            match readEscape rest with
            | some (c, rest) => readLongBasic fuel (c :: read) rest
            | none => none
        | c :: rest => if isPlain c then readLongBasic fuel (c :: read) rest else none
        | [] => none

def readLongLiteral : (fuel : Nat) → (read : List Char) → Reader (List Char)
  | 0, _, _ => none
  | fuel + 1, read, s =>
    match closing? '\'' s with
    | some (extra, rest) => some (read.reverse ++ List.replicate extra '\'', rest)
    | none =>
      match lineEnd? s with
      | some rest => readLongLiteral fuel ('\n' :: read) rest
      | none =>
        match s with
        | c :: rest => if isPlain c then readLongLiteral fuel (c :: read) rest else none
        | [] => none

/-- A line end right after three opening quotes does not count. -/
def skipFirstLineEnd (s : List Char) : List Char := (lineEnd? s).getD s

def readShortString : Reader String
  | '"' :: s => (readBasic (s.length + 1) [] s).map (fun (t, s) => (String.ofList t, s))
  | '\'' :: s => (readLiteral [] s).map (fun (t, s) => (String.ofList t, s))
  | _ => none

/-- A text between double quotes may hold escapes, one between single quotes may not; three quotes
open a text over many lines. -/
def readString : Reader String
  | '"' :: '"' :: '"' :: s =>
    (readLongBasic (s.length + 1) [] (skipFirstLineEnd s)).map
      (fun (t, s) => (String.ofList t, s))
  | '\'' :: '\'' :: '\'' :: s =>
    (readLongLiteral (s.length + 1) [] (skipFirstLineEnd s)).map
      (fun (t, s) => (String.ofList t, s))
  | s => readShortString s

def isBareKeyChar (c : Char) : Bool := c.isAlphanum || c = '-' || c = '_'

def readKeyPart (s : List Char) : Option (String × List Char) :=
  match s with
  | '"' :: _ | '\'' :: _ => readShortString s
  | _ =>
    match s.takeWhile isBareKeyChar with
    | [] => none
    | part => some (String.ofList part, s.dropWhile isBareKeyChar)

/-- Reads the parts of a key with dots between them; `fuel` is one more than their number may be. -/
def readKeyParts : (fuel : Nat) → Reader (List String)
  | 0, _ => none
  | fuel + 1, s => do
    let (part, s) ← readKeyPart (skipBlanks s)
    match skipBlanks s with
    | '.' :: s =>
      let (parts, s) ← readKeyParts fuel s
      pure (part :: parts, s)
    | s => pure ([part], s)

def readKey : Reader (List String) := readKeyParts (nestingLimit - 1)

end Provision.Toml
