import Provision.FileSystem.Operations
import Provision.Shell.Integer
import Provision.Shell.Octets

namespace Provision.Shell.Condition

def unaryOperators : List String :=
  ["-r", "-w", "-x", "-e", "-f", "-d", "-c", "-b", "-p", "-u", "-g", "-k", "-s", "-t", "-z", "-n",
    "-h", "-O", "-G", "-L", "-S"]

def binaryOperators : List String :=
  ["=", "!=", "<", ">", "-eq", "-ne", "-ge", "-gt", "-le", "-lt", "-nt", "-ot", "-ef"]

inductive Role
  | missing
  | operand
  | negation
  | conjunction
  | disjunction
  | opening
  | closing
  | unary (operator : String)
deriving DecidableEq

def isOperand : List String → Bool
  | [] => true
  | [_] => false
  | next :: _ :: _ => next ∈ binaryOperators

def role : List String → Role
  | [] => .missing
  | word :: rest =>
    match word with
    | "!" => .negation
    | "-a" => .conjunction
    | "-o" => .disjunction
    | "(" => if rest.isEmpty then .operand else .opening
    | ")" => .closing
    | _ => if word ∈ unaryOperators && !isOperand rest then .unary word else .operand

def path (word : String) : Path := ⟨Octets.toText word⟩

def unary (fs : FileSystem) (operator operand : String) : Bool :=
  match operator with
  | "-n" => operand ≠ ""
  | "-z" => operand = ""
  | "-f" => fs.hasFile (path operand)
  | "-d" => fs.hasDirectory (path operand)
  | "-h" | "-L" =>
    match fs.findUnfollowed (path operand) with
    | .ok (_, .link _) => true
    | _ => false
  | "-s" =>
    match fs.find (path operand) with
    | .ok (_, .file content _) => content.size ≠ 0
    | .ok _ => true
    | .error _ => false
  | "-x" =>
    match fs.find (path operand) with
    | .ok (_, .file _ executable) => executable
    | .ok _ => true
    | .error _ => false
  | "-e" | "-r" | "-w" | "-O" | "-G" => fs.has (path operand)
  | _ => false

def integer (word : String) : Except String Int :=
  match Integer.decimal? word with
  | some n => .ok n
  | none => .error ("Illegal number: " ++ word)

def isSame (fs : FileSystem) (a b : String) : Bool :=
  match fs.find (path a), fs.find (path b) with
  | .ok (l, _), .ok (l', _) => l = l'
  | _, _ => false

def binary (fs : FileSystem) (operator a b : String) : Except String Bool :=
  let compare (holds : Int → Int → Bool) : Except String Bool := do
    let m ← integer a
    let n ← integer b
    return holds m n
  match operator with
  | "=" => .ok (a = b)
  | "!=" => .ok (a ≠ b)
  | "<" => .ok (a < b)
  | ">" => .ok (b < a)
  | "-eq" => compare (· = ·)
  | "-ne" => compare (· ≠ ·)
  | "-lt" => compare (· < ·)
  | "-le" => compare (· ≤ ·)
  | "-gt" => compare (· > ·)
  | "-ge" => compare (· ≥ ·)
  | "-ef" => .ok (isSame fs a b)
  | _ => .ok false

abbrev Answer := Except String (Bool × List String)

def negate : Answer → Answer := Except.map (fun (b, rest) => (!b, rest))

def fromOperand (fs : FileSystem) (words : List String) : Answer :=
  match words with
  | a :: operator :: rest =>
    if operator ∈ binaryOperators then
      match rest with
      | [] => .error (operator ++ ": argument expected")
      | b :: _ => (binary fs operator a b).map (·, rest)
    else .ok (a ≠ "", words)
  | words => .ok (words.head?.any (· ≠ ""), words)

abbrev Whole := Role → List String → Answer

def primary (fs : FileSystem) (whole : Whole) : Whole := fun r words =>
  match r with
  | .missing => .ok (false, words)
  | .opening =>
    let rest := words.drop 1
    if role rest = .closing then .ok (false, rest)
    else do
      let (b, rest) ← whole (role rest) rest
      if role (rest.drop 1) = .closing then return (b, rest.drop 1)
      else throw "closing paren expected"
  | .unary operator =>
    match words.drop 1 with
    | [] => .error (operator ++ ": argument expected")
    | operand :: rest => .ok (unary fs operator operand, operand :: rest)
  | _ => fromOperand fs words

def negated (fs : FileSystem) (whole : Whole) : (fuel : Nat) → Whole
  | 0 => primary fs whole
  | fuel + 1 => fun r words =>
    if r = .negation then
      let rest := words.drop 1
      negate (negated fs whole fuel (role rest) (if rest.isEmpty then words else rest))
    else primary fs whole r words

def conjunction (fs : FileSystem) (whole : Whole) : (fuel : Nat) → Whole
  | 0 => fun _ words => .ok (false, words)
  | fuel + 1 => fun r words => do
    let (b, rest) ← negated fs whole words.length r words
    if role (rest.drop 1) = .conjunction then
      let (c, rest) ← conjunction fs whole fuel (role (rest.drop 2)) (rest.drop 2)
      return (b && c, rest)
    else return (b, rest)

def disjunction (fs : FileSystem) (whole : Whole) : (fuel : Nat) → Whole
  | 0 => fun _ words => .ok (false, words)
  | fuel + 1 => fun r words => do
    let (b, rest) ← conjunction fs whole (words.length + 1) r words
    if role (rest.drop 1) = .disjunction then
      let (c, rest) ← disjunction fs whole fuel (role (rest.drop 2)) (rest.drop 2)
      return (b || c, rest)
    else return (b, rest)

def nested (fs : FileSystem) : (depth : Nat) → Whole
  | 0 => fun _ words => .ok (false, words)
  | depth + 1 => fun r words => disjunction fs (nested fs depth) (words.length + 1) r words

/-- Whether a condition holds, or what is wrong with it. Three words with an operator between two
operands are a comparison whatever the operands look like. -/
def holds (fs : FileSystem) (words : List String) : Except String Bool := do
  let (words, first) : List String × Role := match words with
    | [a, operator, b] =>
      if operator ∈ binaryOperators then (words, .operand)
      else if a = "(" && b = ")" then ([operator], role [operator])
      else (words, role words)
    | ["(", a, b, ")"] => ([a, b], role [a, b])
    | words => (words, role words)
  if words.isEmpty then return false
  let (b, rest) ← nested fs (words.length + 1) first words
  match rest with
  | word :: _ :: _ =>
    throw ((if word = "" then "" else word ++ ": ") ++ "unexpected operator")
  | _ => return b

end Provision.Shell.Condition
