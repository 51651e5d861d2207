import Provision.Shell.Integer
import Provision.Shell.Token

namespace Provision.Shell

inductive Operator
  | times | dividedBy | modulo
  | plus | minus
  | shiftLeft | shiftRight
  | less | lessEqual | greater | greaterEqual
  | equal | unequal
  | bitAnd | bitXor | bitOr
deriving DecidableEq

inductive Unary
  | negative
  | complement
  | isZero
deriving DecidableEq

/-- An expression is read as far as it goes; a mistake in it stands where it was met, and shows when
that place is reached. -/
inductive Expression
  | number (n : Int)
  | variable (name : String)
  | sign (s : Unary) (e : Expression)
  | binary (o : Operator) (a b : Expression)
  | both (a b : Expression)
  | either (a b : Expression)
  | choice (condition yes no : Expression)
  | assign (name : String) (o : Option Operator) (e : Expression)
  | wrong (complaint : String)
  | spoiled (e : Expression) (complaint : String)

namespace Operator

def rank : Operator → Nat
  | times | dividedBy | modulo => 0
  | plus | minus => 1
  | shiftLeft | shiftRight => 2
  | less | lessEqual | greater | greaterEqual => 3
  | equal | unequal => 4
  | bitAnd => 5
  | bitXor => 6
  | bitOr => 7

def ranks : Nat := 8

def ofSign? : String → Option Operator
  | "*" => some times
  | "/" => some dividedBy
  | "%" => some modulo
  | "+" => some plus
  | "-" => some minus
  | "<<" => some shiftLeft
  | ">>" => some shiftRight
  | "<" => some less
  | "<=" => some lessEqual
  | ">" => some greater
  | ">=" => some greaterEqual
  | "==" => some equal
  | "!=" => some unequal
  | "&" => some bitAnd
  | "^" => some bitXor
  | "|" => some bitOr
  | _ => none

def ofBool (b : Bool) : Int := if b then 1 else 0

def bits (n : Int) : Nat := (n % Int.pow 2 64).toNat

def ofBits (n : Nat) : Int := Integer.wrap n

/-- How far a shift goes; it knows six bits. -/
def distance (n : Int) : Nat := (n % 64).toNat

/-- What an operator makes of two numbers; nothing comes of a division by zero. -/
def value? (o : Operator) (a b : Int) : Option Int :=
  match o with
  | times => some (Integer.wrap (a * b))
  | dividedBy => if b = 0 then none else some (Integer.wrap (a.tdiv b))
  | modulo => if b = 0 then none else some (a.tmod b)
  | plus => some (Integer.wrap (a + b))
  | minus => some (Integer.wrap (a - b))
  | shiftLeft => some (Integer.wrap (a * Int.pow 2 (distance b)))
  | shiftRight => some (a / Int.pow 2 (distance b))
  | less => some (ofBool (a < b))
  | lessEqual => some (ofBool (a ≤ b))
  | greater => some (ofBool (b < a))
  | greaterEqual => some (ofBool (b ≤ a))
  | equal => some (ofBool (a = b))
  | unequal => some (ofBool (a ≠ b))
  | bitAnd => some (ofBits (bits a &&& bits b))
  | bitXor => some (ofBits (bits a ^^^ bits b))
  | bitOr => some (ofBits (bits a ||| bits b))

end Operator

namespace Expression

inductive Symbol
  | number (n : Int)
  | name (text : String)
  | sign (text : String)
deriving DecidableEq

def longSigns : List String :=
  ["<<=", ">>=", "<<", ">>", "<=", ">=", "==", "!=", "&&", "||", "+=", "-=", "*=", "/=", "%=", "&=",
    "^=", "|="]

def symbols : (fuel : Nat) → List Char → List Symbol
  | 0, _ => []
  | _ + 1, [] => []
  | fuel + 1, c :: cs =>
    if Integer.isBlank c then symbols fuel cs
    else if isNameStart c then
      let name := (c :: cs).takeWhile isNameChar
      .name (String.ofList name) :: symbols fuel ((c :: cs).drop name.length)
    else if c.isDigit then
      let s := Integer.scan none (c :: cs)
      .number s.value :: symbols fuel s.rest
    else
      match longSigns.find? (fun s => s.toList.isPrefixOf (c :: cs)) with
      | some s => .sign s :: symbols fuel ((c :: cs).drop s.length)
      | none => .sign (String.singleton c) :: symbols fuel cs

abbrev Parser := List Symbol → Expression × List Symbol

def primary (whole : Parser) : Parser
  | .number n :: rest => (.number n, rest)
  | .name x :: rest => (.variable x, rest)
  | .sign "(" :: rest =>
    match whole rest with
    | (e, .sign ")" :: behind) => (e, behind)
    | (e, behind) => (.spoiled e "expecting ')'", behind)
  | .sign "+" :: rest => primary whole rest
  | .sign "-" :: rest =>
    let (e, behind) := primary whole rest
    (.sign .negative e, behind)
  | .sign "~" :: rest =>
    let (e, behind) := primary whole rest
    (.sign .complement e, behind)
  | .sign "!" :: rest =>
    let (e, behind) := primary whole rest
    (.sign .isZero e, behind)
  | rest => (.wrong "expecting primary", rest)

def operator? (rank : Nat) : List Symbol → Option Operator
  | .sign s :: _ => (Operator.ofSign? s).filter (·.rank = rank)
  | _ => none

def joined (operand : Parser) (rank : Nat) : (fuel : Nat) → Expression → Parser
  | 0, e, rest => (e, rest)
  | fuel + 1, e, rest =>
    match operator? rank rest with
    | some o =>
      let (b, behind) := operand (rest.drop 1)
      joined operand rank fuel (.binary o e b) behind
    | none => (e, rest)

def ranked (whole : Parser) : (rank : Nat) → Parser
  | 0 => primary whole
  | rank + 1 => fun symbols =>
    let (e, rest) := ranked whole rank symbols
    joined (ranked whole rank) rank rest.length e rest

def conjunction (whole : Parser) : (fuel : Nat) → Parser
  | 0, symbols => ranked whole Operator.ranks symbols
  | fuel + 1, symbols =>
    match ranked whole Operator.ranks symbols with
    | (a, .sign "&&" :: rest) =>
      let (b, behind) := conjunction whole fuel rest
      (.both a b, behind)
    | result => result

def disjunction (whole : Parser) : (fuel : Nat) → Parser
  | 0, symbols => conjunction whole symbols.length symbols
  | fuel + 1, symbols =>
    match conjunction whole symbols.length symbols with
    | (a, .sign "||" :: rest) =>
      let (b, behind) := disjunction whole fuel rest
      (.either a b, behind)
    | result => result

def conditional (whole : Parser) : (fuel : Nat) → Parser
  | 0, symbols => disjunction whole symbols.length symbols
  | fuel + 1, symbols =>
    match disjunction whole symbols.length symbols with
    | (a, .sign "?" :: rest) =>
      match whole rest with
      | (b, .sign ":" :: behind) =>
        let (c, behind) := conditional whole fuel behind
        (.choice a b c, behind)
      | (b, behind) => (.choice a (.spoiled b "expecting ':'") (.wrong "expecting ':'"), behind)
    | result => result

def assigner? (sign : String) : Option (Option Operator) :=
  if sign = "=" then some none
  else if sign ∈ ["==", "!=", "<=", ">="] then none
  else match sign.toList.getLast? with
    | some '=' => (Operator.ofSign? (String.ofList sign.toList.dropLast)).map some
    | _ => none

def assignment : (depth : Nat) → Parser
  | 0, symbols => (.wrong "expecting primary", symbols)
  | depth + 1, symbols =>
    let plain := conditional (assignment depth) symbols.length symbols
    match symbols with
    | .name x :: .sign s :: rest =>
      match assigner? s with
      | some o =>
        let (e, behind) := assignment depth rest
        (.assign x o e, behind)
      | none => plain
    | _ => plain

def parse (text : List Char) : Expression :=
  let symbols := symbols text.length text
  match assignment (symbols.length + 1) symbols with
  | (e, []) => e
  | (e, _) => .spoiled e "expecting EOF"

inductive Fault
  | mistake (complaint : String)
  | illegalNumber (text : String)

/-- The values of variables while an expression is worked out, those that it sets in front. -/
structure Memory where
  sets : List (String × Int) := []
  value : String → String

abbrev Evaluation := StateT Memory (Except Fault)

def lookup (name : String) : Evaluation Int := do
  let m ← get
  match m.sets.find? (·.1 = name) with
  | some (_, n) => return n
  | none =>
    let text := m.value name
    match Integer.read? none text with
    | some n => return n
    | none => throw (.illegalNumber text)

def combine (o : Operator) (a b : Int) : Evaluation Int := do
  match o.value? a b with
  | some n => return n
  | none => throw (.mistake "division by zero")

/-- The value of an expression. A part that is `idle` is only looked at for mistakes. -/
def value (idle : Bool) : Expression → Evaluation Int
  | number n => pure n
  | .variable name => if idle then pure 0 else lookup name
  | sign s e => do
    let n ← value idle e
    return match s with
      | .negative => Integer.wrap (-n)
      | .complement => -n - 1
      | .isZero => Operator.ofBool (n = 0)
  | binary o a b => do
    let m ← value idle a
    let n ← value idle b
    if idle then return n else combine o m n
  | both a b => do
    let m ← value idle a
    let n ← value (idle || m = 0) b
    return Operator.ofBool (m ≠ 0 && n ≠ 0)
  | either a b => do
    let m ← value idle a
    let n ← value (idle || m ≠ 0) b
    return Operator.ofBool (m ≠ 0 || n ≠ 0)
  | choice condition yes no => do
    let m ← value idle condition
    let a ← value (idle || m = 0) yes
    let b ← value (idle || m ≠ 0) no
    return if m ≠ 0 then a else b
  | assign name o e => do
    let n ← value idle e
    if idle then return n
    else
      let n ← match o with
        | none => pure n
        | some o => do combine o (← lookup name) n
      modify fun m => { m with sets := (name, n) :: m.sets }
      return n
  | wrong complaint => throw (.mistake complaint)
  | spoiled e complaint => do
    let _ ← value idle e
    throw (.mistake complaint)

def evaluate (text : String) (values : String → String) :
    Except Fault (Int × List (String × Int)) := do
  let (n, m) ← (value false (parse text.toList)).run { value := values }
  return (n, m.sets)

end Expression

namespace Expression.Fault

def message (text : String) : Fault → String
  | mistake complaint => "arithmetic expression: " ++ complaint ++ ": \"" ++ text ++ "\""
  | illegalNumber value => "Illegal number: " ++ value

end Expression.Fault
end Provision.Shell
