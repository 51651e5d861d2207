import Provision.Log.Expression
import Provision.Log.Note
import Provision.Text.Blank

namespace Provision.Log

structure Wanted where
  name : String
  value : Option String
deriving DecidableEq

structure Directive where
  target : Option String := none
  span : Option String := none
  fields : List Wanted := []
  rank : Nat := Level.trace.rank
deriving DecidableEq

def ofDigits? (cs : List Char) : Option Nat :=
  if cs ≠ [] ∧ cs.all Char.isDigit then some (cs.foldl (fun n c => 10 * n + (c.toNat - 48)) 0)
  else none

/-- A level's number; a plus and zeros may stand before it. -/
def number? (word : String) : Option Nat :=
  match word.toList with
  | '+' :: cs => ofDigits? cs
  | cs => ofDigits? cs

/-- A level word or number, with zero for none at all. -/
def rank? (word : String) : Option Nat :=
  match number? word, String.ofList (word.toList.map Text.lower) with
  | some n, _ => if n ≤ Level.trace.rank then some n else none
  | none, "off" => some 0
  | none, "error" => some Level.error.rank
  | none, "warn" => some Level.warn.rank
  | none, "info" => some Level.info.rank
  | none, "debug" => some Level.debug.rank
  | none, "trace" => some Level.trace.rank
  | none, _ => none

def isPositiveNumber (text : String) : Bool :=
  match text.toList with
  | '+' :: cs =>
    let whole := cs.takeWhile Char.isDigit
    let rest := cs.drop whole.length
    let (fraction, rest) := match rest with
      | '.' :: r => (r.takeWhile Char.isDigit, r.dropWhile Char.isDigit)
      | r => ([], r)
    let exponentFits := match rest with
      | [] => true
      | e :: '-' :: r | e :: '+' :: r => (e = 'e' || e = 'E') && r ≠ [] && r.all Char.isDigit
      | e :: r => (e = 'e' || e = 'E') && r ≠ [] && r.all Char.isDigit
    ["inf", "infinity", "nan"].contains (String.ofList (cs.map Text.lower)) ||
      ((whole ≠ [] || fraction ≠ []) && exponentFits)
  | _ => false

/-- Reads a field: a name, or a name and a value, which is a number or a regular expression. -/
def Wanted.parse? (text : String) : Option Wanted :=
  if text = "" then none
  else match text.splitOn "=" with
    | name :: value :: _ =>
      if isPositiveNumber value || Expression.isWellFormed value then some ⟨name, some value⟩
      else none
    | parts => some ⟨parts.headD "", none⟩

def cut? (text : String) (start stop : Nat) : Option String :=
  String.fromUTF8? (text.toUTF8.extract start stop)

namespace Directive

inductive Stage
  | start
  | word (first : Nat)
  | span (first : Nat)
  | field (first : Nat)
  | fields
  | chosen
  | level (first : Nat)
deriving DecidableEq

def isFirst (c : Char) : Bool := Text.isAlphanumeric c || c = '-' || c = ':' || c = '_'

def step (text : String) (d : Directive) (stage : Stage) (place : Nat) (c : Char) :
    Option (Directive × Stage) :=
  match stage, c with
  | .start, '[' => some (d, .span (place + 1))
  | .start, c => if isFirst c then some (d, .word place) else none
  | .word first, '=' => (cut? text first place).map ({ d with target := · }, .level (place + 1))
  | .word first, '[' => (cut? text first place).map ({ d with target := · }, .span (place + 1))
  | .span first, ']' => (cut? text first place).map ({ d with span := · }, .chosen)
  | .span first, '\x7b' => (cut? text first place).map (fun s =>
      ({ d with span := if s = "" then none else some s }, .field (place + 1)))
  | .field first, '\x7d' => ((cut? text first place).bind Wanted.parse?).map (fun f =>
      ({ d with fields := d.fields ++ [f] }, .fields))
  | .fields, ']' => some (d, .chosen)
  | .chosen, '=' => some (d, .level (place + 1))
  | .fields, _ | .chosen, _ => none
  | stage, _ => some (d, stage)

def close (text : String) (d : Directive) : Stage → Option Directive
  | .word first => (cut? text first text.utf8ByteSize).map (fun word =>
      match rank? word with
      | some rank => { d with rank }
      | none => { d with target := word })
  | .level first => (cut? text first text.utf8ByteSize).bind (fun word =>
      if word = "" then some d else (rank? word).map ({ d with rank := · }))
  | .chosen => some d
  | .start | .span _ | .field _ | .fields => none

def read (text : String) (d : Directive) (stage : Stage) (place : Nat) :
    List Char → Option Directive
  | [] => close text d stage
  | c :: cs =>
    match step text d stage place c with
    | some (d, stage) => read text d stage (place + c.utf8Size) cs
    | none => none

/-- Reads one directive. The places of its parts are found without the blanks around it, but the
parts are cut out of the whole text. -/
def parse? (text : String) : Option Directive := read text {} .start 0 (Text.trim text).toList

/-- Whether it speaks of notes themselves; spans and values are known of no note. -/
def isOfNotes (d : Directive) : Bool := d.span.isNone && d.fields.all (·.value.isNone)

/-- Whether it speaks of a note: by the start of its target and by the fields that it has. -/
def fits (d : Directive) (n : Note) : Bool :=
  (d.target.getD "").toList.isPrefixOf n.area.target.toList &&
    d.fields.all (fun f => f.name ∈ n.fieldNames)

/-- How specific it is: by its target first, and then by the number and the names of its fields. -/
def precision (d : Directive) : Nat × Nat × List String :=
  (match d.target with
    | some t => t.utf8ByteSize + 1
    | none => 0, d.fields.length, d.fields.map (·.name))

def yieldsTo (d e : Directive) : Bool :=
  let (t, n, names) := d.precision
  let (t', n', names') := e.precision
  t < t' || (t = t' && (n < n' || (n = n' && !names'.lex names (· < ·))))

end Directive

/-- Directives between commas, each a level, a target with a level behind an equals sign, or a
target alone; in brackets a directive may ask for a span and for fields. Of the directives that fit
a note the most specific one decides. -/
abbrev Filter := List Directive

namespace Filter

/-- Reads a filter; nothing at all between two commas is passed over. -/
def parse? (text : String) : Option Filter :=
  ((text.splitOn ",").filter (· ≠ "")).mapM Directive.parse?

/-- The filter where none is given, by the number of times more detail was asked for. -/
def default (verbose : Nat) : Filter :=
  let level : Level := match verbose with
    | 0 => .info
    | 1 => .debug
    | _ => .trace
  [{ target := "bastion_dev", rank := level.rank }]

def chosen (given : Option String) (verbose : Nat) : Filter :=
  (given.bind parse?).getD (default verbose)

/-- The directive that decides on a note; of two that are equally specific the later one. -/
def decisive? (f : Filter) (n : Note) : Option Directive :=
  let better (best : Option Directive) (d : Directive) : Option Directive :=
    match best with
    | some b => if b.yieldsTo d then some d else some b
    | none => some d
  (f.filter (fun d => d.isOfNotes && d.fits n)).foldl better none

def rankFor (f : Filter) (n : Note) : Nat :=
  if f.isEmpty then Level.error.rank
  else match f.decisive? n with
    | some d => d.rank
    | none => 0

def shows (f : Filter) (n : Note) : Bool := n.level.rank ≤ f.rankFor n

end Filter
end Provision.Log
