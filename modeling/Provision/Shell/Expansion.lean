import Provision.Shell.Arithmetic
import Provision.Shell.Interpreter

namespace Provision.Shell

namespace Parameter

def text : Parameter → String
  | .variable name => name
  | .position n => toString n
  | .each => "@"
  | .joined => "*"
  | .count => "#"
  | .status => "?"
  | .self => "$"
  | .lastJob => "!"
  | .switches => "-"

end Parameter

def homes : List (String × String) := [("root", "/root"), ("nobody", "/nonexistent")]

inductive Tilde
  | nowhere
  | atStart
  | inValue
deriving DecidableEq

namespace Word

def homeOf? (home : Option String) (name : String) : Option String :=
  if name = "" then home else homes.lookup name

def expandTilde (stops : List Char) (home : Option String) (w : Word) : Word :=
  match w with
  | .char '~' false :: rest =>
    let name := rest.takeWhile (fun p => match p with
      | .char c false => !stops.contains c
      | _ => false)
    let ends := match rest.drop name.length with
      | [] | .char _ false :: _ => true
      | _ => false
    match bareText? name with
    | some n =>
      match homeOf? home n with
      | some dir =>
        if ends then dir.toList.map (Piece.char · true) ++ rest.drop name.length else w
      | none => w
    | none => w
  | w => w

def expandTildes (home : Option String) : (fuel : Nat) → Word → Word
  | 0, w => w
  | fuel + 1, w =>
    let w := expandTilde ['/', ':'] home w
    let first := w.takeWhile (fun p => match p with
      | .char ':' false => false
      | _ => true)
    match w.drop first.length with
    | colon :: rest => first ++ colon :: expandTildes home fuel rest
    | [] => first

def withHomes (t : Tilde) (home : Option String) (w : Word) : Word :=
  match t with
  | .nowhere => w
  | .atStart => expandTilde ['/'] home w
  | .inValue => expandTildes home (w.length + 1) w

end Word

namespace State

def switchLetters : List Char :=
  ['e', 'f', 'I', 'i', 'm', 'n', 's', 'x', 'v', 'V', 'E', 'C', 'a', 'b', 'u']

def separators (s : State) : List Char := ((s.value? "IFS").getD " \t\n").toList

def joint (s : State) : String :=
  match s.value? "IFS" with
  | none => " "
  | some separators => String.ofList (separators.toList.take 1)

def processNumber : String := "1"

def held? (s : State) : Parameter → Option String
  | .variable name => s.value? name
  | .position 0 => some s.name
  | .position (n + 1) => s.args[n]?
  | .each | .joined => some (String.intercalate s.joint s.args)
  | .count => some (toString s.args.length)
  | .status => some (toString s.status)
  | .self => some processNumber
  | .lastJob => if s.jobs.isEmpty then none else some (toString (s.jobs.length + 1))
  | .switches => some (String.ofList (switchLetters.reverse.filter (s.switches.contains ·)))

/-- The arguments, where a parameter keeps them apart. -/
def apart? (s : State) (splits quoted : Bool) (p : Parameter) : Option (List String) :=
  match p, quoted with
  | .each, true => if splits then some s.args else none
  | .each, false | .joined, false =>
    if splits && (s.value? "IFS").isSome then some s.args else none
  | _, _ => none

def glyphsOf (quoted : Bool) (texts : List String) : List Glyph :=
  let one (text : String) : List Glyph :=
    if quoted then .mark :: Glyph.ofQuoted text else Glyph.ofLoose text
  ((texts.map one).intersperse [.boundary]).flatten

/-- The glyphs of a parameter whose value is not changed. -/
def shown (s : State) (splits quoted : Bool) (p : Parameter) : List Glyph :=
  match s.apart? splits quoted p with
  | some texts => glyphsOf quoted texts
  | none => Glyph.ofValue quoted ((s.held? p).getD "")

def shownCut (s : State) (splits quoted : Bool) (p : Parameter) (cut : List Char → List Char) :
    List Glyph :=
  match s.apart? splits quoted p with
  | some texts =>
    let divider := String.singleton Pattern.divider
    let left := String.ofList (cut (String.intercalate divider texts).toList)
    glyphsOf quoted (left.splitOn divider)
  | none =>
    match s.held? p with
    | some value => Glyph.ofValue quoted (String.ofList (cut value.toList))
    | none => []

end State

namespace Interpreter

def tilded (t : Tilde) (w : Word) : Doing Word := do return w.withHomes t ((← get).value? "HOME")

/-- The text that a word comes to where it is not split. -/
def plain (i : Interpreter) (t : Tilde) (w : Word) : Doing String := do
  return Glyph.text (← i.glyphs false (← tilded t w))

def pattern (i : Interpreter) (w : Word) : Doing Pattern := do
  return Glyph.pattern (← i.glyphs false (← tilded .atStart w))

def fields (i : Interpreter) (w : Word) : Doing (List String) := do
  let gs ← i.glyphs true (← tilded .atStart w)
  let s ← get
  let words := Glyph.split s.separators gs
  return words.flatMap (if s.has 'f' then ([Glyph.text ·]) else Glyph.spread s.fs)

def output (i : Interpreter) (c : Script) : Doing String := do
  let number := (← get).fresh
  let ending ← i.apart do
    modify fun s => { s.setPort 1 (some (.sink number)) with fresh := number + 1 }
    i.run { last := true } c
  let status := (← get).status
  awaited ending
  let s ← get
  set { s.dropSink number with status, outputStatus := s.status }
  return String.ofList ((s.gathered number).reverse.dropWhile (· = '\n')).reverse

def number (i : Interpreter) (expression : Word) : Doing String := do
  let text ← i.plain .nowhere expression
  let s ← get
  match Expression.evaluate text (fun name => (s.value? name).getD "") with
  | .error e => Doing.fail (e.message text)
  | .ok (n, sets) =>
    sets.reverse.forM (fun (name, value) => Doing.setVar name (toString value))
    return toString n

/-- Refuses a parameter that is not set. -/
def missing {α : Type} (p : Parameter) : Doing α :=
  Doing.fail (p.text ++ ": parameter not set")

/-- Refuses a parameter that is not set, where that is asked for. -/
def checkSet (p : Parameter) : Doing Unit := do
  let s ← get
  if s.has 'u' && (s.held? p).isNone then missing p

def instead (i : Interpreter) (splits quoted : Bool) (p : Parameter) (kind : Instead)
    (ofEmpty : Bool) (word : Word) : Doing (List Glyph) := do
  let s ← get
  let present := (s.held? p).any (fun v => !(ofEmpty && v = ""))
  let other : Doing (List Glyph) := do
    let gs ← i.glyphs splits (← tilded .atStart word)
    return if quoted then gs else gs.map Glyph.loosen
  match kind with
  | .use => if present then return s.shown splits quoted p else other
  | .replace => if present then other else return []
  | .assign =>
    if present then return s.shown splits quoted p
    else
      Doing.setVar p.text (← i.plain .atStart word)
      return (← get).shown splits quoted p
  | .refuse =>
    if present then return s.shown splits quoted p
    else
      let reason ← i.plain .atStart word
      let usual := "parameter not set" ++ (if ofEmpty then " or null" else "")
      Doing.fail (p.text ++ ": " ++ (if word.isEmpty then usual else reason))

def value (i : Interpreter) (splits quoted : Bool) (p : Parameter) (m : Modifier) :
    Doing (List Glyph) := do
  match m with
  | .none =>
    checkSet p
    return (← get).shown splits quoted p
  | .length =>
    checkSet p
    return Glyph.ofValue quoted (toString (((← get).held? p).getD "").length)
  | .instead kind ofEmpty word => i.instead splits quoted p kind ofEmpty word
  | .cut atFront longest word =>
    checkSet p
    if ((← get).held? p).isNone then return []
    else
      let pattern ← i.pattern word
      let cut := if atFront then pattern.cutFront longest else pattern.cutBack longest
      return (← get).shownCut splits quoted p cut
  | .bad => Doing.fail "Bad substitution"

def piece (i : Interpreter) (splits : Bool) : Piece → Doing (List Glyph)
  | .char c quoted => return [if quoted then .quoted c else .bare c]
  | .nothing => return [.mark]
  | .value p m quoted => i.value splits quoted p m
  | .output c quoted => return Glyph.ofValue quoted (← i.output c)
  | .number e quoted => return Glyph.ofValue quoted (← i.number e)

def glyphsStep (i : Interpreter) (splits : Bool) (w : Word) : Doing (List Glyph) := do
  return (← w.mapM (i.piece splits)).flatten

end Interpreter
end Provision.Shell
