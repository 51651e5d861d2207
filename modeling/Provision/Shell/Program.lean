import Provision.Shell.Token

namespace Provision.Shell

inductive Extent
  | line
  | body
  | enclosed
deriving DecidableEq

/-- A script is read one line after another, as it is done, so what stands before a mistake is done.
Lists and commands hold each other: a grammar knows how to read what is nested less deep than a
bound. -/
structure Grammar where
  list : Extent → Option Script → Reader (Option Script)
  command : Token → Reader Script

def setting? (w : Word) : Option (String × Word) :=
  let name := w.takeWhile (fun p => match p with
    | .char c false => c ≠ '='
    | _ => false)
  match Word.bareText? name, w.drop name.length with
  | some n, .char '=' false :: value => if isName n.toList then some (n, value) else none
  | _, _ => none

def isSpecial (name : String) : Bool :=
  name ∈ [".", ":", "break", "continue", "eval", "exec", "exit", "export", "local", "readonly",
    "return", "set", "shift", "times", "trap", "unset"]

structure Parts where
  sets : List (String × Word) := []
  words : List Word := []
  redirects : List Redirect := []

namespace Parts

def add (p : Parts) (w : Word) : Parts :=
  match p.words, setting? w with
  | [], some s => { p with sets := p.sets ++ [s] }
  | _, _ => { p with words := p.words ++ [w] }

def script (p : Parts) (line : Nat) : Script := .simple line p.sets p.words p.redirects

end Parts

namespace Grammar

def line : Reader Nat := do return (← get).line

def inner (g : Grammar) : Inner := fun closed => do
  let awaited := (← get).awaited
  modify fun r => { r with awaited := [] }
  let c ← g.list .enclosed none
  if closed then
    match (← get).pushed with
    | some (.operator ")") => modify fun r => { r with pushed := none }
    | some t => Token.unexpectedFor t (.operator ")")
    | none => pure ()
  modify fun r => { r with awaited }
  return c.getD .skip

def first (g : Grammar) (overLines : Bool) : Reader Token := Token.first g.inner overLines

def next (g : Grammar) : Reader Token := Token.next g.inner

/-- The next token behind the ends of lines, where a word can be reserved but is no command. -/
def reservedOr (g : Grammar) : Reader Token := Token.reservedOr g.inner true false

def expect (g : Grammar) (wanted : Token) : Reader Unit := do
  let t ← g.next
  if t.describe ≠ wanted.describe then Token.unexpectedFor t wanted

def body (g : Grammar) : Reader Script := do return (← g.list .body none).getD .skip

def redirect (g : Grammar) (descriptor : Nat) (aim : Aim) : Reader Redirect := do
  match aim with
  | .channel c =>
    match ← g.next with
    | .word w => return .to descriptor c w
    | t => Token.unexpected t
  | .document untabbed =>
    match ← Token.take g.inner true with
    | .word w =>
      let r ← get
      let number := r.nextDocument
      let a : Awaited := ⟨number, w.plainText, w.isQuoted, untabbed⟩
      set { r with nextDocument := number + 1, awaited := r.awaited ++ [a] }
      return .document descriptor number
    | t => Token.unexpected t

def redirects (g : Grammar) : (fuel : Nat) → Reader (List Redirect)
  | 0 => pure []
  | fuel + 1 => do
    match ← g.first false with
    | .redirect descriptor aim => return (← g.redirect descriptor aim) :: (← g.redirects fuel)
    | t =>
      Token.putBack t
      return []

def function (g : Grammar) (w : Word) : Reader Script := do
  g.expect (.operator ")")
  match w.bareText? with
  | some name =>
    if isName name.toList && !isSpecial name then
      return .define (← line) name (← g.command (← g.first true))
    else Reader.fail "Syntax error: Bad function name"
  | none => Reader.fail "Syntax error: Bad function name"

def simple (g : Grammar) (start : Nat) : (fuel : Nat) → Parts → Reader Script
  | 0, p => pure (p.script start)
  | fuel + 1, p => do
    match ← Token.next g.inner p.words.isEmpty with
    | .word w => simple g start fuel (p.add w)
    | .redirect descriptor aim =>
      let r ← g.redirect descriptor aim
      simple g start fuel { p with redirects := p.redirects ++ [r] }
    | .operator "(" =>
      match p with
      | ⟨[], [w], []⟩ => g.function w
      | _ =>
        Token.putBack (.operator "(")
        return p.script start
    | t =>
      Token.putBack t
      return p.script start

def branches (g : Grammar) : (fuel : Nat) → Reader Script
  | 0 => pure .skip
  | fuel + 1 => do
    let condition ← g.body
    g.expect (.reserved "then")
    let yes ← g.body
    match ← g.next with
    | .reserved "elif" => return .branch condition yes (some (← g.branches fuel))
    | .reserved "else" =>
      let no ← g.body
      g.expect (.reserved "fi")
      return .branch condition yes (some no)
    | .reserved "fi" => return .branch condition yes none
    | t => Token.unexpectedFor t (.reserved "fi")

def loopBody (g : Grammar) : Reader Script := do
  let c ← g.body
  g.expect (.reserved "done")
  return c

def loop (g : Grammar) (whileOk : Bool) : Reader Script := do
  let condition ← g.body
  g.expect (.reserved "do")
  return .loop whileOk condition (← g.loopBody)

def words (g : Grammar) : (fuel : Nat) → Reader (List Word)
  | 0 => pure []
  | fuel + 1 => do
    match ← g.next with
    | .word w => return w :: (← g.words fuel)
    | .newline =>
      Token.putBack .newline
      return []
    | .operator ";" => return []
    | t => Token.unexpected t

def forEach (g : Grammar) (start : Nat) : Reader Script := do
  let bad {α : Type} : Reader α := Reader.fail "Syntax error: Bad for loop variable"
  let name ← match ← g.next with
    | .word w =>
      match w.bareText? with
      | some name => if isName name.toList then pure name else bad
      | none => bad
    | _ => bad
  let words ← match ← g.first true with
    | .reserved "in" =>
      let ws ← g.words (← Reader.steps)
      pure (some ws)
    | .operator ";" => pure none
    | t =>
      Token.putBack t
      pure none
  match ← g.first true with
  | .reserved "do" => return .forEach start name words (← g.loopBody)
  | t => Token.unexpectedFor t (.reserved "do")

def patterns (g : Grammar) : (fuel : Nat) → Token → Reader (List Word)
  | 0, _ => pure []
  | fuel + 1, t => do
    match ← g.next with
    | .operator "|" => return t.wordOf :: (← g.patterns fuel (← g.next))
    | .operator ")" => return [t.wordOf]
    | other => Token.unexpectedFor other (.operator ")")

def arms (g : Grammar) : (fuel : Nat) → Reader (List (List Word × Script))
  | 0 => pure []
  | fuel + 1 => do
    match ← g.reservedOr with
    | .reserved "esac" => return []
    | t =>
      let t ← match t with
        | .operator "(" => g.next
        | t => pure t
      let patterns ← g.patterns (← Reader.steps) t
      let body := (← g.list .enclosed none).getD .skip
      match ← g.reservedOr with
      | .reserved "esac" => return [(patterns, body)]
      | .operator ";;" => return (patterns, body) :: (← g.arms fuel)
      | t => Token.unexpectedFor t (.operator ";;")

def choice (g : Grammar) (start : Nat) : Reader Script := do
  match ← g.next with
  | .word subject =>
    match ← g.first true with
    | .reserved "in" => return .choice start subject (← g.arms (← Reader.steps))
    | t => Token.unexpectedFor t (.reserved "in")
  | t => Token.unexpectedFor t (.word [])

def redirected (g : Grammar) (start : Nat) (read : Reader Script) : Reader Script := do
  let c ← read
  match c, ← g.redirects (← Reader.steps) with
  | c, [] => return c
  | .subshell line a [], rs => return .subshell line a rs
  | c, rs => return .redirected start c rs

def commandStep (g : Grammar) (t : Token) : Reader Script := do
  let start ← line
  let enclosed (closing : Token) (f : Script → Script) : Reader Script := do
    let c ← g.body
    g.expect closing
    return f c
  match t with
  | .reserved "if" => g.redirected start (do g.branches (← Reader.steps))
  | .reserved "while" => g.redirected start (g.loop true)
  | .reserved "until" => g.redirected start (g.loop false)
  | .reserved "for" => g.redirected start (g.forEach start)
  | .reserved "case" => g.redirected start (g.choice start)
  | .operator "(" => g.redirected start (enclosed (.operator ")") (.subshell start · []))
  | .reserved "\x7b" => g.redirected start (enclosed (.reserved "\x7d") id)
  | .word w =>
    Token.putBack (.word w)
    g.simple start (← Reader.steps) {}
  | .redirect descriptor aim =>
    Token.putBack (.redirect descriptor aim)
    g.simple start (← Reader.steps) {}
  | t => Token.unexpected t

def piped (g : Grammar) : (fuel : Nat) → Token → Reader (List Script)
  | 0, _ => pure []
  | fuel + 1, t => do
    let c ← g.commandStep t
    match ← g.next with
    | .operator "|" => return c :: (← g.piped fuel (← g.first true))
    | t =>
      Token.putBack t
      return [c]

def pipeline (g : Grammar) : Reader Script := do
  let whole (t : Token) : Reader Script := do
    match ← g.piped (← Reader.steps) t with
    | [c] => return c
    | cs => return .pipeline cs
  match ← g.next with
  | .reserved "!" => return .negate (← whole (← g.first false))
  | t => whole t

def alternatives (g : Grammar) : (fuel : Nat) → Script → Reader Script
  | 0, c => pure c
  | fuel + 1, c => do
    let more (f : Script → Script → Script) : Reader Script := do
      Token.putBack (← g.first true)
      g.alternatives fuel (f c (← g.pipeline))
    match ← g.next with
    | .operator "&&" => more .ifOk
    | .operator "||" => more .ifFailed
    | t =>
      Token.putBack t
      return c

def listStep (g : Grammar) (extent : Extent) (before : Option Script) : Reader (Option Script) := do
  let finish (t : Token) : Reader (Option Script) := do
    Awaited.readAll g.inner
    Token.putBack t
    return before
  match ← g.first (extent ≠ .line) with
  | .newline =>
    Awaited.readAll g.inner
    return before
  | .ends => finish .ends
  | t =>
    Token.putBack t
    if t.closesList && (extent = .enclosed || (extent = .body && before.isSome)) then return before
    else
      let c ← g.alternatives (← Reader.steps) (← g.pipeline)
      let joined (c : Script) : Option Script :=
        match before with
        | none => some c
        | some b => some (.andThen b c)
      match ← g.next with
      | .operator "&" => g.list extent (joined (.background c))
      | .operator ";" => g.list extent (joined c)
      | .newline =>
        Token.putBack .newline
        g.list extent (joined c)
      | .ends =>
        Awaited.readAll g.inner
        Token.putBack .ends
        return joined c
      | t =>
        if extent = .line then Token.unexpected t
        else
          Token.putBack t
          return joined c

/-- The grammar of what is nested at most `depth` deep. -/
def ofDepth : (depth : Nat) → Grammar
  | 0 => ⟨fun _ before => pure before, fun _ => pure .skip⟩
  | depth + 1 => ⟨(ofDepth depth).listStep, (ofDepth depth).commandStep⟩

end Grammar

namespace Reading

/-- Reads the commands of the next line that has any; none are left at the end of the text. -/
def nextLine : Reader (Option Script) := do
  modify fun r => { r with pushed := none, awaited := [] }
  let depth := 6 * (← Reader.steps) + 60
  match ← (Grammar.ofDepth depth).list .line none, (← get).pushed with
  | none, some .ends => return none
  | c, _ => return some (c.getD .skip)

end Reading
end Provision.Shell
