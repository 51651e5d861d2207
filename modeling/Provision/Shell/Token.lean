import Provision.Shell.Script

namespace Provision.Shell

structure Mistake where
  line : Nat
  complaint : String

inductive Aim
  | channel (c : Channel)
  | document (untabbed : Bool)

inductive Token
  | ends
  | newline
  | operator (text : String)
  | redirect (descriptor : Nat) (aim : Aim)
  | reserved (text : String)
  | word (w : Word)

/-- A text in the script that a redirection has asked for and that has not come yet. -/
structure Awaited where
  number : Nat
  mark : String
  plain : Bool
  untabbed : Bool

/-- A name whose meaning is read in its place. -/
structure Standing where
  name : String
  behind : Nat
  blank : Bool

structure Reading where
  rest : List Char
  line : Nat := 1
  aliases : List (String × String) := []
  standing : List Standing := []
  awaited : List Awaited := []
  documents : List (Nat × Word) := []
  nextDocument : Nat := 0
  pushed : Option Token := none

abbrev Reader := StateT Reading (Except Mistake)

def isNameStart (c : Char) : Bool := c.isAlpha || c = '_'

def isNameChar (c : Char) : Bool := c.isAlphanum || c = '_'

def isName (cs : List Char) : Bool :=
  match cs with
  | [] => false
  | c :: rest => isNameStart c && rest.all isNameChar

def ofDigits (cs : List Char) : Nat := cs.foldl (fun n c => 10 * n + (c.toNat - 48)) 0

namespace Token

def reservedWords : List String :=
  ["!", "case", "do", "done", "elif", "else", "esac", "fi", "for", "if", "in", "then", "until",
    "while", "\x7b", "\x7d"]

def describe : Token → String
  | ends => "end of file"
  | newline => "newline"
  | operator text | reserved text => "\"" ++ text ++ "\""
  | redirect _ _ => "redirection"
  | word _ => "word"

def closesList : Token → Bool
  | ends => true
  | operator text => text = ")" || text = ";;"
  | reserved text => text ∈ ["do", "done", "elif", "else", "esac", "fi", "then", "\x7d"]
  | _ => false

/-- The word of a token, whatever its meaning is. -/
def wordOf : Token → Word
  | word w => w
  | operator text | reserved text => text.toList.map (.char · false)
  | _ => []

end Token

namespace Reader

variable {α : Type}

def fail (complaint : String) : Reader α := do throw ⟨(← get).line, complaint⟩

def peek? : Reader (Option Char) := do return (← get).rest.head?

def step (r : Reading) : Reading :=
  match r.rest with
  | [] => r
  | c :: rest => { r with rest, line := if c = '\n' then r.line + 1 else r.line }

def skip : Reader Unit := modify step

def take? : Reader (Option Char) := do
  let c ← peek?
  skip
  return c

def behindJoins : List Char → Nat × List Char
  | '\\' :: '\n' :: rest =>
    let (n, behind) := behindJoins rest
    (n + 1, behind)
  | cs => (0, cs)

def join : Reader Unit := modify fun r =>
  let (n, rest) := behindJoins r.rest
  { r with rest, line := r.line + n }

def peekJoined? : Reader (Option Char) := do
  join
  peek?

def takeJoined? : Reader (Option Char) := do
  join
  take?

def spell (fits : Char → Bool) : (fuel : Nat) → Reader (List Char)
  | 0 => pure []
  | fuel + 1 => do
    match ← peekJoined? with
    | some c =>
      if fits c then
        skip
        return c :: (← spell fits fuel)
      else return []
    | none => return []

def name : Reader (List Char) := do spell isNameChar ((← get).rest.length + 1)

def digits : Reader (List Char) := do spell Char.isDigit ((← get).rest.length + 1)

/-- The next character, lines joined; the end of a line is taken as if it were none. -/
def takeUncounted? : Reader (Option Char) := do
  let c ← peekJoined?
  modify fun r => { r with rest := r.rest.drop 1 }
  return c

def steps : Reader Nat := do
  let r ← get
  return (r.rest.length + 2) * (1 + (r.aliases.map (·.2.length)).foldl (· + ·) 0)

def within (text : List Char) (line : Nat) (read : Reader α) : Reader α := do
  let before ← get
  set { before with rest := text, line, standing := [], awaited := [], pushed := none }
  let a ← read
  modify fun r => { before with documents := r.documents, nextDocument := r.nextDocument }
  return a

end Reader

/-- What characters are read for: a mode says what ends a word, and which characters keep their
meaning in it. -/
inductive Mode
  | bare
  /-- For the mark of a text in the script, in which nothing is expanded. -/
  | mark
  | double
  | braces
  | quotedBraces
  | quotesInBraces
  | document
  | arithmetic
deriving DecidableEq

namespace Mode

def isQuoted (m : Mode) : Bool := m ≠ bare && m ≠ mark && m ≠ braces

def isEscapable (m : Mode) (c : Char) : Bool :=
  c = '\\' || c = '\x60' || c = '$' || (c = '"' && m ≠ document) ||
    (c = '\x7d' && (m = quotedBraces || m = quotesInBraces))

def missing? : Mode → Option String
  | bare | mark | document => none
  | double | quotedBraces | quotesInBraces => some "Syntax error: Unterminated quoted string"
  | braces => some "Syntax error: Missing '\x7d'"
  | arithmetic => some "Syntax error: Missing '))'"

def inBraces (m : Mode) : Mode := if m.isQuoted then quotedBraces else braces

end Mode

def endsWord (c : Char) : Bool :=
  c = ' ' || c = '\t' || c = '\n' || c = ';' || c = '&' || c = '|' || c = '<' || c = '>' ||
    c = '(' || c = ')'

def signParameter? (c : Char) : Option Parameter :=
  match c with
  | '@' => some .each
  | '*' => some .joined
  | '#' => some .count
  | '?' => some .status
  | '$' => some .self
  | '!' => some .lastJob
  | '-' => some .switches
  | _ => none

def digitParameter? (c : Char) : Option Parameter :=
  if c.isDigit then some (.position (c.toNat - 48)) else signParameter? c

/-- Between double quotes, a word of all arguments can come to no word at all; any other comes to
one at least. -/
def quotedSection (w : Word) : Word :=
  match w with
  | [.value .each .none _] => w
  | w => .nothing :: w

/-- How the inside of an expansion is read: a script up to what closes it, or to its end. -/
abbrev Inner := (closed : Bool) → Reader Script

namespace Word

def single : (fuel : Nat) → Reader Word
  | 0 => pure []
  | fuel + 1 => do
    match ← Reader.take? with
    | none => Reader.fail "Syntax error: Unterminated quoted string"
    | some '\'' => return []
    | some c => return .char c true :: (← single fuel)

def backquoted (quoted : Bool) : (fuel : Nat) → Reader (List Char)
  | 0 => pure []
  | fuel + 1 => do
    match ← Reader.take? with
    | none => Reader.fail "Syntax error: EOF in backquote substitution"
    | some '\x60' => return []
    | some '\\' =>
      match ← Reader.takeJoined? with
      | none => Reader.fail "Syntax error: EOF in backquote substitution"
      | some c =>
        let rest ← backquoted quoted fuel
        let bare := c = '\\' || c = '\x60' || c = '$' || (c = '"' && quoted)
        return if bare then c :: rest else '\\' :: c :: rest
    | some c => return c :: (← backquoted quoted fuel)

/-- How characters are read on in a mode: so many parentheses deep, behind a word in reverse. -/
abbrev Rest := Mode → (depth : Nat) → Word → Reader Word

def modifier (rest : Rest) (mode : Mode) : Reader Modifier := do
  let inside : Reader Word := rest mode.inBraces 0 []
  let bad : Reader Modifier := do
    let _ ← inside
    return .bad
  let cut (atFront : Bool) (sign : Char) : Reader Modifier := do
    let longest := (← Reader.peekJoined?) = some sign
    if longest then Reader.skip
    return .cut atFront longest (← rest .braces 0 [])
  let instead (ofEmpty : Bool) : Option Char → Reader Modifier
    | some '-' => return .instead .use ofEmpty (← inside)
    | some '+' => return .instead .replace ofEmpty (← inside)
    | some '=' => return .instead .assign ofEmpty (← inside)
    | some '?' => return .instead .refuse ofEmpty (← inside)
    | _ => bad
  match ← Reader.takeUncounted? with
  | some '\x7d' => return .none
  | some ':' => instead true (← Reader.takeUncounted?)
  | some '#' => cut true '#'
  | some '%' => cut false '%'
  | c => instead false c

def braced (rest : Rest) (mode : Mode) : Reader Piece := do
  let quoted := mode.isQuoted
  let bad : Reader Piece := do
    let _ ← rest mode.inBraces 0 []
    return .value .count .bad quoted
  let measured (p : Parameter) : Reader Piece := do
    if (← Reader.peekJoined?) = some '\x7d' then
      Reader.skip
      return .value p .length quoted
    else bad
  let changed (p : Parameter) : Reader Piece := do return .value p (← modifier rest mode) quoted
  match ← Reader.peekJoined? with
  | none | some '\x7d' => bad
  | some '#' =>
    Reader.skip
    match ← Reader.peekJoined? with
    | some c =>
      if isNameStart c then measured (.variable (String.ofList (← Reader.name)))
      else if c.isDigit then measured (.position (ofDigits (← Reader.digits)))
      else
        let before ← get
        Reader.skip
        match signParameter? c, ← Reader.peekJoined? with
        | some p, some '\x7d' => measured p
        | _, _ =>
          set before
          changed .count
    | none => bad
  | some c =>
    if isNameStart c then changed (.variable (String.ofList (← Reader.name)))
    else if c.isDigit then changed (.position (ofDigits (← Reader.digits)))
    else
      let _ ← Reader.takeUncounted?
      match signParameter? c with
      | some p => changed p
      | none => bad

/-- Reads what follows a dollar sign; before anything else it stands for itself. -/
def dollar (inner : Inner) (rest : Rest) (mode : Mode) : Reader Piece := do
  let quoted := mode.isQuoted
  match ← Reader.peekJoined? with
  | some '(' =>
    Reader.skip
    if (← Reader.peekJoined?) = some '(' then
      Reader.skip
      return .number (← rest .arithmetic 0 []) quoted
    else return .output (← inner true) quoted
  | some '\x7b' =>
    Reader.skip
    braced rest mode
  | some c =>
    if isNameStart c then return .value (.variable (String.ofList (← Reader.name))) .none quoted
    else
      match digitParameter? c with
      | some p =>
        Reader.skip
        return .value p .none quoted
      | none => return .char '$' quoted
  | none => return .char '$' quoted

def escaped (mode : Mode) : Reader Word := do
  match ← Reader.take? with
  | none => return [.char '\\' true]
  | some '\n' => return []
  | some c =>
    if mode.isQuoted && !mode.isEscapable c then return [.char '\\' true, .char c true]
    else return [.char c true]

def read (inner : Inner) : (fuel : Nat) → Rest
  | 0 => fun _ _ w => pure w.reverse
  | fuel + 1 => fun mode depth w => do
    let rest := read inner fuel
    let add (more : Word) : Reader Word := rest mode depth (more.reverse ++ w)
    let literal (c : Char) : Reader Word := do
      Reader.skip
      add [.char c mode.isQuoted]
    match ← Reader.peek? with
    | none =>
      match mode.missing? with
      | some complaint => Reader.fail complaint
      | none => return w.reverse
    | some c =>
      if (mode = .bare || mode = .mark) && endsWord c then return w.reverse
      else if c = '\\' then
        Reader.skip
        add (← escaped mode)
      else if c = '\'' && !mode.isQuoted then
        Reader.skip
        let inside ← single ((← get).rest.length + 1)
        add (.nothing :: inside)
      else if c = '"' then
        match mode with
        | .double | .quotesInBraces =>
          Reader.skip
          return w.reverse
        | .document | .arithmetic => literal c
        | .quotedBraces =>
          Reader.skip
          add (← rest .quotesInBraces 0 [])
        | _ =>
          Reader.skip
          add (quotedSection (← rest .double 0 []))
      else if c = '\x7d' && (mode = .braces || mode = .quotedBraces) then
        Reader.skip
        return w.reverse
      else if c = '$' && mode ≠ .mark then
        Reader.skip
        add [← dollar inner rest mode]
      else if c = '\x60' && mode ≠ .mark then
        Reader.skip
        let text ← backquoted mode.isQuoted ((← get).rest.length + 1)
        let script ← Reader.within text 1 (inner false)
        add [.output script mode.isQuoted]
      else if mode = .arithmetic && c = '(' then
        Reader.skip
        rest mode (depth + 1) (.char c true :: w)
      else if mode = .arithmetic && c = ')' then
        Reader.skip
        if 0 < depth then rest mode (depth - 1) (.char c true :: w)
        else if (← Reader.peekJoined?) = some ')' then
          Reader.skip
          return w.reverse
        else add [.char c true]
      else literal c

def readAll (inner : Inner) (mode : Mode) : Reader Word := do
  read inner (2 * (← get).rest.length + 2) mode 0 []

end Word

namespace Awaited

def joinsNext (line : List Char) : Bool := (line.reverse.takeWhile (· = '\\')).length % 2 = 1

/-- Cuts a text before the line that is the mark, of which at most `fuel` lines are looked at;
returns what stands before that line, the number of lines and the text behind. -/
def cut (a : Awaited) : (fuel : Nat) → (joined : Bool) → List Char → List Char × Nat × List Char
  | 0, _, cs => ([], 0, cs)
  | _ + 1, _, [] => ([], 0, [])
  | fuel + 1, joined, cs =>
    let line := cs.takeWhile (· ≠ '\n')
    let behind := cs.drop (line.length + 1)
    let shown := if a.untabbed && !joined then line.dropWhile (· = '\t') else line
    if !joined && String.ofList shown = a.mark then ([], 1, behind)
    else
      let (text, n, rest) := a.cut fuel (!a.plain && joinsNext line) behind
      let ending := if line.length < cs.length then ['\n'] else []
      (shown ++ ending ++ text, n + 1, rest)

def read (inner : Inner) (a : Awaited) : Reader Unit := do
  let r ← get
  let (text, lines, rest) := a.cut (r.rest.length + 1) false r.rest
  let word ← if a.plain then pure (text.map (Piece.char · true))
    else Reader.within text r.line (Word.readAll inner .document)
  modify fun r =>
    { r with rest, line := r.line + lines, documents := (a.number, word) :: r.documents }

def readAll (inner : Inner) : Reader Unit := do
  let awaited := (← get).awaited
  modify fun r => { r with awaited := [] }
  awaited.forM (read inner)

end Awaited

namespace Token

def aim (sign : Char) : Reader Aim := do
  let next ← Reader.peekJoined?
  let taken (a : Aim) : Reader Aim := do
    Reader.skip
    return a
  match sign, next with
  | '>', some '>' => taken (.channel .append)
  | '>', some '|' => taken (.channel .clobber)
  | '>', some '&' => taken (.channel .duplicate)
  | '>', _ => return .channel .overwrite
  | _, some '<' =>
    Reader.skip
    if (← Reader.peekJoined?) = some '-' then taken (.document true) else return .document false
  | _, some '&' => taken (.channel .duplicate)
  | _, some '>' => taken (.channel .readWrite)
  | _, _ => return .channel .read

def descriptor? : Word → Option (Option Nat)
  | [] => some none
  | [.char c false] => if c.isDigit then some (some (c.toNat - 48)) else none
  | _ => none

def wordOrRedirect (inner : Inner) (forMark : Bool) : Reader Token := do
  let w ← Word.readAll inner (if forMark then .mark else .bare)
  match ← Reader.peek?, descriptor? w with
  | some c, some descriptor =>
    if c = '<' || c = '>' then
      Reader.skip
      let usual := if c = '>' then 1 else 0
      return .redirect (descriptor.getD usual) (← aim c)
    else return .word w
  | _, _ => return .word w

def doubled (c : Char) : Reader Token := do
  if (← Reader.peekJoined?) = some c then
    Reader.skip
    return .operator (String.ofList [c, c])
  else return .operator (String.singleton c)

def read (inner : Inner) (forMark : Bool) : (fuel : Nat) → Reader Token
  | 0 => pure .ends
  | fuel + 1 => do
    match ← Reader.peekJoined? with
    | none => return .ends
    | some c =>
      if c = ' ' || c = '\t' then
        Reader.skip
        read inner forMark fuel
      else if c = '#' then
        modify fun r => { r with rest := r.rest.dropWhile (· ≠ '\n') }
        read inner forMark fuel
      else if c = '\n' then
        Reader.skip
        return .newline
      else if c = '&' || c = '|' || c = ';' then
        Reader.skip
        doubled c
      else if c = '(' || c = ')' then
        Reader.skip
        return .operator (String.singleton c)
      else wordOrRedirect inner forMark

def take (inner : Inner) (forMark : Bool) : Reader Token := do
  let r ← get
  match r.pushed with
  | some t =>
    set { r with pushed := none }
    return t
  | none => read inner forMark (r.rest.length + 1)

def putBack (t : Token) : Reader Unit := modify fun r => { r with pushed := some t }

def takeBehindLines (inner : Inner) : (fuel : Nat) → Reader Token
  | 0 => pure .ends
  | fuel + 1 => do
    match ← take inner false with
    | .newline =>
      Awaited.readAll inner
      takeBehindLines inner fuel
    | t => return t

def asReserved : Token → Token
  | word w =>
    match w.bareText? with
    | some text => if text ∈ reservedWords then reserved text else word w
    | none => word w
  | t => t

/-- Passes what names stand for once it has been read to its end; whether such an end with a blank
was passed since so many characters were left. -/
def passStanding (before : Nat) : Reader Bool := do
  let r ← get
  let (inside, passed) := r.standing.partition (·.behind ≤ r.rest.length)
  set { r with standing := inside }
  return passed.any (fun s => s.blank && s.behind ≤ before)

/-- Puts what a name stands for before the rest of the text, unless it is read already. -/
def stand (name : String) : Reader Bool := do
  let r ← get
  match r.aliases.lookup name with
  | none => return false
  | some meaning =>
    if r.standing.any (·.name = name) then return false
    else
      let cs := meaning.toList
      let blank := cs.getLast?.any (fun c => c = ' ' || c = '\t')
      let standing := if cs.isEmpty then r.standing
        else ⟨name, r.rest.length, blank⟩ :: r.standing
      set { r with rest := cs ++ r.rest, standing }
      return true

def named (take : Reader Token) : (fuel : Nat) → (starts : Bool) → Reader Token
  | 0, _ => take
  | fuel + 1, starts => do
    let before := (← get).rest.length
    let t ← take
    let starts := (← passStanding before) || starts
    match t with
    | word w =>
      match if starts then w.bareText? else none with
      | some text => if ← stand text then named take fuel starts else return t
      | none => return t
    | t => return t

def reservedOr (inner : Inner) (overLines starts : Bool) : Reader Token := do
  let take : Reader Token :=
    if overLines then do takeBehindLines inner ((← get).rest.length + 2) else take inner false
  named (do return (← take).asReserved) (← Reader.steps) starts

def first (inner : Inner) (overLines : Bool) : Reader Token := reservedOr inner overLines true

/-- The next token inside a command; `starts` says that it may be the command's name. -/
def next (inner : Inner) (starts : Bool := false) : Reader Token := do
  named (take inner false) (← Reader.steps) starts

def unexpected {α : Type} (t : Token) : Reader α :=
  Reader.fail ("Syntax error: " ++ t.describe ++ " unexpected")

def unexpectedFor {α : Type} (t wanted : Token) : Reader α :=
  Reader.fail
    ("Syntax error: " ++ t.describe ++ " unexpected (expecting " ++ wanted.describe ++ ")")

end Token
end Provision.Shell
