import Provision.Toml.Number

namespace Provision.Toml

def update (key : String) (f : Option Value → Option Value) : Entries → Option Entries
  | [] => (f none).map (fun v => [(key, v)])
  | (k, v) :: rest =>
    if k = key then (f (some v)).map (fun v => (k, v) :: rest)
    else (update key f rest).map ((k, v) :: ·)

def updateLast (f : Origin → Entries → Option Entries) : List Value → Option (List Value)
  | [] => none
  | [.table origin es] => (f origin es).map (fun es => [.table origin es])
  | [_] => none
  | v :: rest => (updateLast f rest).map (v :: ·)

/-- Changes the table at the end of a path, making the tables on the way that are missing. A dotted
path does not lead through a table that has a header. -/
def descend (dotted : Bool) :
    List String → (Origin → Entries → Option Entries) → Origin → Entries → Option Entries
  | [], f, origin, es => f origin es
  | key :: path, f, _, es =>
    let made := if dotted then Origin.dotted else .implied
    update key (fun
      | none => (descend dotted path f made []).map (.table made)
      | some (.table .braces _) => none
      | some (.table origin es) =>
        if dotted && origin = .header then none
        else (descend dotted path f origin es).map (.table origin)
      | some (.array true items) => (updateLast (descend dotted path f) items).map (.array true)
      | some _ => none) es

def insertNew (key : String) (v : Value) : Entries → Option Entries :=
  update key (fun
    | none => some v
    | some _ => none)

def insertKey (key : List String) (v : Value) (origin : Origin) (es : Entries) : Option Entries :=
  match key.getLast? with
  | none => none
  | some last =>
    let path := key.dropLast
    descend true path (fun origin es =>
      if decide (origin = .dotted) = path.isEmpty then none else insertNew last v es) origin es

def readItems (item : Reader Value) : (fuel : Nat) → (read : List Value) → Reader (List Value)
  | 0, _, _ => none
  | fuel + 1, read, s => do
    match ← skipSpace s with
    | ']' :: rest => pure (read.reverse, rest)
    | s =>
      let (v, s) ← item s
      match ← skipSpace s with
      | ',' :: rest => readItems item fuel (v :: read) rest
      | ']' :: rest => pure ((v :: read).reverse, rest)
      | _ => none

def readPairs (item : Reader Value) : (fuel : Nat) → Entries → Reader Entries
  | 0, _, _ => none
  | fuel + 1, es, s => do
    let (key, s) ← readKey s
    match s with
    | '=' :: s =>
      let (v, s) ← item (skipBlanks s)
      let es ← insertKey key v .braces es
      match skipBlanks s with
      | ',' :: rest => readPairs item fuel es rest
      | '}' :: rest => pure (es, rest)
      | _ => none
    | _ => none

def readScalar (s : List Char) : Option (Value × List Char) :=
  match s with
  | '"' :: _ | '\'' :: _ => (readString s).map (fun (t, rest) => (.string t, rest))
  | 't' :: 'r' :: 'u' :: 'e' :: rest => some (.boolean true, rest)
  | 'f' :: 'a' :: 'l' :: 's' :: 'e' :: rest => some (.boolean false, rest)
  | _ => readNumber s

def readValue : (depth : Nat) → Reader Value
  | 0 => readScalar
  | depth + 1 => fun s =>
    match s with
    | '[' :: rest =>
      (readItems (readValue depth) (rest.length + 1) [] rest).map
        (fun (items, rest) => (.array false items, rest))
    | '\x7b' :: rest =>
      match skipBlanks rest with
      | '\x7d' :: rest => some (.table .braces [], rest)
      | _ =>
        (readPairs (readValue depth) (rest.length + 1) [] rest).map
          (fun (es, rest) => (.table .braces es, rest))
    | s => readScalar s

structure Draft where
  root : Entries := []
  here : List String := []

namespace Draft

def openTable (d : Draft) (key : List String) : Option Draft := do
  let last ← key.getLast?
  let root ← descend false key.dropLast (fun _ => update last (fun
    | none => some (.table .header [])
    | some (.table .implied es) => some (.table .header es)
    | some _ => none)) .header d.root
  pure ⟨root, key⟩

def openItem (d : Draft) (key : List String) : Option Draft := do
  let last ← key.getLast?
  let root ← descend false key.dropLast (fun _ => update last (fun
    | none => some (.array true [.table .header []])
    | some (.array true items) => some (.array true (items ++ [.table .header []]))
    | some _ => none)) .header d.root
  pure ⟨root, key⟩

def set (d : Draft) (key : List String) (v : Value) : Option Draft := do
  let root ← descend false d.here (insertKey key v) .header d.root
  pure { d with root }

end Draft

def closed? (close : List Char) (s : List Char) : Option (List Char) :=
  if close.isPrefixOf s then finishLine? (s.drop close.length) else none

def readLine (d : Draft) (s : List Char) : Option (Draft × List Char) :=
  match s with
  | '[' :: '[' :: rest => do
    let (key, rest) ← readKey rest
    pure (← d.openItem key, ← closed? [']', ']'] rest)
  | '[' :: rest => do
    let (key, rest) ← readKey rest
    pure (← d.openTable key, ← closed? [']'] rest)
  | _ => do
    let (key, rest) ← readKey s
    match rest with
    | '=' :: rest =>
      let (v, rest) ← readValue (nestingLimit - 1) (skipBlanks rest)
      pure (← d.set key v, ← finishLine? rest)
    | _ => none

def readLines : (fuel : Nat) → Draft → List Char → Option Entries
  | 0, _, _ => none
  | fuel + 1, d, s =>
    match skipBlanks s with
    | [] => some d.root
    | '#' :: rest =>
      match finishLine? ('#' :: rest) with
      | some rest => readLines fuel d rest
      | none => none
    | s =>
      match lineEnd? s with
      | some rest => readLines fuel d rest
      | none =>
        match readLine d s with
        | some (d, rest) => readLines fuel d rest
        | none => none

/-- The entries of a document, or none where the text is not one. No key is set twice, and a table
that is complete, by a header, by a dotted key or by braces, is not opened again. A byte order mark
in front does not count. -/
def parse? (text : String) : Option Entries :=
  let s := match text.toList with
    | '\ufeff' :: s => s
    | s => s
  readLines (s.length + 1) {} s

end Provision.Toml
