namespace Provision.Host

inductive Valued
  | never
  | always
  | attached
deriving DecidableEq

structure Switch where
  /-- What the option is known by, and written as unless it has a long name alone. -/
  letter : Char
  long : String
  value : Valued := .never
  isShort : Bool := true

namespace Switch

def plain (letters : String) : List Switch := letters.toList.map (⟨·, "", .never, true⟩)

def named (long : String) (value : Valued := .never) : Switch := ⟨'\x00', long, value, false⟩

/-- What asks for no more than a text about the program. -/
def asking : List Switch := [⟨'?', "help", .never, false⟩, ⟨'?', "version", .never, false⟩]

end Switch

structure Operands where
  found : List (Char × String) := []
  words : List String := []

namespace Operands

def has (o : Operands) (letters : List Char) : Bool := o.found.any (letters.contains ·.1)

def value? (o : Operands) (letter : Char) : Option String :=
  (o.found.filter (·.1 = letter)).getLast?.map (·.2)

def add (o : Operands) (letter : Char) (value : String := "") : Operands :=
  { o with found := (letter, value) :: o.found }

def meant (switches : List Switch) (name : String) : List Switch :=
  match switches.find? (·.long = name) with
  | some s => [s]
  | none => switches.filter (fun s => s.long ≠ "" && s.long.startsWith name)

/-- Reads options that are written as letters behind one dash; the last of them may wait for the
next word as its value. -/
def letters (switches : List Switch) : List Char → Except String (Operands × Option Char)
  | [] => .ok ({}, none)
  | c :: cs =>
    match switches.find? (fun s => s.isShort && s.letter = c) with
    | none => .error ("invalid option -- '" ++ String.singleton c ++ "'")
    | some s =>
      if s.value ≠ .always then (letters switches cs).map (fun (o, waits) => (o.add c, waits))
      else if cs.isEmpty then .ok ({}, some c)
      else .ok (({} : Operands).add c (String.ofList cs), none)

def named (switches : List Switch) (word : String) : Except String (Switch × Option String) :=
  let name := (word.toList.drop 2).takeWhile (· ≠ '=')
  let value? := if name.length + 2 < word.length
    then some (String.ofList (word.toList.drop (name.length + 3))) else none
  match meant switches (String.ofList name) with
  | [] => .error ("unrecognized option '" ++ word ++ "'")
  | [s] =>
    if value?.isSome && s.value = .never then
      .error ("option '--" ++ s.long ++ "' doesn't allow an argument")
    else .ok (s, value?)
  | several => .error ("option '" ++ word ++ "' is ambiguous; possibilities:" ++
      String.join (several.map (fun s => " '--" ++ s.long ++ "'")))

def readWithin (switches : List Switch) : (fuel : Nat) → List String → Except String Operands
  | 0, words => .ok { words }
  | _, [] => .ok {}
  | fuel + 1, word :: rest => do
    match word.toList with
    | ['-', '-'] => return { words := rest }
    | '-' :: '-' :: _ =>
      match ← named switches word with
      | (s, some value) => return (← readWithin switches fuel rest).add s.letter value
      | (s, none) =>
        match s.value, rest with
        | .always, [] => throw ("option '--" ++ s.long ++ "' requires an argument")
        | .always, value :: rest =>
          return (← readWithin switches fuel rest).add s.letter value
        | _, rest => return (← readWithin switches fuel rest).add s.letter
    | '-' :: c :: cs =>
      match ← letters switches (c :: cs), rest with
      | (_, some c), [] =>
        throw ("option requires an argument -- '" ++ String.singleton c ++ "'")
      | (before, some c), value :: rest =>
        let o ← readWithin switches fuel rest
        return { o with found := before.found ++ (c, value) :: o.found }
      | (before, none), rest =>
        let o ← readWithin switches fuel rest
        return { o with found := before.found ++ o.found }
    | _ =>
      let o ← readWithin switches fuel rest
      return { o with words := word :: o.words }

/-- Reads all words. Options may stand between operands; a long name may be cut short where that
leaves one meaning. -/
def read (switches : List Switch) (words : List String) : Except String Operands :=
  readWithin switches words.length words

end Operands
end Provision.Host
