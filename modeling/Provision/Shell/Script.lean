namespace Provision.Shell

inductive Parameter
  | variable (name : String)
  | position (n : Nat)
  | each
  | joined
  | count
  | status
  | self
  | lastJob
  | switches
deriving DecidableEq

inductive Instead
  | use
  | assign
  | refuse
  | replace
deriving DecidableEq

inductive Channel
  | overwrite
  /-- Writes over a file even where that is forbidden. -/
  | clobber
  | append
  | read
  | readWrite
  | duplicate
deriving DecidableEq

mutual

inductive Piece
  | char (c : Char) (quoted : Bool)
  /-- A pair of quotes with nothing between them. -/
  | nothing
  | value (p : Parameter) (m : Modifier) (quoted : Bool)
  | output (c : Script) (quoted : Bool)
  | number (expression : List Piece) (quoted : Bool)

/-- What is done with the value of a parameter. -/
inductive Modifier
  | none
  | length
  | instead (kind : Instead) (ofEmpty : Bool) (word : List Piece)
  | cut (atFront longest : Bool) (pattern : List Piece)
  | bad

inductive Redirect
  | to (descriptor : Nat) (channel : Channel) (target : List Piece)
  | document (descriptor : Nat) (number : Nat)

inductive Script
  | skip
  | simple (line : Nat) (sets : List (String × List Piece)) (words : List (List Piece))
      (redirects : List Redirect)
  | andThen (a b : Script)
  | ifOk (a b : Script)
  | ifFailed (a b : Script)
  | negate (a : Script)
  | background (a : Script)
  | pipeline (parts : List Script)
  | branch (condition yes : Script) (no : Option Script)
  | forEach (line : Nat) (name : String) (words : Option (List (List Piece))) (body : Script)
  | loop (whileOk : Bool) (condition body : Script)
  | choice (line : Nat) (subject : List Piece) (arms : List (List (List Piece) × Script))
  | subshell (line : Nat) (a : Script) (redirects : List Redirect)
  | redirected (line : Nat) (a : Script) (redirects : List Redirect)
  | define (line : Nat) (name : String) (body : Script)

end

abbrev Word := List Piece

namespace Word

def bareText? (w : Word) : Option String :=
  (w.mapM (fun (p : Piece) => match p with
    | .char c false => some c
    | _ => none)).map String.ofList

def plainText (w : Word) : String :=
  String.ofList (w.filterMap (fun p => match p with
    | .char c _ => some c
    | _ => none))

def isQuoted (w : Word) : Bool :=
  w.any (fun p => match p with
    | .char _ quoted => quoted
    | .nothing => true
    | _ => false)

end Word
end Provision.Shell
