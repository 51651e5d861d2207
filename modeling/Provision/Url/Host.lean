import Provision.Url.Name
import Provision.Url.Number

namespace Provision.Url

inductive Host
  /-- A name that is resolved, or one that only its scheme understands; it may be empty. -/
  | name (text : String)
  | old (number : Nat)
  | new (pieces : List Nat)
deriving DecidableEq

namespace Host

def text : Host → String
  | name t => t
  | old n => oldText n
  | new ps => "[" ++ newText ps ++ "]"

def bracketed? (cs : List Char) : Option Host :=
  if cs.getLast? = some ']' then (newNumber? cs.dropLast).map .new else none

/-- Reads a host whose name is resolved; the name may be escaped. -/
def resolved? (cs : List Char) : Option Host :=
  match cs with
  | '[' :: rest => bracketed? rest
  | cs =>
    match (unescaped? cs).bind asciiName? with
    | none => none
    | some n => if endsInNumber n then (oldNumber? n).map .old else some (.name n)

/-- Reads a host that only its scheme understands. -/
def foreign? (cs : List Char) : Option Host :=
  match cs with
  | '[' :: rest => bracketed? rest
  | cs =>
    if cs.any (fun c => c = '\x00' || " #/:<>?@[\\]^|".toList.contains c) then none
    else some (.name (escaped "" cs))

end Host
end Provision.Url
