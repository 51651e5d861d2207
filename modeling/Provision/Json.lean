namespace Provision

inductive Json
  | null
  | bool (b : Bool)
  | string (text : String)
  | array (items : List Json)
  /-- The fields keep their order. -/
  | object (fields : List (String × Json))

namespace Json

def hexDigit (n : Nat) : Char := (Nat.toDigits 16 n).headD '0'

def escapedChar (c : Char) : List Char :=
  match c with
  | '"' => ['\\', '"']
  | '\\' => ['\\', '\\']
  | '\x08' => ['\\', 'b']
  | '\x0c' => ['\\', 'f']
  | '\n' => ['\\', 'n']
  | '\r' => ['\\', 'r']
  | '\t' => ['\\', 't']
  | c =>
    if c.toNat < 0x20 then
      ['\\', 'u', '0', '0', hexDigit (c.toNat / 16), hexDigit (c.toNat % 16)]
    else [c]

/-- A text between double quotes; beyond ASCII every character stands for itself. -/
def quoted (s : String) : String := "\"" ++ String.ofList (s.toList.flatMap escapedChar) ++ "\""

def indentation (depth : Nat) : String := "\n" ++ String.ofList (List.replicate (2 * depth) ' ')

mutual

def render (depth : Nat) : Json → String
  | null => "null"
  | bool b => if b then "true" else "false"
  | string t => quoted t
  | array [] => "[]"
  | array (v :: vs) =>
    "[" ++ indentation (depth + 1) ++ render (depth + 1) v ++ renderItems (depth + 1) vs ++
      indentation depth ++ "]"
  | object [] => "\x7b\x7d"
  | object ((name, v) :: fields) =>
    "\x7b" ++ indentation (depth + 1) ++ quoted name ++ ": " ++ render (depth + 1) v ++
      renderFields (depth + 1) fields ++ indentation depth ++ "\x7d"

def renderItems (depth : Nat) : List Json → String
  | [] => ""
  | v :: vs => "," ++ indentation depth ++ render depth v ++ renderItems depth vs

def renderFields (depth : Nat) : List (String × Json) → String
  | [] => ""
  | (name, v) :: fields =>
    "," ++ indentation depth ++ quoted name ++ ": " ++ render depth v ++ renderFields depth fields

end

def pretty (v : Json) : String := render 0 v

end Json
end Provision
