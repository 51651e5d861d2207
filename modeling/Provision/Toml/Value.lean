namespace Provision.Toml

/-- How a table came to be. -/
inductive Origin
  | implied
  | dotted
  | header
  | braces
deriving DecidableEq

/-- Tables and arrays remember how they were written, because that decides what the rest of the
document may still add to them; the meaning of a value does not depend on it. -/
inductive Value
  | string (text : String)
  | integer (n : Int)
  | float (text : String)
  | boolean (b : Bool)
  | moment (text : String)
  | array (ofHeaders : Bool) (items : List Value)
  | table (origin : Origin) (entries : List (String × Value))

abbrev Entries := List (String × Value)

def Entries.value? (es : Entries) (key : String) : Option Value :=
  (es.find? (·.1 = key)).map (·.2)

abbrev Reader (α : Type) := List Char → Option (α × List Char)

/-- The depth below which values may be nested, and the number of parts a key may not reach. -/
def nestingLimit : Nat := 80

end Provision.Toml
