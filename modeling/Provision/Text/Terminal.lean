namespace Provision.Text

inductive Phase
  | plain
  | escape
  | announced
  | sequence
  /-- In a text that is not meant for the reader; a new escape ends it. -/
  | aside
  | title
deriving DecidableEq

namespace Phase

def isBetween (c low high : Char) : Bool := low ≤ c && c ≤ high

def begun (c : Char) : Phase :=
  if isBetween c ' ' '/' then announced
  else match c with
    | '[' => sequence
    | ']' => title
    | 'P' | 'X' | '^' | '_' => aside
    | _ => plain

def isMove (c : Char) : Bool := c = '\t' || c = '\n' || c = '\x0c' || c = '\r'

def isControl (c : Char) : Bool := c < ' ' || c = '\x7f'

def next (p : Phase) (c : Char) : Phase :=
  if c = '\x1b' then escape
  else if c = '\x18' || c = '\x1a' then plain
  else match p with
    | plain => plain
    | aside => aside
    | title => if c = '\x07' then plain else title
    | p =>
      if isMove c then plain
      else if isControl c || '\x7f' < c then p
      else match p with
        | escape => begun c
        | announced => if isBetween c ' ' '/' then announced else plain
        | _ => if isBetween c '@' '~' then plain else sequence

def isSeen (p : Phase) (c : Char) : Bool :=
  match p with
  | plain => isMove c || !isControl c
  | escape | announced | sequence => isMove c
  | aside | title => false

end Phase

def visibleFrom : Phase → List Char → List Char
  | _, [] => []
  | p, c :: cs => if p.isSeen c then c :: visibleFrom (p.next c) cs else visibleFrom (p.next c) cs

/-- What a reader gets to see of a text: neither control sequences, which start with an escape
character, nor other control characters. -/
def visible (s : String) : String := String.ofList (visibleFrom .plain s.toList)

def strong (s : String) : String := "\x1b[1m" ++ s ++ "\x1b[0m"

end Provision.Text
