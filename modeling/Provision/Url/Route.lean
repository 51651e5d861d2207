import Provision.Path
import Provision.Url.Escape

namespace Provision.Url

inductive Route
  | flat (text : String)
  /-- Steps from the root; without any not even the root is named. -/
  | steps (names : List String)
deriving DecidableEq

namespace Route

def text : Route → String
  | flat t => t
  | steps names => String.join (names.map ("/" ++ ·))

def lower (c : Char) : Char := if 'A' ≤ c && c ≤ 'Z' then Char.ofNat (c.toNat + 32) else c

def withoutEscapedDots : List Char → List Char
  | '%' :: '2' :: c :: rest =>
    if lower c = 'e' then '.' :: withoutEscapedDots rest
    else '%' :: '2' :: c :: withoutEscapedDots rest
  | c :: rest => c :: withoutEscapedDots rest
  | [] => []

def isHere (s : List Char) : Bool := withoutEscapedDots s = ['.']

def isUp (s : List Char) : Bool := withoutEscapedDots s = ['.', '.']

def isDrive (s : List Char) : Bool :=
  match s with
  | [c, d] => c.isAlpha && (d = ':' || d = '|')
  | _ => false

/-- The steps before the last one, which are in reverse; a drive is never left. -/
def up (hasDrives : Bool) (before : List (List Char)) : List (List Char) :=
  if hasDrives && before.head?.any isDrive then before else before.tail

/-- Goes the steps behind those that are given in reverse, so that none leads up or stays. -/
def walk (hasDrives : Bool) (before : List (List Char)) : List (List Char) → List (List Char)
  | [] => before.reverse
  | s :: rest =>
    if isHere s then walk hasDrives (if rest = [] then [] :: before else before) rest
    else if isUp s then
      let above := up hasDrives before
      walk hasDrives (if rest = [] then [] :: above else above) rest
    else if hasDrives && isDrive s then walk hasDrives ([s.headD 'c', ':'] :: before) rest
    else walk hasDrives (s :: before) rest

def stepSet : String := plainSet ++ "`#?\x7b\x7d"

def ofText (hasDrives : Bool) (cs : List Char) : Route :=
  let names := walk hasDrives [] (Path.segments cs)
  let names := if hasDrives && names.head? = some [] then
      let rest := names.dropWhile (· = [])
      if rest = [] then [[]] else rest
    else names
  steps (names.map (escaped stepSet))

def namesDrive : Route → Bool
  | steps names => names.any (fun n => isDrive n.toList)
  | flat _ => false

end Route
end Provision.Url
