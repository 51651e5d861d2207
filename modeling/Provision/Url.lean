import Provision.Url.Host
import Provision.Url.Route

namespace Provision

namespace Url

inductive Kind
  /-- A host is named, whose name is resolved; backslashes count as slashes. -/
  | web
  /-- The host may be missing, and drives are known. -/
  | file
  | other
deriving DecidableEq

def webSchemes : List (String × Nat) :=
  [("http", 80), ("https", 443), ("ftp", 21), ("ws", 80), ("wss", 443)]

def kindOf (scheme : String) : Kind :=
  if scheme = "file" then .file
  else if webSchemes.any (·.1 = scheme) then .web
  else .other

structure Authority where
  user : String := ""
  secret : String := ""
  host : Host
  port : Option Nat := none
deriving DecidableEq

namespace Authority

def credentials (a : Authority) : String :=
  let secret := if a.secret = "" then "" else ":" ++ a.secret
  if a.user = "" && a.secret = "" then "" else a.user ++ secret ++ "@"

def text (a : Authority) : String :=
  let port := match a.port with
    | some n => ":" ++ toString n
    | none => ""
  a.credentials ++ a.host.text ++ port

end Authority
end Url

/-- An address as it is taken to be meant; two spellings of one address are shown alike. -/
structure Url where
  scheme : String
  authority : Option Url.Authority
  route : Url.Route
  query : Option String
  fragment : Option String
deriving DecidableEq

namespace Url

/-- What stands before the route; a route that could be taken for a host is kept apart. -/
def front (u : Url) : String :=
  match u.authority with
  | some a => "//" ++ a.text
  | none => if ['/', '/'].isPrefixOf u.route.text.toList then "/." else ""

def text (u : Url) : String :=
  let query := match u.query with
    | some q => "?" ++ q
    | none => ""
  let fragment := match u.fragment with
    | some f => "#" ++ f
    | none => ""
  u.scheme ++ ":" ++ u.front ++ u.route.text ++ query ++ fragment

def isRequestChar (c : Char) : Bool := c.isAlphanum || "!#$&'()*+,-./:;=?@[]_~".toList.contains c

def canBeFetched (u : Url) : Bool :=
  (u.scheme = "http" || u.scheme = "https") &&
    u.authority.any (fun a => a.host.text.toList.all isRequestChar)

def withoutCredentials (u : Url) : Url :=
  match u.authority with
  | none => u
  | some a =>
    match unescaped? a.user.toList, unescaped? a.secret.toList with
    | none, _ => u
    | some name, secret =>
      if name = "" && (a.secret = "" || secret.isNone) then u
      else { u with authority := some { a with user := "", secret := "" } }

abbrev Reading (α : Type) := Option (α × List Char)

def isSchemeChar (c : Char) : Bool := c.isAlphanum || c = '+' || c = '-' || c = '.'

def scheme? (cs : List Char) : Reading String :=
  let name := cs.takeWhile isSchemeChar
  match name, cs.drop name.length with
  | c :: _, ':' :: rest =>
    if c.isAlpha then some (String.ofList (name.map Route.lower), rest) else none
  | _, _ => none

def endsAuthority (kind : Kind) (c : Char) : Bool :=
  c = '/' || c = '?' || c = '#' || (kind ≠ .other && c = '\\')

def credentialSet : String := Route.stepSet ++ "/:;=@[\\]^|"

def credentials (cs : List Char) : String × String × List Char :=
  match (cs.reverse.dropWhile (· ≠ '@')).reverse with
  | [] => ("", "", cs)
  | given =>
    let inner := given.dropLast
    let name := inner.takeWhile (· ≠ ':')
    (escaped credentialSet name, escaped credentialSet (inner.drop (name.length + 1)),
      cs.drop given.length)

/-- The length of a host; a colon in brackets is part of it. -/
def hostLength : (inBrackets : Bool) → List Char → Nat
  | _, [] => 0
  | inBrackets, c :: cs =>
    if c = ':' && !inBrackets then 0
    else 1 + hostLength (c = '[' || (inBrackets && c ≠ ']')) cs

/-- A port in at most five digits that matter; nothing stands for the scheme's own. -/
def port? (own : Option Nat) (cs : List Char) : Option (Option Nat) :=
  if !cs.all Char.isDigit then none
  else
    let n := cs.foldl (fun n c => 10 * n + (c.toNat - 48)) 0
    if 65535 < n then none
    else some (if cs = [] || some n = own then none else some n)

def authority? (scheme : String) (kind : Kind) (cs : List Char) : Option Authority := do
  let (user, secret, rest) := credentials cs
  let n := hostLength false rest
  let host ← if kind = .web then Host.resolved? (rest.take n) else Host.foreign? (rest.take n)
  let port ← port? (webSchemes.lookup scheme) (rest.drop (n + 1))
  if n = 0 && (kind = .web || rest ≠ [] || user ≠ "" || secret ≠ "") then none
  else pure { user, secret, host, port }

def tail (kind : Kind) (cs : List Char) : Option String × Option String :=
  let fragment (cs : List Char) : Option String :=
    match cs with
    | _ :: rest => some (escaped (plainSet ++ "`") rest)
    | [] => none
  match cs with
  | '?' :: rest =>
    let query := rest.takeWhile (· ≠ '#')
    let set := if kind = .other then plainSet else plainSet ++ "'"
    (some (escaped set query), fragment (rest.drop query.length))
  | cs => (none, fragment cs)

def startsTail (c : Char) : Bool := c = '?' || c = '#'

def routeOf (kind : Kind) (cs : List Char) : Route :=
  let cs := if kind = .other then cs else cs.map (fun c => if c = '\\' then '/' else c)
  match cs with
  | '/' :: rest => Route.ofText (kind = .file) rest
  | [] => if kind = .other then .steps [] else .steps [""]
  | cs => Route.ofText (kind = .file) cs

def assemble (scheme : String) (kind : Kind) (authority : Option Authority) (route : Route)
    (cs : List Char) : Url :=
  let (query, fragment) := tail kind cs
  { scheme, authority, route, query, fragment }

def afterSlashes? (scheme : String) (kind : Kind) (cs : List Char) : Option Url :=
  let named := cs.takeWhile (!endsAuthority kind ·)
  let behind := cs.drop named.length
  if named = ['@'] && behind ≠ [] then none
  else (authority? scheme kind named).map (fun a =>
    assemble scheme kind (some a) (routeOf kind (behind.takeWhile (!startsTail ·)))
      (behind.dropWhile (!startsTail ·)))

/-- The host of a file; this machine needs no name. -/
def fileHost? (cs : List Char) : Option Host :=
  if cs = [] then some (.name "")
  else (Host.resolved? cs).map (fun h => if h = .name "localhost" then .name "" else h)

def file? (cs : List Char) : Option Url :=
  let isSlash (c : Char) : Bool := c = '/' || c = '\\'
  let (named, behind) := match cs with
    | a :: b :: rest =>
      let named := rest.takeWhile (!endsAuthority .file ·)
      if isSlash a && isSlash b then
        if Route.isDrive named then ([], rest) else (named, rest.drop named.length)
      else ([], cs)
    | cs => ([], cs)
  (fileHost? named).map (fun host =>
    let route := routeOf .file (behind.takeWhile (!startsTail ·))
    let host := if route.namesDrive then .name "" else host
    assemble "file" .file (some { host }) route (behind.dropWhile (!startsTail ·)))

/-- Reads what follows a scheme that is not of the web. -/
def other? (scheme : String) (cs : List Char) : Option Url :=
  match cs with
  | '/' :: '/' :: rest => afterSlashes? scheme .other rest
  | cs =>
    let body := cs.takeWhile (!startsTail ·)
    let route := match body with
      | '/' :: rest => Route.ofText false rest
      | body => .flat (escaped "" body)
    some (assemble scheme .other none route (cs.drop body.length))

/-- Reads an address. What stands around it and does not show is left out, and so are the ends of
lines in it. -/
def parse? (s : String) : Option Url :=
  let isOuter (c : Char) : Bool := c.toNat ≤ 0x20
  let trimmed := ((s.toList.dropWhile isOuter).reverse.dropWhile isOuter).reverse
  let cs := trimmed.filter (fun c => c ≠ '\t' && c ≠ '\n' && c ≠ '\r')
  match scheme? cs with
  | none => none
  | some (scheme, rest) =>
    match kindOf scheme with
    | .file => file? rest
    | .web => afterSlashes? scheme .web (rest.dropWhile (fun c => c = '/' || c = '\\'))
    | .other => other? scheme rest

end Url
end Provision
