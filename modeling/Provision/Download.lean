import Provision.Url
import Provision.Work

namespace Provision

/-- How a request goes. -/
inductive Transfer
  /-- No body comes: the request could not be sent or was answered with an error. -/
  | refused (reason : String)
  /-- The body comes in pieces, complete unless a reason says why it ended early. -/
  | body (pieces : List ByteArray) (broken : Option String)

abbrev Network := String → Transfer

namespace Network

/-- Nothing can be reached; an address that cannot be read is not even tried. -/
def unreachable : Network := fun address =>
  match Url.parse? address with
  | some u =>
    let what := if u.canBeFetched then "error sending request" else "builder error"
    .refused (what ++ " for url (" ++ u.withoutCredentials.text ++ ")")
  | none => .refused "builder error"

end Network

namespace Download

def partOf (target : Path) : Path := target.withExtension "part"

/-- A result together with every state that the file system went through on the way, the latest
first. -/
structure Trail where
  result : Except String Unit
  states : List FileSystem

namespace Trail

def last (t : Trail) (start : FileSystem) : FileSystem := t.states.headD start

end Trail

/-- Gives up: the temporary file is removed if that is possible. -/
def abandon (target : Path) (reason : String) (fs : FileSystem) (states : List FileSystem) :
    Trail :=
  match fs.removeFile (partOf target) with
  | .ok fs' => ⟨.error reason, fs' :: states⟩
  | .error _ => ⟨.error reason, states⟩

/-- Moves a complete temporary file into place. -/
def settle (target : Path) (fs : FileSystem) (states : List FileSystem) : Trail :=
  match fs.rename (partOf target) target with
  | .ok fs' => ⟨.ok (), fs' :: states⟩
  | .error e => abandon target e.message fs states

def receive (target : Path) (broken : Option String) :
    List ByteArray → FileSystem → List FileSystem → Trail
  | [], fs, states =>
    match broken with
    | some reason => abandon target reason fs states
    | none => settle target fs states
  | piece :: rest, fs, states =>
    match fs.append (partOf target) piece with
    | .ok fs' => receive target broken rest fs' (fs' :: states)
    | .error e => abandon target e.message fs states

/-- The body goes to a temporary file beside the target, and only a complete one is moved into
place; what a broken download leaves is removed. -/
def trail (fs : FileSystem) (target : Path) : Transfer → Trail
  | .refused reason => ⟨.error reason, []⟩
  | .body pieces broken =>
    match fs.write (partOf target) .empty with
    | .error e => ⟨.error e.message, []⟩
    | .ok fs' => receive target broken pieces fs' [fs']

end Download

variable {σ : Type}

def Fetcher.web (network : Network) : Fetcher σ where
  fetch url target site :=
    let t := Download.trail site.fs target (network url)
    (t.result.mapError (.download url), { site with fs := t.last site.fs })

/-- Stands in for the network where nothing is to be downloaded. -/
def Fetcher.idle : Fetcher σ where
  fetch _ _ site := (.ok (), site)

end Provision
