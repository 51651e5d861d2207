import Provision.Shell.Expansion

namespace Provision.Shell

inductive Target
  | path (channel : Channel) (text : String)
  | descriptor (number : Nat)
  | nowhere
  | text (content : List Char)

namespace Target

def complaint (creating : Bool) (path : String) (e : IoError) : String :=
  let reason := match e with
    | .noEntry | .notDirectory => if creating then "Directory nonexistent" else "No such file"
    | e => e.describe
  (if creating then "cannot create " else "cannot open ") ++ path ++ ": " ++ reason

def nullDevice : String := "/dev/null"

def openFile (creating : Bool) (text : String) (result : Except IoError (Port × State)) :
    Doing Port := do
  match result with
  | .error e => Doing.fail (complaint creating text e)
  | .ok (p, s) =>
    set s
    return p

def openToWrite (text : String) (change : FileSystem → Path → Except IoError FileSystem) :
    Doing Port := do
  let s ← get
  let path := Path.mk (Octets.toText text)
  openFile true text do
    let fs ← change s.fs path
    return (.file (← fs.realPath path), { s with fs })

/-- Opens a file for reading; nothing can be read from a directory. -/
def openToRead (text : String) : Doing Port := do
  let s ← get
  let path := Path.mk (Octets.toText text)
  openFile false text do
    let (_, entry) ← s.fs.find path
    match entry with
    | .file content _ => return s.addSource (Octets.ofBytes content)
    | _ => return s.addSource []

def port (t : Target) : Doing (Option Port) := do
  match t with
  | .nowhere => return none
  | .text content =>
    let (p, s) := (← get).addSource content
    set s
    return some p
  | .descriptor n =>
    match (← get).port? n with
    | some p => return some p
    | none => Doing.fail (toString n ++ ": Bad file descriptor")
  | .path channel shown =>
    let s ← get
    let path := Path.mk (Octets.toText shown)
    if shown = nullDevice then return some .null
    else
      match channel with
      | .read => return some (← openToRead shown)
      | .append => return some (← openToWrite shown (fun fs p => fs.append p .empty))
      | .readWrite =>
        let _ ← openToWrite shown (fun fs p => fs.append p .empty)
        return some (← openToRead shown)
      | .overwrite =>
        if s.has 'C' && s.fs.hasFile path then Doing.fail (complaint true shown .alreadyExists)
        else return some (← openToWrite shown (fun fs p => fs.write p .empty))
      | _ => return some (← openToWrite shown (fun fs p => fs.write p .empty))

end Target

namespace Redirect

def changed : Redirect → Nat
  | .to n _ _ => n
  | .document n _ => n

end Redirect

namespace Interpreter

def badDescriptor {α : Type} : Doing α := do
  modify fun s => { s with line := s.readTo }
  Doing.fail "Syntax error: Bad fd number"

def target (i : Interpreter) : Redirect → Doing Target
  | .document _ number => do
    let word := ((← get).documents.lookup number).getD []
    return .text (← i.plain .nowhere word).toList
  | .to _ channel word => do
    let text ← i.plain .atStart word
    match channel, text.toList with
    | .duplicate, ['-'] => return .nowhere
    | .duplicate, [c] =>
      if c.isDigit then return .descriptor (c.toNat - 48)
      else badDescriptor
    | .duplicate, _ => badDescriptor
    | channel, _ => return .path channel text

def redirect (ts : List (Nat × Target)) : Doing Unit :=
  ts.forM (fun (n, t) => do
    let p ← t.port
    modify fun s => s.setPort n p)

def restorePorts (before : State) (ns : List Nat) (s : State) : State :=
  ns.foldl (fun s n => s.setPort n (before.port? n)) s

/-- Does something with redirections; a target that cannot be opened leaves it undone, and the
result says so. -/
def redirected (i : Interpreter) (rs : List Redirect) (x : Doing Unit) : Doing Bool := do
  let ts ← rs.mapM (fun r => do return (r.changed, ← i.target r))
  let before ← get
  let restore := restorePorts before (ts.map (·.1))
  match ← Doing.observe (redirect ts) with
  | .error .failed =>
    modify restore
    return false
  | .error stop =>
    modify restore
    throw stop
  | .ok () =>
    Doing.ensuring x restore
    return true

end Interpreter
end Provision.Shell
