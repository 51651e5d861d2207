import Provision.FileSystem.Lookup

namespace Provision
namespace FileSystem

def find (fs : FileSystem) (p : Path) : Except IoError (Location × Entry) :=
  match fs.lookup p with
  | .error e => .error e
  | .ok (.vacant _ _) => .error .noEntry
  | .ok (.present l) =>
    match fs.entry? l with
    | some e => .ok (l, e)
    | none => .error .noEntry

/-- Whether a path leads to anything; a dangling link does not. -/
def has (fs : FileSystem) (p : Path) : Bool :=
  match fs.find p with
  | .ok _ => true
  | .error _ => false

def hasFile (fs : FileSystem) (p : Path) : Bool :=
  match fs.find p with
  | .ok (_, .file _ _) => true
  | _ => false

def hasDirectory (fs : FileSystem) (p : Path) : Bool :=
  match fs.find p with
  | .ok (_, .directory) => true
  | _ => false

def pathOf (l : Location) : Path :=
  if l = [] then ⟨"/"⟩ else ⟨String.join (l.map ("/" ++ ·))⟩

/-- The one absolute path to an existing entry that goes through no link. Its length has no bound,
where a system would refuse to tell one of more than 4095 bytes. -/
def realPath (fs : FileSystem) (p : Path) : Except IoError Path :=
  (fs.find p).map (fun (l, _) => pathOf l)

def read (fs : FileSystem) (p : Path) : Except IoError ByteArray :=
  match fs.find p with
  | .error e => .error e
  | .ok (_, .file content _) => .ok content
  | .ok (_, _) => .error .isDirectory

/-- Writes through links and creates a missing file; what was in the file is passed to `content`.
Like all changes it answers as one system call does, where permissions stand in nobody's way and no
file is special, and leaves the file system alone when it fails; only those that work on many
entries, `makeDirectories` and `removeTree`, return what they had done when they stopped. -/
def modify (fs : FileSystem) (p : Path) (content : ByteArray → ByteArray) :
    Except IoError FileSystem :=
  match fs.lookup p true with
  | .error e => .error e
  | .ok (.vacant d n) => .ok (fs.put (d ++ [n]) (.file (content .empty) false))
  | .ok (.present l) =>
    match fs.entry? l with
    | some (.file old executable) => .ok (fs.put l (.file (content old) executable))
    | _ => .error .isDirectory

def write (fs : FileSystem) (p : Path) (content : ByteArray) : Except IoError FileSystem :=
  fs.modify p (fun _ => content)

def append (fs : FileSystem) (p : Path) (content : ByteArray) : Except IoError FileSystem :=
  fs.modify p (· ++ content)

def setExecutable (fs : FileSystem) (p : Path) (executable : Bool) : Except IoError FileSystem :=
  match fs.find p with
  | .error e => .error e
  | .ok (l, .file content _) => .ok (fs.put l (.file content executable))
  | .ok _ => .ok fs

/-- Makes one directory; a link at the last step counts as present, wherever it points. -/
def makeDirectory (fs : FileSystem) (p : Path) : Except IoError FileSystem :=
  match fs.slot p with
  | .error e => .error e
  | .ok s =>
    match s.location? with
    | none => .error .alreadyExists
    | some l =>
      match fs.entry? l with
      | some _ => .error .alreadyExists
      | none => .ok (fs.put l .directory)

/-- Makes a directory where none is there yet. -/
def settleDirectory (fs : FileSystem) (p : Path) (e : IoError) : Except IoError Unit × FileSystem :=
  if fs.hasDirectory p then (.ok (), fs) else (.error e, fs)

/-- Makes a directory after its missing parents; `depth` bounds how many those can be. -/
def makeDirectoriesWithin : (depth : Nat) → FileSystem → Path → Except IoError Unit × FileSystem
  | depth, fs, p =>
    if p.text = "" then (.ok (), fs)
    else match fs.makeDirectory p with
      | .ok fs' => (.ok (), fs')
      | .error .noEntry =>
        match depth, p.parent? with
        | depth + 1, some parent =>
          match makeDirectoriesWithin depth fs parent with
          | (.error e, fs') => (.error e, fs')
          | (.ok (), fs') =>
            match fs'.makeDirectory p with
            | .ok fs'' => (.ok (), fs'')
            | .error e => fs'.settleDirectory p e
        | _, _ => (.error .noEntry, fs)
      | .error e => fs.settleDirectory p e

def makeDirectories (fs : FileSystem) (p : Path) : Except IoError Unit × FileSystem :=
  makeDirectoriesWithin p.chars.length fs p

/-- Removes a file or a link, and never what a link points to. -/
def removeFile (fs : FileSystem) (p : Path) : Except IoError FileSystem :=
  match fs.slot p with
  | .error e => .error e
  | .ok s =>
    match s.location? with
    | none => .error .isDirectory
    | some l =>
      match fs.entry? l with
      | none => .error .noEntry
      | some .directory => .error .isDirectory
      | some _ => if s.slashed then .error .notDirectory else .ok (fs.erase l)

/-- Removes an empty directory named by a path whose last step is not followed. -/
def removeDirectory (fs : FileSystem) (p : Path) : Except IoError FileSystem :=
  match fs.slot p with
  | .error e => .error e
  | .ok s =>
    match s.last with
    | .root => .error .busy
    | .dot => .error .invalidArgument
    | .dotDot => .error .notEmpty
    | .name n =>
      let l := s.directory ++ [n]
      match fs.entry? l with
      | none => .error .noEntry
      | some .directory => if fs.isEmptyAt l then .ok (fs.erase l) else .error .notEmpty
      | some _ => .error .notDirectory

/-- The entry at a path whose last step is not followed, unless slashes or dots ask for it. -/
def findUnfollowed (fs : FileSystem) (p : Path) : Except IoError (Location × Entry) :=
  match fs.slot p with
  | .error e => .error e
  | .ok s =>
    match s.location?, s.slashed with
    | some l, false =>
      match fs.entry? l with
      | some e => .ok (l, e)
      | none => .error .noEntry
    | _, _ => fs.find p

def removeTree (fs : FileSystem) (p : Path) : Except IoError Unit × FileSystem :=
  match fs.findUnfollowed p with
  | .error e => (.error e, fs)
  | .ok (_, .file _ _) => (.error .notDirectory, fs)
  | .ok (l, .link _) => (.ok (), fs.erase l)
  | .ok (l, .directory) =>
    let emptied := fs.eraseBelow l
    match emptied.removeDirectory p with
    | .ok fs' => (.ok (), fs')
    | .error e => (.error e, emptied)

/-- Moves a file or a link over another; a directory is neither moved nor replaced. -/
def rename (fs : FileSystem) (source target : Path) : Except IoError FileSystem :=
  match fs.slot source, fs.slot target with
  | .error e, _ => .error e
  | _, .error e => .error e
  | .ok s, .ok t =>
    match s.location?, t.location? with
    | some l, some l' =>
      match fs.entry? l with
      | none => .error .noEntry
      | some e =>
        if s.slashed || t.slashed then .error .notDirectory
        else if e = .directory || fs.entry? l' = some .directory then .error .isDirectory
        else if l = l' then .ok fs
        else .ok ((fs.erase l).put l' e)
    | _, _ => .error .busy

/-- Makes a link; where it points need not exist. -/
def makeLink (fs : FileSystem) (p : Path) (target : String) : Except IoError FileSystem :=
  match refused? target, fs.slot p with
  | some e, _ => .error e
  | none, .error e => .error e
  | none, .ok s =>
    match s.location? with
    | none => .error .alreadyExists
    | some l =>
      if fs.entry? l |>.isSome then .error .alreadyExists
      else if s.slashed then .error .noEntry
      else .ok (fs.put l (.link target))

def enter (fs : FileSystem) (p : Path) : Except IoError FileSystem :=
  match fs.find p with
  | .error e => .error e
  | .ok (l, .directory) => .ok { fs with cwd := l }
  | .ok _ => .error .notDirectory

def entriesBelow (fs : FileSystem) (top : Location) : List (Location × Entry) :=
  fs.entries.filter (fun e => below top e.1)

end FileSystem
end Provision
