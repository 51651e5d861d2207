import Provision.FileSystem.Permission
import Provision.Host.Outcome
import Provision.Host.Switches
import Provision.Shell.Condition
import Provision.Shell.Format

namespace Provision.Host

/-- A run of a program over its operands: what it has written, and the files as they are. -/
structure Progress where
  name : String
  fs : FileSystem
  written : List (Stream × ByteArray) := []
  status : Nat := 0
  input : ByteArray := .empty

namespace Progress

def ofRequest (r : Request) (fs : FileSystem) : Progress :=
  { name := r.words.headD "", fs, input := r.input }

def outcome (p : Progress) : Outcome := ⟨.exited p.status, p.written, p.input, p.fs⟩

def say (p : Progress) (text : String) : Progress :=
  { p with written := p.written ++ [(.out, text.toUTF8)] }

def complain (p : Progress) (text : String) : Progress :=
  { p with written := p.written ++ [(.err, (p.name ++ ": " ++ text ++ "\n").toUTF8)], status := 1 }

def refuse (p : Progress) (text : String) : Progress :=
  p.complain (text ++ "\nTry '" ++ p.name ++ " --help' for more information.")

def shownByte (b : UInt8) : List Char :=
  match Shell.Format.letterFor? (Char.ofNat b.toNat) with
  | some c => ['\\', c]
  | none =>
    if 32 ≤ b && b < 127 then [Char.ofNat b.toNat]
    else '\\' :: Shell.Floating.padded 8 3 b.toNat

/-- A text between quotes; what is no plain character is shown behind a backslash. -/
def quoted (text : String) : String :=
  "'" ++ String.ofList (text.toUTF8.toList.flatMap shownByte) ++ "'"

def change (p : Progress) (what operand : String) (result : Except IoError FileSystem) : Progress :=
  match result with
  | .ok fs => { p with fs }
  | .error e => p.complain (what ++ " " ++ quoted operand ++ ": " ++ e.describe)

end Progress

namespace Program

abbrev Work := Progress → List String → Progress

open Progress (quoted)

def taking (switches : List Switch) (work : Progress → Operands → Progress) : Work := fun p args =>
  match Operands.read (switches ++ Switch.asking) args with
  | .error complaint => p.refuse complaint
  | .ok o => if o.has ['?'] then p else work p o

def ancestors (operand : String) : List String :=
  let names := Path.segments operand.toList
  (List.range names.length).map (fun n => String.ofList (Path.unsegments (names.take (n + 1))))

def makeOne (tells : Bool) (p : Progress) (word : String) : Progress :=
  let next := p.change "cannot create directory" word (p.fs.makeDirectory ⟨word⟩)
  if tells && next.status = p.status && !p.fs.has ⟨word⟩ then
    next.say (p.name ++ ": created directory " ++ quoted word ++ "\n")
  else next

/-- Makes those directories of a list that are missing, each in the one before it; a failure names
what is in the way. -/
def makeMissing (tells : Bool) (operand : String) (p : Progress) : List String → Progress
  | [] => p
  | path :: rest =>
    let refused (path : String) (e : IoError) : Progress :=
      p.change "cannot create directory" path (.error e)
    if path = "" || p.fs.hasDirectory ⟨path⟩ then makeMissing tells operand p rest
    else if p.fs.has ⟨path⟩ then
      refused path (if path = operand then .alreadyExists else .notDirectory)
    else match p.fs.makeDirectory ⟨path⟩ with
      | .ok fs =>
        let p := { p with fs }
        let told := if tells then p.say (p.name ++ ": created directory " ++ quoted path ++ "\n")
          else p
        makeMissing tells operand told rest
      | .error e => refused operand e

def makeDeep (tells : Bool) (p : Progress) (operand : String) : Progress :=
  if operand = "" then p.change "cannot create directory" operand (.error .noEntry)
  else makeMissing tells operand p (ancestors operand)

/-- Makes directories, one per operand; a flag asks for missing parents and takes existing ones. -/
def makeDirectories : Work :=
  taking ([⟨'m', "mode", .always, true⟩, ⟨'p', "parents", .never, true⟩,
    ⟨'v', "verbose", .never, true⟩, .named "context" .attached] ++ Switch.plain "Z") fun p o =>
    let invalid? := (o.value? 'm').filter (fun mode => (Permission.change? 0 mode 0).isNone)
    match o.words, invalid? with
    | [], _ => p.refuse "missing operand"
    | _, some mode => p.complain ("invalid mode " ++ quoted mode)
    | words, none =>
      words.foldl (if o.has ['p'] then makeDeep (o.has ['v']) else makeOne (o.has ['v'])) p

def removeDirectories : Work :=
  taking [⟨'p', "parents", .never, true⟩, ⟨'v', "verbose", .never, true⟩,
    .named "ignore-fail-on-non-empty"] fun p o =>
    let removeOne (p : Progress) (word : String) : Progress :=
      let p := if o.has ['v'] then p.say (p.name ++ ": removing directory, " ++ quoted word ++ "\n")
        else p
      p.change "failed to remove" word (p.fs.removeDirectory ⟨word⟩)
    let removeAll (p : Progress) (word : String) : Progress :=
      (ancestors word).reverse.foldl (fun q w => if q.status = p.status then removeOne q w else q) p
    if o.words.isEmpty then p.refuse "missing operand"
    else o.words.foldl (if o.has ['p'] then removeAll else removeOne) p

/-- Removes one operand; directories only where that is asked for. -/
def removeOne (deep forced : Bool) (p : Progress) (word : String) : Progress :=
  match p.fs.findUnfollowed ⟨word⟩ with
  | .error e =>
    if forced && (e = .noEntry || e = .notDirectory) then p
    else p.change "cannot remove" word (.error e)
  | .ok (_, .directory) =>
    if deep then
      match p.fs.removeTree ⟨word⟩ with
      | (.ok (), fs) => { p with fs }
      | (.error e, fs) => { p with fs }.change "cannot remove" word (.error e)
    else p.change "cannot remove" word (.error .isDirectory)
  | .ok _ => p.change "cannot remove" word (p.fs.removeFile ⟨word⟩)

def remove : Work :=
  taking ([⟨'f', "force", .never, true⟩, ⟨'r', "recursive", .never, true⟩,
    ⟨'d', "dir", .never, true⟩, ⟨'v', "verbose", .never, true⟩, .named "interactive" .attached,
    .named "one-file-system", .named "no-preserve-root", .named "preserve-root" .attached] ++
    Switch.plain "iIR") fun p o =>
    let isDots (word : String) : Bool :=
      let core := (word.toList.reverse.dropWhile (· = '/'))
      let name := core.takeWhile (· ≠ '/')
      name = ['.'] || name = ['.', '.']
    let deep := o.has ['r', 'R']
    let one (p : Progress) (word : String) : Progress :=
      if deep && isDots word then
        p.complain ("refusing to remove '.' or '..' directory: skipping " ++ quoted word)
      else if deep && word ≠ "" && word.all (· = '/') then
        (p.complain "it is dangerous to operate recursively on '/'").complain
          "use --no-preserve-root to override this failsafe"
      else if o.has ['d'] && !deep && p.fs.hasDirectory ⟨word⟩ then
        p.change "cannot remove" word (p.fs.removeDirectory ⟨word⟩)
      else removeOne deep (o.has ['f']) p word
    if o.words.isEmpty then if o.has ['f'] then p else p.refuse "missing operand"
    else o.words.foldl one p

def touch : Work :=
  taking ([⟨'c', "no-create", .never, true⟩, ⟨'d', "date", .always, true⟩,
    ⟨'h', "no-dereference", .never, true⟩, ⟨'r', "reference", .always, true⟩,
    ⟨'t', "", .always, true⟩, .named "time" .always] ++ Switch.plain "afm") fun p o =>
    if o.words.isEmpty then p.refuse "missing file operand"
    else o.words.foldl (fun p word =>
      if p.fs.has ⟨word⟩ || o.has ['c'] then p
      else p.change "cannot touch" word (p.fs.append ⟨word⟩ .empty)) p

/-- Writes files, or the input for none of them or a dash. -/
def concatenate : Work :=
  taking ([⟨'A', "show-all", .never, true⟩, ⟨'b', "number-nonblank", .never, true⟩,
    ⟨'E', "show-ends", .never, true⟩, ⟨'n', "number", .never, true⟩,
    ⟨'s', "squeeze-blank", .never, true⟩, ⟨'T', "show-tabs", .never, true⟩,
    ⟨'v', "show-nonprinting", .never, true⟩] ++ Switch.plain "etu") fun p o =>
    (if o.words.isEmpty then ["-"] else o.words).foldl (fun p word =>
      if word = "-" then { p with written := p.written ++ [(.out, p.input)], input := .empty }
      else match p.fs.read ⟨word⟩ with
        | .ok content => { p with written := p.written ++ [(.out, content)] }
        | .error e => p.complain (word ++ ": " ++ e.describe)) p

def inside (directory operand : String) : String :=
  match (Path.mk operand).fileName? with
  | some n => ((Path.mk directory).join ⟨n⟩).text
  | none => directory

def copyFile (p : Progress) (source target : String) : Progress :=
  match p.fs.find ⟨source⟩ with
  | .ok (l, .file content executable) =>
    let isNew := !p.fs.has ⟨target⟩
    if (p.fs.find ⟨target⟩).toOption.any (·.1 = l) then
      p.complain (quoted source ++ " and " ++ quoted target ++ " are the same file")
    else p.change "cannot create regular file" target do
      let fs ← p.fs.write ⟨target⟩ content
      if isNew then fs.setExecutable ⟨target⟩ executable else return fs
  | .ok _ => p.complain ("-r not specified; omitting directory " ++ quoted source)
  | .error e => p.change "cannot stat" source (.error e)

def copyTree (p : Progress) (source target : String) : Progress :=
  match p.fs.find ⟨source⟩ with
  | .ok (l, .directory) =>
    match p.fs.makeDirectories ⟨target⟩ with
    | (.error e, fs) => { p with fs }.change "cannot create directory" target (.error e)
    | (.ok (), fs) =>
      match fs.find ⟨target⟩ with
      | .error e => { p with fs }.change "cannot stat" target (.error e)
      | .ok (m, _) =>
        let copies := (fs.entriesBelow l).map (fun (k, e) => (m ++ k.drop l.length, e))
        { p with fs := copies.foldl (fun fs (k, e) => fs.put k e) fs }
  | _ => copyFile p source target

/-- Works on each operand but the last, and where it goes. -/
def onto (verb : String) (work : Progress → String → String → Progress) : Work := fun p args =>
  match args.getLast?, args.dropLast with
  | none, _ => p.refuse "missing file operand"
  | some only, [] => p.refuse ("missing destination file operand after " ++ quoted only)
  | some target, sources =>
    if p.fs.hasDirectory ⟨target⟩ then
      sources.foldl (fun p source => work p source (inside target source)) p
    else match sources with
      | [source] => work p source target
      | _ => p.complain ("target " ++ quoted target ++ verb)

def placing : List Switch :=
  [⟨'f', "force", .never, true⟩, ⟨'i', "interactive", .never, true⟩,
    ⟨'n', "no-clobber", .never, true⟩, ⟨'S', "suffix", .always, true⟩,
    ⟨'t', "target-directory", .always, true⟩, ⟨'T', "no-target-directory", .never, true⟩,
    ⟨'v', "verbose", .never, true⟩, .named "backup" .attached] ++ Switch.plain "bu"

def copy : Work :=
  taking (placing ++ [⟨'a', "archive", .never, true⟩, ⟨'l', "link", .never, true⟩,
    ⟨'L', "dereference", .never, true⟩, ⟨'P', "no-dereference", .never, true⟩,
    ⟨'R', "recursive", .never, true⟩, ⟨'s', "symbolic-link", .never, true⟩,
    .named "preserve" .attached] ++ Switch.plain "dprxH") fun p o =>
    onto ": No such file or directory" (if o.has ['r', 'R', 'a'] then copyTree else copyFile) p
      o.words

def moveOne (p : Progress) (source target : String) : Progress :=
  match p.fs.findUnfollowed ⟨source⟩ with
  | .error e => p.change "cannot stat" source (.error e)
  | .ok (l, .directory) =>
    match p.fs.makeDirectory ⟨target⟩ with
    | .error e =>
      if p.fs.hasFile ⟨target⟩ then p.complain ("cannot overwrite non-directory " ++
        quoted target ++ " with directory " ++ quoted source)
      else p.change ("cannot move " ++ quoted source ++ " to") target (.error e)
    | .ok fs =>
      if (fs.find ⟨target⟩).toOption.any (l.isPrefixOf ·.1) then p.complain ("cannot move " ++
        quoted source ++ " to a subdirectory of itself, " ++ quoted target)
      else
      match fs.find ⟨target⟩ with
      | .ok (m, _) =>
        let moved := (fs.entriesBelow l).map (fun (k, e) => (m ++ k.drop l.length, e))
        let cleared := (fs.eraseBelow l).erase l
        { p with fs := moved.foldl (fun fs (k, e) => fs.put k e) cleared }
      | .error e => p.change "cannot stat" target (.error e)
  | .ok (l, _) =>
    if (p.fs.findUnfollowed ⟨target⟩).toOption.any (·.1 = l) then
      p.complain (quoted source ++ " and " ++ quoted target ++ " are the same file")
    else p.change ("cannot move " ++ quoted source ++ " to") target
      (p.fs.rename ⟨source⟩ ⟨target⟩)

def move : Work :=
  taking placing fun p o => onto ": No such file or directory" moveOne p o.words

/-- Makes one link, in the place of another if that is asked for; a hard link is a copy. -/
def linkOne (symbolic forced : Bool) (p : Progress) (source target : String) : Progress :=
  let cleared := if forced then ((p.fs.removeFile ⟨target⟩).toOption).getD p.fs else p.fs
  if symbolic then
    { p with fs := cleared }.change "failed to create symbolic link" target
      (cleared.makeLink ⟨target⟩ source)
  else match p.fs.read ⟨source⟩ with
    | .error .isDirectory =>
      p.complain (source ++ ": hard link not allowed for directory")
    | .error e => p.change "failed to access" source (.error e)
    | .ok _ =>
      if cleared.has ⟨target⟩ then
        p.change "failed to create hard link" target (.error .alreadyExists)
      else copyFile { p with fs := cleared } source target

def link : Work :=
  taking (placing ++ [⟨'s', "symbolic", .never, true⟩, ⟨'r', "relative", .never, true⟩] ++
    Switch.plain "dFLP") fun p o =>
    let one := linkOne (o.has ['s']) (o.has ['f'])
    match o.words with
    | [source] => onto "" one p [source, "."]
    | words => onto ": No such file or directory" one p words

def bitsOf (executable : Bool) : Nat := if executable then 0o755 else 0o644

def changeMode : Work := fun p args =>
  let words := args.filter (fun a => a ≠ "-R" && a ≠ "-v" && a ≠ "-f" && a ≠ "--")
  match words with
  | [] => p.refuse "missing operand"
  | [mode] => p.refuse ("missing operand after " ++ quoted mode)
  | mode :: files =>
    if (Permission.change? 0 mode 0).isNone then p.refuse ("invalid mode: " ++ quoted mode)
    else files.foldl (fun p word =>
      match p.fs.find ⟨word⟩ with
      | .error e => p.change "cannot access" word (.error e)
      | .ok (_, .file _ executable) =>
        let bits := (Permission.change? 0o022 mode (bitsOf executable)).getD 0
        p.change "changing permissions of" word (p.fs.setExecutable ⟨word⟩ (bits &&& 0o111 ≠ 0))
      | .ok _ => p) p

def list : Work :=
  taking ([⟨'a', "all", .never, true⟩, ⟨'A', "almost-all", .never, true⟩,
    ⟨'d', "directory", .never, true⟩, ⟨'r', "reverse", .never, true⟩,
    .named "color" .attached] ++ Switch.plain "1CUNx") fun p o =>
    let words := if o.words.isEmpty then ["."] else o.words
    let sorted (names : List String) : List String :=
      let names := names.mergeSort (fun a b => a ≤ b)
      if o.has ['r'] then names.reverse else names
    let lines (names : List String) : String := String.join ((sorted names).map (· ++ "\n"))
    let names (l : Location) : List String :=
      (if o.has ['a'] then [".", ".."] else []) ++
      ((p.fs.entriesBelow l).filterMap (fun (m, _) =>
        if m.length = l.length + 1 then m.getLast? else none)).filter (fun n =>
          n.toList.head? ≠ some '.' || o.has ['a', 'A'])
    let missing := words.filter (fun w => (p.fs.findUnfollowed ⟨w⟩).toOption.isNone)
    let found := words.filter (fun w => !missing.contains w)
    let isDirectory (w : String) : Bool := p.fs.hasDirectory ⟨w⟩ && !o.has ['d']
    let p := missing.foldl (fun p w =>
      { p.change "cannot access" w (.error .noEntry) with status := 2 }) p
    let p := p.say (lines (found.filter (!isDirectory ·)))
    (found.filter isDirectory).foldl (fun p w =>
      let heading := if words.length < 2 then "" else w ++ ":\n"
      match p.fs.find ⟨w⟩ with
      | .ok (l, _) => p.say (heading ++ lines (names l))
      | .error _ => p) p

/-- Writes its arguments; backslashes mean something only where that is asked for. -/
def echo : Work := fun p args =>
  let isOption (a : String) : Bool :=
    a.length > 1 && a.startsWith "-" && (a.toList.drop 1).all ("neE".toList.contains ·)
  let options := (args.takeWhile isOption).flatMap String.toList
  let text := String.intercalate " " (args.dropWhile isOption)
  let (shown, stop) := if options.contains 'e' then
      let (cs, stop) := Shell.Format.unescapeAll text.toList
      (String.ofList cs, stop)
    else (text, false)
  p.say (if options.contains 'n' || stop then shown else shown ++ "\n")

/-- The last name of a path, without a suffix unless that is all of it. -/
def lastName (word suffix : String) : String :=
  let core := (word.toList.reverse.dropWhile (· = '/')).reverse
  let name := (core.reverse.takeWhile (· ≠ '/')).reverse
  let shown := if word ≠ "" && core = [] then ['/'] else name
  let suffix := suffix.toList
  String.ofList (if suffix ≠ [] && suffix.isSuffixOf shown && suffix ≠ shown
    then shown.take (shown.length - suffix.length) else shown)

def baseName : Work :=
  taking [⟨'a', "multiple", .never, true⟩, ⟨'s', "suffix", .always, true⟩,
    ⟨'z', "zero", .never, true⟩] fun p o =>
    let ending := if o.has ['z'] then "\x00" else "\n"
    match o.words with
    | [] => p.refuse "missing operand"
    | word :: rest =>
      if o.has ['a', 's'] then
        o.words.foldl (fun p w => p.say (lastName w ((o.value? 's').getD "") ++ ending)) p
      else match rest with
        | _ :: extra :: _ => p.refuse ("extra operand " ++ quoted extra)
        | rest => p.say (lastName word (rest.headD "") ++ ending)

def directoryName : Work :=
  taking [⟨'z', "zero", .never, true⟩] fun p o =>
    if o.words.isEmpty then p.refuse "missing operand"
    else o.words.foldl (fun p word =>
      let core := (word.toList.reverse.dropWhile (· = '/')).dropWhile (· ≠ '/')
      let front := (core.dropWhile (· = '/')).reverse
      let shown := if front ≠ [] then front else if core ≠ [] || word.startsWith "/" then ['/']
        else ['.']
      p.say (String.ofList shown ++ (if o.has ['z'] then "\x00" else "\n"))) p

def printFormat : Work := fun p args =>
  match (if args.head? = some "--" then args.drop 1 else args) with
  | [] => p.refuse "missing operand"
  | format :: args =>
    let (r, mistake) := Shell.Format.print (Shell.Octets.ofText format) (args.map Shell.Octets.ofText)
    let p := (r.complaints ++ mistake.toList).foldl complainOf p
    { p with written := p.written ++ [(.out, Shell.Octets.toBytes r.written)] }
where
  complainOf (p : Progress) (text : String) : Progress := p.complain (Shell.Octets.toText text)

def test : Work := fun p args =>
  match Shell.Condition.holds p.fs (args.map Shell.Octets.ofText) with
  | .ok b => { p with status := if b then 0 else 1 }
  | .error complaint => { p.complain complaint with status := 2 }

def bracket : Work := fun p args =>
  if args.getLast? = some "]" then test p args.dropLast
  else { p.complain "missing ']'" with status := 2 }

def isInterval (word : String) : Bool :=
  let s := Shell.Floating.scan word.toList
  s.found && !s.value.negative &&
    (s.rest = [] || (s.rest.length = 1 && s.rest.all ("smhd".toList.contains ·)))

/-- Waits for no time at all, whatever time is asked for. -/
def sleep : Work :=
  taking [] fun p o =>
    match o.words, o.words.filter (!isInterval ·) with
    | [], _ => p.refuse "missing operand"
    | _, [] => p
    | _, bad :: more =>
      let p := (bad :: more).dropLast.foldl (fun p w =>
        p.complain ("invalid time interval " ++ quoted w)) p
      p.refuse ("invalid time interval " ++ quoted ((bad :: more).getLastD ""))

def tee : Work :=
  taking ([⟨'a', "append", .never, true⟩, ⟨'i', "ignore-interrupts", .never, true⟩,
    .named "output-error" .attached] ++ Switch.plain "p") fun p o =>
    let content := p.input
    let p := { p with written := p.written ++ [(.out, content)], input := .empty }
    o.words.foldl (fun p word =>
      match if o.has ['a'] then p.fs.append ⟨word⟩ content else p.fs.write ⟨word⟩ content with
      | .ok fs => { p with fs }
      | .error e => p.complain (word ++ ": " ++ e.describe)) p

def workingDirectory : Work :=
  taking (Switch.plain "LP") fun p o =>
    let p := if o.words.isEmpty then p
      else { p with written := p.written ++
        [(.err, (p.name ++ ": ignoring non-option arguments\n").toUTF8)] }
    p.say ((FileSystem.pathOf p.fs.cwd).text ++ "\n")

def all : List (String × Work) :=
  [("mkdir", makeDirectories), ("rmdir", removeDirectories), ("rm", remove), ("touch", touch),
    ("cat", concatenate), ("cp", copy), ("mv", move), ("ln", link), ("chmod", changeMode),
    ("ls", list), ("echo", echo), ("basename", baseName), ("dirname", directoryName),
    ("printf", printFormat), ("test", test), ("[", bracket), ("sleep", sleep), ("tee", tee),
    ("true", fun p _ => p), ("false", fun p _ => { p with status := 1 }),
    ("pwd", workingDirectory)]

def run (w : Work) (r : Request) (fs : FileSystem) : Outcome :=
  (w (.ofRequest r fs) (r.words.drop 1)).outcome

end Program
end Provision.Host
