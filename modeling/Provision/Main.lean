import Provision.Tool

namespace Provision.Main

def depthLimit : Nat := 6

/-- Larger files are taken as empty. -/
def sizeLimit : Nat := 65536

def locationOf (path : String) : Location := (FileSystem.stepsOf path).filter (· ≠ "")

def withParents (l : Location) : List (Location × Entry) :=
  (List.range l.length).map (fun n => (l.take (n + 1), .directory))

/-- Reads an entry and, within `depth`, what is below it; what cannot be read is left out. -/
def collect (depth : Nat) (e : IO.FS.DirEntry) : IO (List (Location × Entry)) := do
  let l := locationOf e.path.toString
  try
    if ← e.path.isDir then
      match depth with
      | 0 => pure [(l, .directory)]
      | depth + 1 =>
        let inner ← (← e.path.readDir).toList.mapM (collect depth)
        pure ((l, .directory) :: inner.flatten)
    else
      let size := (← e.path.metadata).byteSize.toNat
      let content ← if size ≤ sizeLimit then IO.FS.readBinFile e.path else pure .empty
      pure [(l, .file content false)]
  catch _ => pure []

def markers : IO (List (Location × Entry)) := do
  let found ← Platform.all.mapM (fun p => do
    let path : String := (p.markerUnder ⟨"/"⟩).text
    try
      let content ← IO.FS.readBinFile path
      let l := locationOf path
      pure (withParents l.dropLast ++ [(l, .file content false)])
    catch _ => pure [])
  pure found.flatten

def snapshot : IO FileSystem := do
  let here ← IO.currentDir
  let cwd := locationOf here.toString
  let below ← (← here.readDir).toList.mapM (collect depthLimit)
  let all := Host.baseEntries ++ withParents cwd ++ below.flatten ++ (← markers)
  pure (all.foldl (fun fs (l, e) => fs.put l e) { cwd })

def variableNames : List String :=
  ["HOME", "LD_LIBRARY_PATH", "PATH", "RUST_LOG", buildAsRootVariable, escalatedVariable,
    Invocation.hostRootVariable]

def environment : IO Environment :=
  variableNames.filterMapM (fun name => do pure ((← IO.getEnv name).map (name, ·)))

end Provision.Main

/-- Works on a snapshot of the files below the current directory. Plans, exports and checks of paths
are those of the tool; commands are rehearsed on the snapshot and change nothing outside it. -/
def main (args : List String) : IO UInt32 := do
  let surroundings : Provision.Surroundings := {
    environment := ← Provision.Main.environment
    isRoot := (← IO.getEnv "USER") = some "root"
    executable := ⟨(← IO.appPath).toString⟩
    args }
  let f := Provision.Tool.run surroundings Provision.Network.unreachable (← Provision.Main.snapshot)
  (← IO.getStdout).putStr f.printed.out
  (← IO.getStderr).putStr f.printed.err
  return UInt32.ofNat f.status
