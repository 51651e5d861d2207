import Provision.Config
import Provision.Failure
import Provision.FileSystem.Operations

namespace Provision

/-- Where the parts of a workspace are. All configured paths are joined to the root, so an absolute
one stands for itself. -/
structure Layout where
  root : Path
deriving DecidableEq

namespace Layout

def resolve (fs : FileSystem) (root : Path) : Except Failure Layout :=
  match fs.realPath root with
  | .ok p => .ok ⟨p⟩
  | .error e => .error ((Failure.ofIo e).withContext ("project root not found: " ++ root.text))

def archiveDir (l : Layout) (c : Config) : Path := l.root.join ⟨c.archive.dir⟩

/-- The zip lies beside the directory that it is unpacked into. -/
def archiveZip (l : Layout) (c : Config) : Path :=
  let dir := l.archiveDir c
  dir.withFileName (dir.fileName?.getD "libtorch" ++ ".zip")

def serverDir (l : Layout) (c : Config) : Path := l.root.join ⟨c.build.serverDir⟩

def protoDir (l : Layout) (c : Config) : Path := l.root.join ⟨c.protos.protoDir⟩

def stubOutDir (l : Layout) (c : Config) : Path := l.root.join ⟨c.protos.outDir⟩

def includes (l : Layout) (c : Config) : List Path := c.protos.includes.map (l.root.join ⟨·⟩)

/-- The settings file that is read when none is named. -/
def defaultConfig (root : Path) : Path := root.join ⟨"bastion-dev.toml"⟩

end Layout
end Provision
