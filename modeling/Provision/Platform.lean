import Provision.Command
import Provision.Failure
import Provision.FileSystem.Operations

namespace Provision

inductive Platform
  | debian
  | rhel
deriving DecidableEq

namespace Platform

/-- The order in which markers are looked for; the first one found wins. -/
def all : List Platform := [debian, rhel]

def marker : Platform → Path
  | debian => ⟨"etc/debian_version"⟩
  | rhel => ⟨"etc/redhat-release"⟩

def name : Platform → String
  | debian => "debian"
  | rhel => "rhel"

def title : Platform → String
  | debian => "Debian"
  | rhel => "Rhel"

def markerUnder (platform : Platform) (hostRoot : Path) : Path := hostRoot.join platform.marker

def isMarked (fs : FileSystem) (hostRoot : Path) (platform : Platform) : Bool :=
  fs.has (platform.markerUnder hostRoot)

def detect? (fs : FileSystem) (hostRoot : Path) : Option Platform :=
  all.find? (isMarked fs hostRoot)

def checked (fs : FileSystem) (hostRoot : Path) : List Platform :=
  let before := all.takeWhile (fun p => !isMarked fs hostRoot p)
  before ++ (detect? fs hostRoot).toList

def detect (fs : FileSystem) (hostRoot : Path) : Except Fault Platform :=
  match detect? fs hostRoot with
  | some platform => .ok platform
  | none => .error (.unsupportedHost hostRoot)

end Platform

/-- All that differs between host families. -/
structure PlatformProfile where
  platform : Platform
  manager : String
  packages : List String
  probe : Command
  refresh : Option Command
  install : Command

namespace PlatformProfile

def debian : PlatformProfile where
  platform := .debian
  manager := "apt-get"
  packages := ["build-essential", "pkg-config", "libssl-dev", "cmake", "curl", "unzip", "python3",
    "python3-dev", "python3-pip"]
  probe := { program := "dpkg", args := ["-s"] }
  refresh := some { program := "apt-get", args := ["update"] }
  install := { program := "apt-get", args := ["install", "-y", "--no-install-recommends"] }

def rhel : PlatformProfile where
  platform := .rhel
  manager := "yum"
  packages := ["gcc", "gcc-c++", "make", "pkgconf-pkg-config", "openssl-devel", "cmake", "curl",
    "unzip", "python3", "python3-devel", "python3-pip"]
  probe := { program := "rpm", args := ["-q"] }
  refresh := none
  install := { program := "yum", args := ["install", "-y"] }

def probeOf (profile : PlatformProfile) (package : String) : Command := profile.probe.arg package

def installOf (profile : PlatformProfile) (packages : List String) : Command :=
  profile.install.withArgs packages

def version (profile : PlatformProfile) : Command :=
  { program := profile.manager, args := ["--version"] }

end PlatformProfile

def Platform.profile : Platform → PlatformProfile
  | .debian => .debian
  | .rhel => .rhel

end Provision
