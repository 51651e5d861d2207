import Provision.Path

namespace Provision

inductive Variant
  | cpu
  | cuda
deriving DecidableEq

namespace Variant

def name : Variant → String
  | cpu => "cpu"
  | cuda => "cuda"

def ofName? : String → Option Variant
  | "cpu" => some cpu
  | "cuda" => some cuda
  | _ => none

end Variant

structure ArchiveConfig where
  variant : Variant := .cpu
  cpuUrl : String := "https://download.pytorch.org/libtorch/cpu/libtorch-cxx11-abi-shared-with-deps-1.12.1%2Bcpu.zip"
  cudaUrl : String := "https://download.pytorch.org/libtorch/cu116/libtorch-cxx11-abi-shared-with-deps-1.12.1%2Bcu116.zip"
  /-- Where the archive is unpacked, relative to the root of the workspace. -/
  dir : String := "libtorch"
  /-- The digests to check the archives against; without one nothing is checked. -/
  cpuSha256 : Option String := none
  cudaSha256 : Option String := none
deriving DecidableEq

namespace ArchiveConfig

def url (c : ArchiveConfig) : Variant → String
  | .cpu => c.cpuUrl
  | .cuda => c.cudaUrl

def sha256 (c : ArchiveConfig) : Variant → Option String
  | .cpu => c.cpuSha256
  | .cuda => c.cudaSha256

end ArchiveConfig

structure BuildConfig where
  program : String := "cargo"
  args : List String := ["build", "--release"]
  serverDir : String := "server"
deriving DecidableEq

structure ProtosConfig where
  compiler : List String := ["python3", "-m", "grpc_tools.protoc"]
  protoDir : String := "protos"
  files : List String := ["remote_torch.proto"]
  outDir : String := "client/bastionai/pb"
  includes : List String := []
deriving DecidableEq

structure PrivilegeConfig where
  helper : List String := ["sudo", "-E"]
deriving DecidableEq

structure Config where
  archive : ArchiveConfig := {}
  build : BuildConfig := {}
  protos : ProtosConfig := {}
  privilege : PrivilegeConfig := {}
deriving DecidableEq

end Provision
