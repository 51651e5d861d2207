import Provision.Config
import Provision.Layout
import Provision.Toml.Document

namespace Provision
namespace Toml.Value

def string? : Value → Option String
  | string t => some t
  | _ => none

def strings? : Value → Option (List String)
  | array _ items => items.mapM string?
  | _ => none

def isEmpty : Value → Bool
  | array _ [] => true
  | table _ [] => true
  | _ => false

def variant? : Value → Option Variant
  | string t => Variant.ofName? t
  | table _ [(name, v)] => if v.isEmpty then Variant.ofName? name else none
  | _ => none

/-- The fields of a section in the order of `names`. A date has none that a section knows. -/
def fields? (names : List String) : Value → Option (List (Option Value))
  | table _ es => some (names.map (Entries.value? es))
  | array _ items => some ((List.range names.length).map (items[·]?))
  | moment _ => some (names.map (fun _ => none))
  | _ => none

end Toml.Value

namespace Config

open Toml (Value Entries)

/-- A field that is set is decoded; one that is not keeps its default. -/
def field {α : Type} (decode : Value → Option α) (initial : α) : Option Value → Option α
  | none => some initial
  | some v => decode v

def archiveOf? (v : Value) : Option ArchiveConfig := do
  let initial : ArchiveConfig := {}
  match ← v.fields? ["variant", "cpu_url", "cuda_url", "dir", "cpu_sha256", "cuda_sha256"] with
  | [variant, cpuUrl, cudaUrl, dir, cpuSha256, cudaSha256] =>
    pure {
      variant := ← field Value.variant? initial.variant variant
      cpuUrl := ← field Value.string? initial.cpuUrl cpuUrl
      cudaUrl := ← field Value.string? initial.cudaUrl cudaUrl
      dir := ← field Value.string? initial.dir dir
      cpuSha256 := ← field (fun v => v.string?.map some) initial.cpuSha256 cpuSha256
      cudaSha256 := ← field (fun v => v.string?.map some) initial.cudaSha256 cudaSha256 }
  | _ => none

def buildOf? (v : Value) : Option BuildConfig := do
  let initial : BuildConfig := {}
  match ← v.fields? ["program", "args", "server_dir"] with
  | [program, args, serverDir] =>
    pure {
      program := ← field Value.string? initial.program program
      args := ← field Value.strings? initial.args args
      serverDir := ← field Value.string? initial.serverDir serverDir }
  | _ => none

def protosOf? (v : Value) : Option ProtosConfig := do
  let initial : ProtosConfig := {}
  match ← v.fields? ["compiler", "proto_dir", "files", "out_dir", "includes"] with
  | [compiler, protoDir, files, outDir, includes] =>
    pure {
      compiler := ← field Value.strings? initial.compiler compiler
      protoDir := ← field Value.string? initial.protoDir protoDir
      files := ← field Value.strings? initial.files files
      outDir := ← field Value.string? initial.outDir outDir
      includes := ← field Value.strings? initial.includes includes }
  | _ => none

def privilegeOf? (v : Value) : Option PrivilegeConfig := do
  let initial : PrivilegeConfig := {}
  match ← v.fields? ["helper"] with
  | [helper] => pure { helper := ← field Value.strings? initial.helper helper }
  | _ => none

/-- A key that is set must have a value of its type; one that is not set has its default, whatever
the others are; keys that mean nothing are passed over. A section may also be an array, which sets
its fields in their order, and the variant a table with the name as its only key. -/
def ofEntries? (es : Entries) : Option Config := do
  let initial : Config := {}
  pure {
    archive := ← field archiveOf? initial.archive (Entries.value? es "archive")
    build := ← field buildOf? initial.build (Entries.value? es "build")
    protos := ← field protosOf? initial.protos (Entries.value? es "protos")
    privilege := ← field privilegeOf? initial.privilege (Entries.value? es "privilege") }

def ofText? (text : String) : Option Config := (Toml.parse? text).bind ofEntries?

/-- The file that settings are read from: the named one, or the workspace's own if there is one. -/
def source? (fs : FileSystem) (root : Path) : (named : Option Path) → Option Path
  | some p => some p
  | none => if fs.has (Layout.defaultConfig root) then some (Layout.defaultConfig root) else none

def malformed : Cause := .other "TOML parse error"

def readFrom (fs : FileSystem) (p : Path) : Except Failure Config :=
  let unreadable (e : IoError) : Failure :=
    (Failure.ofIo e).withContext ("failed to read config " ++ p.text)
  match fs.read p with
  | .error e => .error (unreadable e)
  | .ok bytes =>
    match String.fromUTF8? bytes with
    | none => .error (unreadable .notText)
    | some text =>
      match ofText? text with
      | some c => .ok c
      | none => .error ⟨malformed, ["invalid config " ++ p.text]⟩

/-- A named file must be there; without one the workspace's own settings are optional. -/
def load (fs : FileSystem) (root : Path) (named : Option Path) : Except Failure Config :=
  match source? fs root named with
  | none => .ok {}
  | some p => readFrom fs p

end Config
end Provision
