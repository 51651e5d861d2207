import Provision.Digest.Sha256
import Provision.Text.Blank
import Provision.Work

namespace Provision

inductive ArchiveStatus
  | present
  | downloaded
  | planned
deriving DecidableEq

namespace ArchiveStatus

def name : ArchiveStatus → String
  | present => "present"
  | downloaded => "downloaded"
  | planned => "planned"

def title : ArchiveStatus → String
  | present => "Present"
  | downloaded => "Downloaded"
  | planned => "Planned"

end ArchiveStatus

structure ArchiveRequest where
  url : String
  /-- The digest to check the download against, in hexadecimal digits of either case. -/
  sha256 : Option String := none
  /-- The directory that the archive unpacks into. -/
  unpackDir : Path
  zipPath : Path
  dryRun : Bool := false

def unzipCommand (zip into : Path) : Command :=
  { program := "unzip", args := ["-q", "-o", zip.text, "-d", into.text] }

namespace FileSystem

def sha256 (fs : FileSystem) (p : Path) : Except IoError String := (fs.read p).map Sha256.hex

end FileSystem

namespace ArchiveRequest

variable {σ : Type}

def unzip (req : ArchiveRequest) : Command :=
  unzipCommand req.zipPath (req.unpackDir.parent?.getD ⟨"."⟩)

def downloadFault (req : ArchiveRequest) (reason : String) : Fault := .download req.url reason

/-- Whether a digest is the wanted one, blanks around it and case aside. -/
def accepts (expected actual : String) : Bool := Text.equalIgnoringCase actual (Text.trim expected)

def mismatch (expected actual : String) : String :=
  "checksum mismatch: expected " ++ expected ++ ", got " ++ actual

/-- Checks the zip against a digest, and removes it when it has another one. -/
def verify (req : ArchiveRequest) (expected : String) : Work σ Unit := do
  match ← Work.ask (·.sha256 req.zipPath) with
  | .error e => Work.failWith (req.downloadFault e.message)
  | .ok actual =>
    if accepts expected actual then pure ()
    else
      Work.attempt (·.removeFile req.zipPath)
      Work.failWith (req.downloadFault (mismatch expected actual))

/-- Fetches the zip and checks it, or only says so in a dry run. -/
def obtain (A : Agents σ) (req : ArchiveRequest) : Work σ Unit := do
  let fields := [("url", Log.quoted req.url), ("dest", req.zipPath.text)]
  if req.dryRun then
    Work.note .archive .info "archive download planned" fields
  else
    Work.note .archive .info "downloading archive" fields
    Work.fetch A.toFetcher req.url req.zipPath
    match req.sha256 with
    | some expected => req.verify expected
    | none => pure ()

/-- Removes what a failed unpacking may have left, as far as it can be removed. -/
def discard (req : ArchiveRequest) : Work σ Unit :=
  if req.dryRun then pure ()
  else do
    Work.attemptMany (·.removeTree req.unpackDir)
    Work.attempt (·.removeFile req.zipPath)

def unpack (A : Agents σ) (req : ArchiveRequest) : Work σ Unit := do
  Work.enter req.unzip
  (Work.run A.toRunner req.unzip).onFailure req.discard

/-- Makes sure that the unpack directory is there, or plans it in a dry run. The directory stands
for an installed archive: what is fetched is checked before it is unpacked, and what a failed
unpacking leaves is removed. -/
def ensure (A : Agents σ) (req : ArchiveRequest) : Work σ ArchiveStatus := do
  if ← Work.ask (·.has req.unpackDir) then
    Work.note .archive .info "archive already unpacked, skipping download"
      [("dir", req.unpackDir.text)]
    pure .present
  else
    req.obtain A
    req.unpack A
    if req.dryRun then pure .planned
    else
      if ← Work.ask (·.has req.zipPath) then
        Work.change (·.removeFile req.zipPath)
      pure .downloaded

end ArchiveRequest
end Provision
