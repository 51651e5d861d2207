import Provision.Bootstrap
import Provision.Doctor
import Provision.Json
import Provision.SearchPath
import Provision.Stubs

namespace Provision

namespace Json

def strings (items : List String) : Json := array (items.map string)

def optional (s : Option String) : Json :=
  match s with
  | some s => string s
  | none => null

end Json

/-- The directory and the variables are left out where there are none. -/
def Command.toJson (c : Command) : Json :=
  let cwd := match c.cwd with
    | some dir => [("cwd", Json.string dir.text)]
    | none => []
  let env := if c.env.isEmpty then []
    else [("env", Json.array (c.env.map (fun (name, value) => Json.strings [name, value])))]
  .object ([("program", .string c.program), ("args", Json.strings c.args)] ++ cwd ++ env)

def commandsJson (cs : List Command) : Json := .array (cs.map Command.toJson)

def BuildReport.toJson (r : BuildReport) : Json :=
  .object [
    ("platform", .string r.platform.name),
    ("variant", .string r.variant.name),
    ("escalation", .string r.escalation.name),
    ("missing_packages", Json.strings r.missingPackages),
    ("archive", .string r.archive.name),
    ("archive_dir", .string r.archiveDir.text),
    ("steps", commandsJson r.steps),
    ("dry_run", .bool r.dryRun)]

def StubReport.toJson (r : StubReport) : Json :=
  .object [
    ("out_dir", .string r.outDir.text),
    ("invocations", commandsJson r.invocations),
    ("dry_run", .bool r.dryRun)]

def Check.toJson (c : Check) : Json :=
  .object [("name", .string c.name), ("status", .string c.status.name)]

def DoctorReport.toJson (r : DoctorReport) : Json :=
  .object [
    ("overall", .string r.overall),
    ("platform", Json.optional (r.platform.map Platform.name)),
    ("checks", .array (r.checks.map Check.toJson))]

def Variable.toJson (v : Variable) : Json :=
  .object [("name", .string v.name), ("value", .string v.value)]

def Json.success (data : Json) : Json := .object [("ok", .bool true), ("data", data)]

def Failure.toJson (e : Failure) : Json :=
  .object [
    ("ok", .bool false),
    ("error", .object [("code", .string e.code), ("message", .string e.message)])]

end Provision
