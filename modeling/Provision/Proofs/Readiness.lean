import Provision.Proofs.ArchivePhase
import Provision.Proofs.ChecksumGate
import Provision.Proofs.StubRun

namespace Provision

variable {σ τ : Type}

theorem DoctorReport.isReady_of_overall {r : DoctorReport} (h : r.overall = "ok") :
    r.isReady = true := by
  unfold overall at h
  split at h
  · assumption
  · simp at h

namespace Doctor

variable {A : Agents σ} {hostRoot : Path} {l : Layout} {c : Config} {w w' : World σ}
  {report : DoctorReport}

/-- A report is about the platform that was found when the examination began, and about the files
that were there when it was over. -/
theorem examine_eq_ok (h : examine A.toRunner hostRoot l c w = (.ok report, w')) :
    report.platform = Platform.detect? w.fs hostRoot ∧ ∃ tools,
      report.checks = platformCheck report.platform ::
        (tools ++ (neededPaths l c).map (pathCheck w'.fs)) := by
  obtain ⟨w₁, _, hfound⟩ := findPlatform?_continues A hostRoot w
  unfold examine at h
  rw [Work.bind_of_ok hfound] at h
  obtain ⟨tools, w₂, _, h⟩ := Work.bind_eq_ok h
  obtain ⟨paths, w₃, hpaths, h⟩ := Work.bind_eq_ok h
  cases hpaths
  cases h
  exact ⟨rfl, tools, rfl⟩

/-- A report that is fine has found the platform and every path that is needed. -/
theorem found_of_overall (h : examine A.toRunner hostRoot l c w = (.ok report, w'))
    (hok : report.overall = "ok") :
    (∃ platform, Platform.detect? w.fs hostRoot = some platform ∧
      report.platform = some platform) ∧
      ∀ need ∈ neededPaths l c, w'.fs.has need.2 = true := by
  obtain ⟨hplatform, tools, hchecks⟩ := examine_eq_ok h
  have ready := DoctorReport.isReady_of_overall hok
  unfold DoctorReport.isReady at ready
  rw [hchecks, List.all_cons, Bool.and_eq_true, List.all_append, Bool.and_eq_true,
    List.all_map] at ready
  obtain ⟨hmarked, -, hneeded⟩ := ready
  constructor
  · cases hp : report.platform with
    | none => simp [platformCheck, hp, CheckStatus.isFine] at hmarked
    | some platform => exact ⟨platform, hplatform.symm.trans hp, rfl⟩
  · intro need hneed
    have hfine := List.all_eq_true.mp hneeded need hneed
    cases hhas : w'.fs.has need.2 with
    | true => rfl
    | false => simp [pathCheck, hhas, CheckStatus.isFine] at hfine

end Doctor

namespace StubRequest

variable {A : Agents σ} {req : StubRequest} {w : World σ}

theorem prepare_of_dry (hd : req.dryRun = true) : req.prepare w = (.ok req.outDir, w) := by
  unfold prepare
  rw [hd]
  rfl

/-- A runner that never fails lets all commands through. -/
theorem InTurn.of_unfailing {α : Type} {commands : List Command} {a : α} {calls : List Event}
    {r : Except Failure α} {w' : World σ} (h : InTurn commands a calls r)
    (hw : w.Continues A calls [] w') (hrun : ∀ c s, (A.run c s).1.1 = .ok ()) : r = .ok a := by
  cases h with
  | through => rfl
  | upTo split asked unfailing =>
    obtain ⟨t, -, last⟩ := hw.served.split
    have hanswer := congrArg Prod.fst (last.answer (q := .run _) rfl)
    simp [Agents.answer, hrun] at hanswer

end StubRequest
def plannedStubs (l : Layout) (c : Config) : StubRequest := Tool.stubRequest l c none true

/-- With a compiler, and every definition file there, nothing is in the way of stubs. -/
theorem plannedStubs_free {l : Layout} {c : Config} {fs : FileSystem}
    (hcompiler : c.protos.files = [] ∨ c.protos.compiler ≠ [])
    (hfiles : ∀ file ∈ c.protos.files, fs.hasFile ((l.protoDir c).join ⟨file⟩) = true) :
    ¬ (plannedStubs l c).Obstructed fs c.protos.files := by
  rintro (⟨file, hmem, habsent⟩ | ⟨hne, hnone⟩)
  · have hfile := hfiles file hmem
    rw [show (plannedStubs l c).input file = (l.protoDir c).join ⟨file⟩ from rfl, hfile] at habsent
    cases habsent
  · rcases hcompiler with hnil | hsome
    · exact hne hnil
    · exact hsome hnone

/-- What a fine report promises of the files that it was made from: the platform is detected, the
archive is present, and, where there is a compiler for the definition files and nothing but files
stands at their paths, stubs can be planned. -/
theorem commands_agree_with_doctor (A : Agents σ) (hostRoot : Path) (l : Layout) (c : Config)
    {w w' : World σ} {report : DoctorReport}
    (h : Doctor.examine A.toRunner hostRoot l c w = (.ok report, w'))
    (hok : report.overall = "ok") :
    (∃ platform, Platform.detect w.fs hostRoot = .ok platform ∧ report.platform = some platform) ∧
    (∀ (B : Agents τ) (v : World τ) (req : ArchiveRequest), v.fs = w'.fs →
      req.unpackDir = l.archiveDir c →
        ∃ v', req.ensure B v = (.ok .present, v') ∧ v.Continues B [] [] v') ∧
    ((c.protos.files = [] ∨ c.protos.compiler ≠ []) →
      (∀ file ∈ c.protos.files, w'.fs.has ((l.protoDir c).join ⟨file⟩) = true →
        w'.fs.hasFile ((l.protoDir c).join ⟨file⟩) = true) →
      ∀ (B : Agents τ) (v : World τ), v.fs = w'.fs →
        let req := plannedStubs l c
        let result := req.generate B.toRunner v
        ∃ commands calls,
          commands.map some =
            c.protos.files.map (fun file => Command.ofWords? (req.words req.outDir file)) ∧
          v.Continues B calls [] result.2 ∧
          StubRequest.InTurn commands ⟨req.outDir, commands, true⟩ calls result.1 ∧
          ((∀ command s, (B.run command s).1.1 = .ok ()) →
            result.1 = .ok ⟨req.outDir, commands, true⟩)) := by
  obtain ⟨⟨platform, hdetect, hreport⟩, hneeded⟩ := Doctor.found_of_overall h hok
  refine ⟨⟨platform, ?_, hreport⟩, ?_, ?_⟩
  · unfold Platform.detect
    rw [hdetect]
  · intro B v req hfs hdir
    refine ArchiveRequest.ensure_present B ?_
    rw [hfs, hdir]
    exact hneeded ("archive", l.archiveDir c) (by simp [Doctor.neededPaths])
  · intro hcompiler hregular B v hfs req result
    have hfiles : ∀ file ∈ c.protos.files,
        v.fs.hasFile ((l.protoDir c).join ⟨file⟩) = true := by
      intro file hmem
      rw [hfs]
      refine hregular file hmem (hneeded ("proto:" ++ file, _) ?_)
      exact List.mem_append_right _ (List.mem_map.mpr ⟨file, hmem, rfl⟩)
    have hfree := plannedStubs_free hcompiler hfiles
    have prepared : req.prepare v = (.ok req.outDir, v) := StubRequest.prepare_of_dry rfl
    rcases req.plan_spec v.fs req.outDir req.files with
      ⟨e, -, refused⟩ | ⟨commands, hplan, -, hcommands⟩
    · exact absurd refused.obstructed hfree
    · obtain ⟨calls, continued, inTurn⟩ := StubRequest.generate_of_planned prepared hplan
      exact ⟨commands, calls, hcommands, continued, inTurn, inTurn.of_unfailing continued⟩

def agreeable : Agents Unit := { Runner.plan true none, Fetcher.idle with }

def workspace (definition : Entry) : World Unit where
  fs := {
    entries := [(["etc"], .directory), (["etc", "debian_version"], .file .empty false),
      (["w"], .directory), (["w", "server"], .directory), (["w", "libtorch"], .directory),
      (["w", "protos"], .directory), (["w", "protos", "remote_torch.proto"], definition)] }
  agent := ()

def examined (definition : Entry) (c : Config) : Except Failure DoctorReport × World Unit :=
  Doctor.examine agreeable.toRunner ⟨"/"⟩ ⟨⟨"/w"⟩⟩ c (workspace definition)

def stubbed (definition : Entry) (c : Config) : Except Failure StubReport :=
  ((plannedStubs ⟨⟨"/w"⟩⟩ c).generate agreeable.toRunner (examined definition c).2).1

/-- Two reports that are fine and promise too much: an examination skips a compiler that is not
there, and takes a directory for a definition file. -/
theorem fine_reports_without_stubs :
    let uncompiled : Config := { protos := { compiler := [] } }
    let file : Entry := .file .empty false
    (examined file uncompiled).1.map DoctorReport.overall = .ok "ok" ∧
      (examined file uncompiled).2.fs = (workspace file).fs ∧
      (stubbed file uncompiled).map StubReport.dryRun = .error emptyCompiler ∧
    (examined .directory {}).1.map DoctorReport.overall = .ok "ok" ∧
      (examined .directory {}).2.fs = (workspace .directory).fs ∧
      (stubbed .directory {}).map StubReport.dryRun =
        .error (.ofFault (.missingProto ⟨"/w/protos/remote_torch.proto"⟩)) := by
  refine ⟨?_, rfl, ?_, ?_, rfl, ?_⟩ <;> decide +kernel

/-- With the default settings and a definition file, stubs are planned as the report promises. -/
theorem fine_report_with_stubs :
    let file : Entry := .file .empty false
    ∃ report w', examined file {} = (.ok report, w') ∧ report.overall = "ok" ∧
      ∃ commands, commands.length = 1 ∧
        stubbed file {} = .ok ⟨⟨"/w/client/bastionai/pb"⟩, commands, true⟩ := by
  intro file
  have hoverall : (examined file {}).1.map DoctorReport.overall = .ok "ok" := by decide +kernel
  have hregular : (examined file {}).2.fs.hasFile ⟨"/w/protos/remote_torch.proto"⟩ = true := by
    decide +kernel
  cases h : examined file {} with
  | mk r w' =>
    rw [h] at hoverall hregular
    cases r with
    | error e => cases hoverall
    | ok report =>
      have hok : report.overall = "ok" := by simpa [Except.map] using hoverall
      obtain ⟨-, -, promised⟩ :=
        commands_agree_with_doctor (τ := Unit) agreeable ⟨"/"⟩ ⟨⟨"/w"⟩⟩ {} h hok
      have hfiles : ∀ file ∈ ({} : Config).protos.files,
          w'.fs.has ((Layout.protoDir ⟨⟨"/w"⟩⟩ {}).join ⟨file⟩) = true →
            w'.fs.hasFile ((Layout.protoDir ⟨⟨"/w"⟩⟩ {}).join ⟨file⟩) = true := by
        intro file hmem _
        rw [List.mem_singleton.mp hmem]
        exact hregular
      obtain ⟨commands, calls, hcommands, -, -, hdone⟩ :=
        promised (.inr (by decide)) hfiles agreeable w' rfl
      refine ⟨report, w', rfl, hok, commands, ?_, ?_⟩
      · simpa using congrArg List.length hcommands
      · unfold stubbed
        rw [h]
        exact hdone fun _ _ => rfl

end Provision
