import Provision.Proofs.ChecksumGate
import Provision.Proofs.PlannedRun
import Provision.Proofs.StubRun

namespace Provision

variable {σ α β : Type}

def Work.callsFrom (x : Work σ α) (w : World σ) : List Event := (x w).2.calls.drop w.calls.length

theorem Work.callsFrom_eq {x : Work σ α} {w : World σ} {calls : List Event}
    (h : (x w).2.calls = w.calls ++ calls) : x.callsFrom w = calls := by
  rw [callsFrom, h, List.drop_left]

def Event.missed? : Event → Option Command
  | probed c false => some c
  | _ => none

def Request.probe? : Request → Option Command
  | .probe c => some c
  | _ => none

def Request.fetch? : Request → Option (String × Path)
  | .fetch url target => some (url, target)
  | _ => none

theorem probe_of_request {e : Event} {q : Request} (h : e.request? = some q) :
    e.probe? = q.probe? := by
  cases e <;> cases h <;> rfl

theorem fetch_of_request {e : Event} {q : Request} (h : e.request? = some q) :
    e.fetch? = q.fetch? := by
  cases e <;> cases h <;> rfl

/-- Whatever calls show of their requests can be read off what was to be asked. -/
theorem filterMap_of_requests {γ : Type} {f : Event → Option β} {k : Request → Option β}
    {request : γ → Request} (hf : ∀ {e q}, e.request? = some q → f e = k q) {calls : List Event}
    {asked : List γ} (h : calls.map Event.request? = asked.map (some ∘ request)) :
    calls.filterMap f = asked.filterMap fun x => k (request x) := by
  induction calls generalizing asked with
  | nil =>
    rw [List.map_eq_nil_iff.mp h.symm]
    rfl
  | cons e calls ih =>
    cases asked with
    | nil => cases h
    | cons x asked =>
      obtain ⟨he, hrest⟩ := List.cons.inj h
      rw [List.filterMap_cons, List.filterMap_cons, hf he, ih hrest]

namespace BootstrapPlan

variable {A : Agents σ} {plan : BootstrapPlan} {s t u : Site σ} {gs more : List Stage}
  {calls : List Event}

/-- A run that goes through stages can be looked at after the first of them. -/
theorem Passes.split (h : Passes A plan s (gs ++ more) calls u) :
    ∃ before after t, calls = before ++ after ∧ Passes A plan s gs before t ∧
      Passes A plan t more after u := by
  induction gs generalizing s calls with
  | nil => exact ⟨[], calls, s, rfl, .nothing s, h⟩
  | cons g gs ih =>
    cases h with
    | @stage _ _ _ _ e _ _ hq hf rest =>
      obtain ⟨before, after, t, rfl, first, last⟩ := ih rest
      exact ⟨e :: before, after, t, rfl, .stage hq hf first, last⟩

theorem Passes.missed_eq_nil (h : Passes A plan s gs calls t)
    (hg : ∀ g ∈ gs, ∀ package, g ≠ .probe package) : calls.filterMap Event.missed? = [] := by
  rw [List.filterMap_eq_nil_iff]
  intro e he
  obtain ⟨g, hmem, hreq⟩ := h.exists_stage he
  cases e with
  | probed c answer =>
    cases g with
    | probe package => exact absurd rfl (hg _ hmem package)
    | _ => cases hreq
  | _ => rfl

/-- What is found missing are the packages whose probes were answered in the negative, in the order
of the table. -/
theorem Passes.missed {packages : List String}
    (h : Passes A plan s (packages.map .probe) calls t) :
    (missingAmong packages calls).Sublist packages ∧
      calls.filterMap Event.missed? =
        (missingAmong packages calls).map plan.platform.profile.asking := by
  induction packages generalizing s calls with
  | nil =>
    cases h
    exact ⟨.slnil, rfl⟩
  | cons package rest ih =>
    cases h with
    | @stage _ _ _ _ e _ calls hq _ next =>
      obtain ⟨sublist, missed⟩ := ih next
      have he : e = .probed (plan.platform.profile.asking package)
          (A.probe (plan.platform.profile.asking package) s).1 :=
        (congrArg Prod.fst hq).symm
      rw [he, missingAmong, List.filterMap_cons]
      cases (A.probe (plan.platform.profile.asking package) s).1 with
      | true => exact ⟨sublist.cons package, missed⟩
      | false => exact ⟨sublist.cons_cons package, congrArg (_ :: ·) missed⟩

theorem not_probe_of_later {missing : List String} {present : Bool} {g : Stage}
    (hg : g ∈ plan.installStages missing ++ (plan.archiveStages present ++ [.build]))
    (package : String) : g ≠ .probe package := by
  rintro rfl
  unfold installStages archiveStages at hg
  split at hg <;> split at hg <;> simp at hg

theorem stages_eq (plan : BootstrapPlan) (missing : List String) (present : Bool) :
    plan.stages missing present = plan.packages.map .probe ++
      (plan.installStages missing ++ (plan.archiveStages present ++ [.build])) := by
  simp only [stages, packageStages, List.append_assoc]

theorem Passes.missed_of_stages {missing : List String} {present : Bool}
    (h : Passes A plan s (plan.stages missing present) calls t) :
    (missingAmong plan.packages calls).Sublist plan.packages ∧
      calls.filterMap Event.missed? =
        (missingAmong plan.packages calls).map plan.platform.profile.asking := by
  rw [stages_eq] at h
  obtain ⟨before, after, _, rfl, first, last⟩ := h.split
  have hlen : plan.packages.length = before.length := by simpa using first.length_eq.symm
  rw [missingAmong_append after (Nat.le_of_eq hlen), List.filterMap_append,
    last.missed_eq_nil fun g hg => not_probe_of_later hg, List.append_nil]
  exact first.missed

def earlierCommands (plan : BootstrapPlan) (missing : List String) (present : Bool) :
    List Command :=
  plan.commandsOf (plan.packageStages missing ++ plan.archiveStages present)

theorem commandsOf_stages (plan : BootstrapPlan) (missing : List String) (present : Bool) :
    plan.commandsOf (plan.stages missing present) =
      plan.earlierCommands missing present ++ [plan.building] := by
  unfold commandsOf earlierCommands stages
  rw [List.filterMap_append]
  rfl

/-- The archive is unpacked exactly if it is not there. -/
theorem unzip_mem_earlierCommands (plan : BootstrapPlan) (missing : List String)
    (present : Bool) :
    plan.unpacking ∈ plan.earlierCommands missing present ↔ present = false := by
  unfold earlierCommands commandsOf
  rw [List.filterMap_append, List.mem_append]
  constructor
  · rintro (hmem | hmem)
    · obtain ⟨g, hg, hcommand⟩ := List.mem_filterMap.mp hmem
      refine absurd ?_ (request_of_package hg).1
      cases hreq : plan.request g with
      | run c =>
        rw [hreq] at hcommand
        cases hcommand
        rfl
      | _ =>
        rw [hreq] at hcommand
        cases hcommand
    · cases present with
      | false => rfl
      | true => cases hmem
  · rintro rfl
    refine .inr (List.mem_filterMap.mpr ⟨.unzip, ?_, rfl⟩)
    simp [archiveStages]

/-- A run fetches exactly if the archive is not there and the run is not dry. -/
theorem fetch_mem_stages (plan : BootstrapPlan) (missing : List String) (present : Bool) :
    .fetch ∈ plan.stages missing present ↔ present = false ∧ plan.dryRun = false := by
  have hpackages := plan.fetch_not_mem_packageStages missing
  unfold stages archiveStages
  cases present <;> cases plan.dryRun <;> simp [hpackages]

theorem fetch_mem_requests (plan : BootstrapPlan) (missing : List String) (present : Bool) :
    (plan.url, plan.archiveZip) ∈
        (plan.stages missing present).filterMap (fun g => (plan.request g).fetch?) ↔
      present = false ∧ plan.dryRun = false := by
  rw [← fetch_mem_stages plan missing, List.mem_filterMap]
  constructor
  · rintro ⟨g, hg, hfetch⟩
    cases g with
    | fetch => exact hg
    | _ => cases hfetch
  · exact fun hg => ⟨.fetch, hg, rfl⟩

theorem probes_of_stages (plan : BootstrapPlan) (missing : List String) (present : Bool) :
    (plan.stages missing present).filterMap (fun g => (plan.request g).probe?) =
      plan.packages.map plan.platform.profile.asking := by
  have later :
      (plan.installStages missing ++ (plan.archiveStages present ++ [Stage.build])).filterMap
        (fun g => (plan.request g).probe?) = [] := by
    rw [List.filterMap_eq_nil_iff]
    intro g hg
    cases g with
    | probe package => exact absurd rfl (not_probe_of_later hg package)
    | _ => rfl
  rw [stages_eq, List.filterMap_append, later, List.append_nil, List.filterMap_map,
    ← List.filterMap_eq_map]
  rfl

/-- A run that completes did not hand over. -/
theorem perform_of_completed {privilege : Privilege} {w : World σ} {report : BuildReport}
    (h : (plan.run A privilege w).1 = .ok (.completed report)) :
    ∃ w', plan.perform A privilege.decide w = (.ok report, w') ∧
      (plan.run A privilege w).2 = w' := by
  by_cases hown : privilege.decide = .reinvoke ∧ plan.dryRun = false
  · obtain ⟨result, _, _, houtcome⟩ := run_escalated A hown.1 hown.2 w
    rw [houtcome] at h
    cases result <;> cases h
  · have hdry (hr : privilege.decide = .reinvoke) : plan.dryRun = true := by
      rw [← Bool.not_eq_false]
      exact fun hd => hown ⟨hr, hd⟩
    obtain ⟨hresult, hworld⟩ := run_performed A plan hdry w
    rw [hresult] at h
    cases hp : plan.perform A privilege.decide w with
    | mk r w' =>
      rw [hp] at h hworld
      cases r with
      | error e => cases h
      | ok report' =>
        cases h
        exact ⟨w', rfl, hworld⟩

theorem run_completed {privilege : Privilege} {w : World σ} {report : BuildReport}
    (h : (plan.run A privilege w).1 = .ok (.completed report)) :
    let calls := (plan.run A privilege).callsFrom w
    ∃ present t, plan.Passes A w.toSite
        (plan.stages (missingAmong plan.packages calls) present) calls t ∧
      report = plan.reportOf privilege.decide (missingAmong plan.packages calls) present := by
  obtain ⟨w', hperform, rfl⟩ := perform_of_completed h
  obtain ⟨calls, t, hcalls, passes, hreport⟩ := perform_completed hperform
  intro calls'
  obtain rfl : calls' = calls := Work.callsFrom_eq hcalls
  exact ⟨_, t, passes, hreport⟩

end BootstrapPlan

namespace StubRequest

theorem generate_completed {A : Agents σ} {req : StubRequest} {w : World σ} {report : StubReport}
    (h : (req.generate A.toRunner w).1 = .ok report) :
    ((req.generate A.toRunner).callsFrom w).filterMap Event.command? = report.invocations := by
  cases hprepare : req.prepare w with
  | mk r w₁ =>
    cases r with
    | error e =>
      rw [generate_of_unprepared hprepare] at h
      cases h
    | ok outDir =>
      have hsame := req.prepare_calls w
      rw [hprepare] at hsame
      rcases req.plan_spec w₁.fs outDir req.files with ⟨e, hplan, -⟩ | ⟨commands, hplan, -, -⟩
      · rw [generate_of_refused hprepare hplan] at h
        cases h
      · obtain ⟨calls, continued, inTurn⟩ := generate_of_planned (A := A) hprepare hplan
        rw [Work.callsFrom_eq (continued.calls_eq.trans (by rw [hsame]))]
        rw [h] at inTurn
        cases inTurn with
        | through asked _ =>
          rw [filterMap_of_requests command_of_request asked]
          exact List.filterMap_some

end StubRequest

/-- Reports are faithful. The steps of a run that completes are the commands that its runner was
given, behind the reinvocation exactly when that was decided; the packages that it reports missing
are those whose probes, one for each package of the table, were answered in the negative; and the
status of the archive tells whether it was unpacked before the build command, and fetched. The
report of a stub request lists the commands that were run. -/
theorem reports_faithful (A : Agents σ) :
    (∀ (plan : BootstrapPlan) (privilege : Privilege) (w : World σ) (report : BuildReport),
      (plan.run A privilege w).1 = .ok (.completed report) →
      let calls := (plan.run A privilege).callsFrom w
      report.escalation = privilege.decide ∧
      report.steps = (if report.escalation = .reinvoke then [plan.reinvoke] else []) ++
        calls.filterMap Event.command? ∧
      calls.filterMap Event.probe? = plan.packages.map plan.platform.profile.asking ∧
      report.missingPackages.Sublist plan.packages ∧
      calls.filterMap Event.missed? =
        report.missingPackages.map plan.platform.profile.asking ∧
      ∃ earlier, calls.filterMap Event.command? = earlier ++ [plan.building] ∧
        (report.archive = .present ↔ plan.unpacking ∉ earlier) ∧
        (report.archive = .planned ↔
          plan.unpacking ∈ earlier ∧ plan.dryRun = true) ∧
        (report.archive = .downloaded ↔
          (plan.url, plan.archiveZip) ∈ calls.filterMap Event.fetch? ∧
            plan.unpacking ∈ earlier)) ∧
    ∀ (req : StubRequest) (w : World σ) (report : StubReport),
      (req.generate A.toRunner w).1 = .ok report →
        ((req.generate A.toRunner).callsFrom w).filterMap Event.command? =
          report.invocations := by
  refine ⟨fun plan privilege w report h => ?_, fun req w report h =>
    StubRequest.generate_completed h⟩
  obtain ⟨present, t, passes, hreport⟩ := BootstrapPlan.run_completed h
  generalize (plan.run A privilege).callsFrom w = calls at passes hreport ⊢
  obtain ⟨sublist, missed⟩ := passes.missed_of_stages
  generalize missingAmong plan.packages calls = missing at *
  have hcommands := passes.commands
  rw [BootstrapPlan.commandsOf_stages] at hcommands
  have hunzip := plan.unzip_mem_earlierCommands missing present
  have hfetch := plan.fetch_mem_requests missing present
  rw [← filterMap_of_requests fetch_of_request passes.requests] at hfetch
  have hprobes := filterMap_of_requests probe_of_request passes.requests
  rw [BootstrapPlan.probes_of_stages] at hprobes
  subst hreport
  refine ⟨rfl, ?_, hprobes, sublist, missed, _, hcommands, ?_⟩
  · rw [hcommands, ← BootstrapPlan.commandsOf_stages]
    rfl
  · simp only [hunzip, hfetch, BootstrapPlan.reportOf, BootstrapPlan.archiveStatus]
    cases present <;> cases plan.dryRun <;> simp

/-- A run that installs, fetches and unpacks, and a request for two stubs: the commands that their
reports list are those that were run, four and two of them. -/
theorem obliging_reports_faithful :
    let run := BootstrapPlan.workspacePlan.run BootstrapPlan.obliging ⟨true, false, false⟩
    let calls := run.callsFrom BootstrapPlan.bareWorkspace
    let req : StubRequest :=
      { compiler := ["protoc"], protoDir := ⟨"/p"⟩, files := ["a.proto", "b.proto"]
        outDir := ⟨"/gen"⟩ }
    let generate := req.generate BootstrapPlan.obliging.toRunner
    let w : World Unit :=
      { fs := Change.applyAll {} [.file ⟨"/p/a.proto"⟩ .empty false,
          .file ⟨"/p/b.proto"⟩ .empty false]
        agent := () }
    (∃ report, (run BootstrapPlan.bareWorkspace).1 = .ok (.completed report) ∧
      report.archive = .downloaded ∧ report.steps = calls.filterMap Event.command? ∧
      report.steps.length = 4 ∧ report.missingPackages = BootstrapPlan.workspacePlan.packages) ∧
    ∃ report, (generate w).1 = .ok report ∧
      (generate.callsFrom w).filterMap Event.command? = report.invocations ∧
      report.invocations.length = 2 := by
  intro run calls req generate w
  obtain ⟨faithful, stubs⟩ := reports_faithful BootstrapPlan.obliging
  constructor
  · have hrun : ((run BootstrapPlan.bareWorkspace).1.toOption.bind fun
        | .completed r => some (r.archive, r.steps.length, r.missingPackages)
        | .delegated => none) =
        some (.downloaded, 4, BootstrapPlan.workspacePlan.packages) := by
      decide +kernel
    cases h : (run BootstrapPlan.bareWorkspace).1 with
    | error e =>
      rw [h] at hrun
      cases hrun
    | ok outcome =>
      cases outcome with
      | delegated =>
        rw [h] at hrun
        cases hrun
      | completed report =>
        rw [h] at hrun
        obtain ⟨hescalation, hsteps, -⟩ := faithful _ _ _ report h
        simp only [Except.toOption, Option.bind_some, Option.some.injEq, Prod.mk.injEq] at hrun
        refine ⟨report, rfl, hrun.1, ?_, hrun.2.1, hrun.2.2⟩
        rw [hescalation, if_neg (by decide)] at hsteps
        exact hsteps
  · have hgenerate : (generate w).1.toOption.map (·.invocations.length) = some 2 := by
      decide +kernel
    cases h : (generate w).1 with
    | error e =>
      rw [h] at hgenerate
      cases hgenerate
    | ok report =>
      rw [h] at hgenerate
      exact ⟨report, rfl, stubs req w report h, Option.some.inj hgenerate⟩

end Provision
