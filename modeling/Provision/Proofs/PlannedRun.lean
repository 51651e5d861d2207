import Provision.Proofs.ReadOnly
import Provision.Proofs.RunReport

namespace Provision

variable {σ τ : Type}

/-- What is planned where a real run has something to do. -/
def ArchiveStatus.inPlan : ArchiveStatus → ArchiveStatus
  | .downloaded => .planned
  | status => status

/-- A real run's report as the dry run of the same plan gives it. -/
def BuildReport.inPlan (r : BuildReport) : BuildReport :=
  { r with dryRun := true, archive := r.archive.inPlan }

namespace BootstrapPlan

def withDryRun (plan : BootstrapPlan) (dryRun : Bool) : BootstrapPlan := { plan with dryRun }

/-- The commands of a run's package phase do not change whether the archive is there. -/
def KeepsArchive (plan : BootstrapPlan) (A : Agents σ) (privilege : Privilege) (w : World σ) :
    Prop :=
  ∀ calls, (plan.run A privilege w).2.calls = w.calls ++ calls →
    plan.foundArchive A w.toSite calls = w.fs.has plan.archiveDir

/-- Reports of a real and a dry run differ in no more than what a plan must say otherwise. -/
theorem reportOf_inPlan (plan : BootstrapPlan) (escalation : Escalation) (missing : List String)
    (present : Bool) :
    (plan.withDryRun true).reportOf escalation missing present =
      ((plan.withDryRun false).reportOf escalation missing present).inPlan := by
  cases present with
  | true => rfl
  | false =>
    have hsteps : (plan.withDryRun true).commandsOf ((plan.withDryRun true).stages missing false) =
        (plan.withDryRun false).commandsOf ((plan.withDryRun false).stages missing false) := by
      -- the fetch is all that a dry run leaves out, and that is no command
      unfold commandsOf stages
      simp only [List.filterMap_append]
      rfl
    unfold reportOf BuildReport.inPlan
    rw [hsteps]
    rfl

variable {A : Agents σ} {plan : BootstrapPlan} {s t : Site σ} {gs : List Stage}
  {calls : List Event} {answers : Command → Bool}

theorem missing_of_answers {packages : List String} (hA : ∀ c s, (A.probe c s).1 = answers c)
    (h : Passes A plan s (packages.map .probe ++ gs) calls t) :
    missingAmong packages calls =
      packages.filter fun package => !answers (plan.platform.profile.asking package) := by
  induction packages generalizing s calls with
  | nil => rfl
  | cons package rest ih =>
    cases h with
    | @stage _ u _ _ e _ calls hq _ next =>
      have hanswer : e = .probed (plan.platform.profile.asking package)
          (answers (plan.platform.profile.asking package)) := by
        rw [← hA _ s]
        exact (congrArg Prod.fst hq).symm
      rw [hanswer, missingAmong, ih next, List.filter_cons]
      cases answers (plan.platform.profile.asking package) <;> rfl

theorem missing_of_passes (hA : ∀ c s, (A.probe c s).1 = answers c)
    (h : Passes A plan s (plan.stagesOf A s calls) calls t) :
    missingAmong plan.packages calls =
      plan.packages.filter fun package => !answers (plan.platform.profile.asking package) := by
  rw [stagesOf, stages, packageStages, List.append_assoc, List.append_assoc] at h
  exact missing_of_answers hA h

/-- A dry run stops at a command that fails, and for nothing else. -/
theorem not_stops_of_dry (hd : plan.dryRun = true) (hruns : ∀ c s, (A.run c s).1.1 = .ok ())
    (hfetch : .fetch ∉ gs) : ¬ Stops A plan s gs calls := by
  have passes {g : Stage} {e : Event} {s t : Site σ} (hg : g ≠ .fetch)
      (hq : A.answer s (plan.request g) = (e, t)) : ¬ plan.Fails t.fs g e := by
    intro hf
    cases hf with
    | call hfailed =>
      have he : e = (A.answer s (plan.request g)).1 := (congrArg Prod.fst hq).symm
      rw [he] at hfailed
      cases hreq : plan.request g with
      | probe c =>
        rw [hreq] at hfailed
        cases hfailed
      | run c =>
        rw [hreq] at hfailed
        simp only [Agents.answer, hruns] at hfailed
        cases hfailed
      | fetch url target =>
        cases g with
        | fetch => exact hg rfl
        | _ => cases hreq
    | digest => exact hg rfl
    | zip hreal =>
      rw [hd] at hreal
      cases hreal
  intro h
  induction h with
  | here hq hf => exact passes (fun hg => hfetch (hg ▸ List.mem_cons_self)) hq hf
  | @later s t g e gs calls _ _ _ ih =>
    exact ih fun hmem => hfetch (List.mem_cons_of_mem g hmem)

theorem fetch_not_mem_stages (hd : plan.dryRun = true) (missing : List String) (present : Bool) :
    .fetch ∉ plan.stages missing present := by
  have hpackages := plan.fetch_not_mem_packageStages missing
  unfold stages archiveStages
  cases present <;> simp [hd, hpackages]

theorem perform_of_dry (hd : plan.dryRun = true) (hruns : ∀ c s, (A.run c s).1.1 = .ok ())
    (escalation : Escalation) (w : World σ) :
    ∃ report w', plan.perform A escalation w = (.ok report, w') := by
  obtain ⟨w₀, calls, prepared, phase⟩ := perform_phase A plan escalation w
  cases hp : plan.perform A escalation w with
  | mk r w' =>
    rw [hp] at phase
    cases phase with
    | passed => exact ⟨_, _, rfl⟩
    | stopped _ run =>
      exact absurd run (not_stops_of_dry hd hruns (fetch_not_mem_stages hd _ _))

/-- A dry run whose runner leaves the files alone finds the archive as it was at first. -/
theorem keepsArchive_of_inert (hd : plan.dryRun = true) (inert : A.toRunner.Inert)
    (privilege : Privilege) (w : World σ) : plan.KeepsArchive A privilege w := by
  intro calls hcalls
  obtain ⟨calls', hcalls', served, only⟩ := onlyAsks_run A hd privilege w
  rw [hcalls] at hcalls'
  obtain rfl := List.append_cancel_left hcalls'
  rw [← List.take_append_drop (plan.packageCalls calls).length calls] at served
  obtain ⟨t, first, -⟩ := served.split
  have htake : calls.take (plan.packageCalls calls).length = plan.packageCalls calls := by
    simp [packageCalls, List.take_eq_take_iff]
  rw [htake] at first
  rw [foundArchive, first.after]
  have hfs := Work.served_fs first (fun e he => only e (List.mem_of_mem_take he)) inert.answer
  rw [hfs]

/-- The report of a run that completes, where answers depend on the question alone and the package
commands leave the archive as it is. -/
theorem completed_report {privilege : Privilege} {w : World σ} {r : BuildReport}
    (hp : privilege.decide ≠ .reinvoke) (hA : ∀ c s, (A.probe c s).1 = answers c)
    (hkeep : plan.KeepsArchive A privilege w)
    (h : (plan.run A privilege w).1 = .ok (.completed r)) :
    r = plan.reportOf privilege.decide
      (plan.packages.filter fun package => !answers (plan.platform.profile.asking package))
      (w.fs.has plan.archiveDir) := by
  obtain ⟨hresult, hworld⟩ := run_performed A plan (fun hr => absurd hr hp) w
  cases hperform : plan.perform A privilege.decide w with
  | mk result w' =>
    rw [hperform] at hresult hworld
    rw [h] at hresult
    cases result with
    | error e => cases hresult
    | ok report =>
      cases hresult
      obtain ⟨calls, t, hcalls, passes, hreport⟩ := perform_completed hperform
      have hfound := hkeep calls (by rw [hworld]; exact hcalls)
      rw [hreport, missing_of_passes hA passes, hfound]

/-- A dry run without a failing command completes, and reports what a real run that finds the same
would, as a plan. -/
theorem dry_run_reports {B : Agents τ} {plan : BootstrapPlan} {privilege : Privilege}
    (hp : privilege.decide ≠ .reinvoke) {answers : Command → Bool}
    (hB : ∀ c s, (B.probe c s).1 = answers c) (hruns : ∀ c s, (B.run c s).1.1 = .ok ())
    {v : World τ} (hkeep : (plan.withDryRun true).KeepsArchive B privilege v) :
    ((plan.withDryRun true).run B privilege v).1 =
      .ok (.completed ((plan.withDryRun false).reportOf privilege.decide
        (plan.packages.filter fun package => !answers (plan.platform.profile.asking package))
        (v.fs.has plan.archiveDir)).inPlan) := by
  have dry : (plan.withDryRun true).dryRun = true := rfl
  obtain ⟨report, v', hdry⟩ := perform_of_dry dry hruns privilege.decide v
  have hdone : ((plan.withDryRun true).run B privilege v).1 = .ok (.completed report) := by
    rw [(run_performed B (plan.withDryRun true) (fun hr => absurd hr hp) v).1, hdry]
    rfl
  rw [hdone, completed_report hp hB hkeep hdone, ← reportOf_inPlan]
  rfl

/-- A dry run plans the real one. Where a real run completes, and its package commands leave it as
it was whether the archive is there, the dry run of the same plan from the same files, with the same
answers to its probes and no failing command, completes with the same report: the same steps, the
same missing packages and all the rest, apart from saying that it is a plan. -/
theorem dry_run_plans_real_run (A : Agents σ) (B : Agents τ) (plan : BootstrapPlan)
    {privilege : Privilege} (hp : privilege.decide ≠ .reinvoke) {answers : Command → Bool}
    (hA : ∀ c s, (A.probe c s).1 = answers c) (hB : ∀ c s, (B.probe c s).1 = answers c)
    (hruns : ∀ c s, (B.run c s).1.1 = .ok ()) {w : World σ} {v : World τ} (hfs : v.fs = w.fs)
    (hkeepA : (plan.withDryRun false).KeepsArchive A privilege w)
    (hkeepB : (plan.withDryRun true).KeepsArchive B privilege v) {r : BuildReport}
    (h : ((plan.withDryRun false).run A privilege w).1 = .ok (.completed r)) :
    ((plan.withDryRun true).run B privilege v).1 = .ok (.completed r.inPlan) := by
  rw [dry_run_reports hp hB hruns hkeepB, completed_report hp hA hkeepA h, hfs]
  rfl

/-- Nothing has to be known of what the dry run finds when its runner leaves the files alone, as
that of the planners does. -/
theorem inert_dry_run_plans_real_run (A : Agents σ) (B : Agents τ) (plan : BootstrapPlan)
    {privilege : Privilege} (hp : privilege.decide ≠ .reinvoke) {answers : Command → Bool}
    (hA : ∀ c s, (A.probe c s).1 = answers c) (hB : ∀ c s, (B.probe c s).1 = answers c)
    (hruns : ∀ c s, (B.run c s).1.1 = .ok ()) (inert : B.toRunner.Inert) {w : World σ}
    {v : World τ} (hfs : v.fs = w.fs)
    (hkeep : (plan.withDryRun false).KeepsArchive A privilege w) {r : BuildReport}
    (h : ((plan.withDryRun false).run A privilege w).1 = .ok (.completed r)) :
    ((plan.withDryRun true).run B privilege v).1 = .ok (.completed r.inPlan) := by
  have hkeepB : (plan.withDryRun true).KeepsArchive B privilege v :=
    keepsArchive_of_inert rfl inert privilege v
  rw [dry_run_reports hp hB hruns hkeepB, completed_report hp hA hkeep h, hfs]
  rfl

/-- What a real run downloads and unpacks is what the dry run plans to. -/
theorem dry_run_plans_download :
    let root : Privilege := ⟨true, false, false⟩
    let w := bareWorkspace
    root.decide ≠ .reinvoke ∧ (∀ c s, (obliging.probe c s).1 = false) ∧
      (∀ c (s : Site Unit), (Tool.planners.run c s).1.1 = .ok ()) ∧
      (workspacePlan.withDryRun false).KeepsArchive obliging root w ∧
      (workspacePlan.withDryRun true).KeepsArchive Tool.planners root w ∧
      ∃ r, ((workspacePlan.withDryRun false).run obliging root w).1 = .ok (.completed r) ∧
        r.archive = .downloaded ∧
        ((workspacePlan.withDryRun true).run Tool.planners root w).1 =
          .ok (.completed r.inPlan) := by
  intro root w
  have hp : root.decide ≠ .reinvoke := by decide
  have hA : ∀ c s, (obliging.probe c s).1 = (fun _ : Command => false) c := fun _ _ => rfl
  have keeps : (workspacePlan.withDryRun false).KeepsArchive obliging root w := by
    intro calls hcalls
    have hrun : calls = ((workspacePlan.withDryRun false).run obliging root w).2.calls := by
      rw [hcalls]
      rfl
    rw [hrun]
    decide +kernel
  have keeps' : (workspacePlan.withDryRun true).KeepsArchive Tool.planners root w :=
    keepsArchive_of_inert rfl (Runner.plan_inert false none) root w
  refine ⟨hp, hA, fun _ _ => rfl, keeps, keeps', ?_⟩
  have hstatus : ((workspacePlan.withDryRun false).run obliging root w).1.toOption.bind
      (fun | .completed r => some r.archive | .delegated => none) = some .downloaded := by
    decide +kernel
  cases h : ((workspacePlan.withDryRun false).run obliging root w).1 with
  | error e =>
    rw [h] at hstatus
    cases hstatus
  | ok outcome =>
    cases outcome with
    | delegated =>
      rw [h] at hstatus
      cases hstatus
    | completed r =>
      rw [h] at hstatus
      refine ⟨r, rfl, Option.some.inj hstatus, ?_⟩
      exact dry_run_plans_real_run obliging Tool.planners workspacePlan hp hA (fun _ _ => rfl)
        (fun _ _ => rfl) rfl keeps keeps' h

end BootstrapPlan
end Provision
