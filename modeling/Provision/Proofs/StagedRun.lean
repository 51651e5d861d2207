import Provision.Proofs.ArchivePhase
import Provision.Proofs.PackagePhase
import Provision.Scene
import Provision.Tool

namespace Provision
namespace BootstrapPlan

variable {σ : Type} {A : Agents σ} {plan : BootstrapPlan} {w : World σ}

/-- The stages of a run that started at a site and made the given calls: it installs what its probes
found missing, and needs the archive if that was not there when the packages were done. -/
def stagesOf (plan : BootstrapPlan) (A : Agents σ) (s : Site σ) (calls : List Event) : List Stage :=
  let missing := missingAmong plan.packages calls
  let done := calls.take (plan.packageStages missing).length
  plan.stages missing ((A.after s done).fs.has plan.archiveDir)

theorem stagesOf_eq {s : Site σ} {calls : List Event} {missing : List String} {present : Bool}
    (hm : missingAmong plan.packages calls = missing)
    (hp : (A.after s (calls.take (plan.packageStages missing).length)).fs.has plan.archiveDir =
      present) : plan.stagesOf A s calls = plan.stages missing present := by
  subst hm hp
  rfl

theorem unzip_not_mem_packageStages (plan : BootstrapPlan) (missing : List String) :
    .unzip ∉ plan.packageStages missing := by
  unfold packageStages installStages
  split
  · simp
  · simp

theorem fetch_not_mem_packageStages (plan : BootstrapPlan) (missing : List String) :
    .fetch ∉ plan.packageStages missing := by
  unfold packageStages installStages
  split
  · simp
  · simp

theorem packages_le_packageStages (plan : BootstrapPlan) (missing : List String) :
    plan.packages.length ≤ (plan.packageStages missing).length := by
  simp [packageStages]

theorem take_packageCalls {before : List Event} {s t : Site σ}
    (run : plan.Passes A s (plan.packageStages (missingAmong plan.packages before)) before t)
    (calls : List Event) :
    (before ++ calls).take
      (plan.packageStages (missingAmong plan.packages (before ++ calls))).length = before := by
  have hlen := run.length_eq
  have hle := plan.packages_le_packageStages (missingAmong plan.packages before)
  rw [missingAmong_append calls (by omega), ← hlen, List.take_left]

theorem build_phase {β : Type} (A : Agents σ) (plan : BootstrapPlan) (report : List Command → β)
    (w : World σ) :
    let x : Work σ β := do
      Work.enter plan.buildCommand
      Work.run A.toRunner plan.buildCommand
      let steps ← Work.steps
      pure (report steps)
    ∃ calls, Phase A plan w [.build] calls (x w).1 (x w).2 := by
  intro x
  let w₁ := (Work.run A.toRunner plan.buildCommand (Work.enter plan.buildCommand w).2).2
  have hrun : Work.run A.toRunner plan.buildCommand (Work.enter plan.buildCommand w).2 =
      ((A.run plan.buildCommand w.toSite).1.1, w₁) := rfl
  have hx : x w = (Work.run A.toRunner plan.buildCommand >>= fun _ => Work.steps >>= fun steps =>
      pure (report steps)) (Work.enter plan.buildCommand w).2 := rfl
  rw [hx]
  cases hr : (A.run plan.buildCommand w.toSite).1.1 with
  | ok u =>
    rw [hr] at hrun
    rw [Work.bind_of_ok hrun]
    exact ⟨_, .command (g := .build) w rfl (by simp) (by simp) (fun _ _ => hr)
      (fun e he => by cases he)⟩
  | error e =>
    rw [hr] at hrun
    rw [Work.bind_of_error hrun]
    exact ⟨_, .command (g := .build) w rfl (by simp) (by simp) (fun a ha => by cases ha)
      (fun _ _ => ⟨e, hr⟩)⟩

def archiveAndBuild (A : Agents σ) (plan : BootstrapPlan) (escalation : Escalation)
    (missing : List String) : Work σ BuildReport := do
  let archive ← plan.archiveRequest.ensure A
  Work.enter plan.buildCommand
  Work.run A.toRunner plan.buildCommand
  let steps ← Work.steps
  pure {
    platform := plan.platform
    variant := plan.variant
    escalation
    missingPackages := missing
    archive
    archiveDir := plan.archiveDir
    steps
    dryRun := plan.dryRun }

def phases (A : Agents σ) (plan : BootstrapPlan) (escalation : Escalation) : Work σ BuildReport :=
  ensurePackages A.toRunner plan.platform.profile >>= plan.archiveAndBuild A escalation

/-- What comes after the package phase does the stages of the archive phase and then the last. -/
theorem archiveAndBuild_phase (A : Agents σ) (plan : BootstrapPlan) (escalation : Escalation)
    (missing : List String) (w : World σ) :
    ∃ calls, Phase A plan w (plan.archiveStages (w.fs.has plan.archiveDir) ++ [.build]) calls
      (plan.archiveAndBuild A escalation missing w).1
      (plan.archiveAndBuild A escalation missing w).2 := by
  obtain ⟨before, h⟩ := archive_phase A plan w
  obtain ⟨calls, h⟩ := h.andThen fun archive _ => build_phase A plan _ _
  exact ⟨_, h⟩

theorem phases_stages (A : Agents σ) (plan : BootstrapPlan) (escalation : Escalation)
    (w : World σ) :
    ∃ calls, Phase A plan w (plan.stagesOf A w.toSite calls) calls
      (plan.phases A escalation w).1 (plan.phases A escalation w).2 := by
  obtain ⟨before, hpackages, hlen⟩ := package_phase A plan w
  let missing := missingAmong plan.packages before
  cases hx : ensurePackages A.toRunner plan.platform.profile w with
  | mk r w₁ =>
    have h := hpackages
    rw [hx] at h
    cases h with
    | stopped log run =>
      refine ⟨before, ?_⟩
      rw [phases, Work.bind_of_error hx, stagesOf, stages, List.append_assoc]
      exact .stopped log run.append_right
    | passed log run =>
      have hsite : A.after w.toSite before = w₁.toSite :=
        (run.served (plan.unzip_not_mem_packageStages missing)).after
      obtain ⟨calls, h⟩ := hpackages.andThen (f := plan.archiveAndBuild A escalation)
        fun missing _ => by rw [hx]; exact archiveAndBuild_phase A plan escalation missing w₁
      refine ⟨before ++ calls, ?_⟩
      rw [stagesOf, missingAmong_append calls hlen, stages, List.append_assoc, ← run.length_eq,
        List.take_left, hsite]
      exact h

/-- The world in which the phases start: the list of steps holds the reinvocation if one was
decided, and nothing else has happened. -/
structure Prepared (plan : BootstrapPlan) (escalation : Escalation) (w w₀ : World σ) : Prop where
  site_eq : w₀.toSite = w.toSite
  calls_eq : w₀.calls = w.calls
  steps_eq : w₀.steps = if escalation = .reinvoke then [plan.reinvoke] else []

theorem perform_prepared (A : Agents σ) (plan : BootstrapPlan) (escalation : Escalation)
    (w : World σ) :
    ∃ w₀, plan.Prepared escalation w w₀ ∧
      plan.perform A escalation w = plan.phases A escalation w₀ := by
  let fields := [("platform", plan.platform.profile.platform.title),
    ("manager", Log.quoted plan.platform.profile.manager)]
  let w₁ : World σ := { w with steps := if escalation = .reinvoke then [plan.reinvoke] else [] }
  let w₀ := (Work.note .bootstrap .info "checking native dependencies" fields w₁).2
  refine ⟨w₀, ⟨rfl, Work.calls_record_noted _ _, rfl⟩, ?_⟩
  by_cases he : escalation = .reinvoke
  · subst he
    rfl
  · simp only [w₀, w₁, perform, he, if_false]
    rfl

/-- A report lists the steps that were entered when the run was over. -/
theorem perform_report {escalation : Escalation} {report : BuildReport} {w' : World σ}
    (h : plan.perform A escalation w = (.ok report, w')) : report.steps = w'.steps := by
  obtain ⟨w₀, _, hperform⟩ := perform_prepared A plan escalation w
  rw [hperform] at h
  obtain ⟨missing, w₁, _, h⟩ := Work.bind_eq_ok h
  obtain ⟨archive, w₂, _, h⟩ := Work.bind_eq_ok h
  obtain ⟨_, w₃, _, h⟩ := Work.bind_eq_ok h
  obtain ⟨_, w₄, _, h⟩ := Work.bind_eq_ok h
  obtain ⟨steps, w₅, hsteps, h⟩ := Work.bind_eq_ok h
  cases hsteps
  cases h
  rfl

/-- A run that does its own work goes through its stages, or stops at one and fails. -/
theorem perform_phase (A : Agents σ) (plan : BootstrapPlan) (escalation : Escalation)
    (w : World σ) :
    ∃ w₀ calls, plan.Prepared escalation w w₀ ∧
      Phase A plan w₀ (plan.stagesOf A w.toSite calls) calls (plan.perform A escalation w).1
        (plan.perform A escalation w).2 := by
  obtain ⟨w₀, prepared, hperform⟩ := perform_prepared A plan escalation w
  obtain ⟨calls, h⟩ := phases_stages A plan escalation w₀
  rw [prepared.site_eq] at h
  rw [hperform]
  exact ⟨w₀, calls, prepared, h⟩

theorem run_performed (A : Agents σ) (plan : BootstrapPlan) {privilege : Privilege}
    (h : privilege.decide = .reinvoke → plan.dryRun = true) (w : World σ) :
    (plan.run A privilege w).1 = (plan.perform A privilege.decide w).1.map .completed ∧
      (plan.run A privilege w).2 = (plan.perform A privilege.decide w).2 := by
  have hown : ¬ (privilege.decide = .reinvoke ∧ plan.dryRun = false) := by
    rintro ⟨hr, hd⟩
    rw [h hr] at hd
    cases hd
  rw [run, if_neg hown]
  cases hp : plan.perform A privilege.decide w with
  | mk r w' =>
    cases r with
    | ok report =>
      rw [Work.bind_of_ok hp]
      exact ⟨rfl, rfl⟩
    | error e =>
      rw [Work.bind_of_error hp]
      exact ⟨rfl, rfl⟩

/-- What a run that does not escalate asks of its agents is a prefix of its stages. The run is
complete when it went through all of them; otherwise it stopped at the first that failed, asked
nothing more, and failed itself. -/
theorem run_follows_stages (A : Agents σ) (plan : BootstrapPlan) (privilege : Privilege)
    (w : World σ) (h : privilege.decide = .reinvoke → plan.dryRun = true) :
    ∃ calls, (plan.run A privilege w).2.calls = w.calls ++ calls ∧
      calls.map Event.request? <+:
        (plan.stagesOf A w.toSite calls).map (some ∘ plan.request) ∧
      ((∃ report, (plan.run A privilege w).1 = .ok (.completed report)) ↔
        ∃ t, plan.Passes A w.toSite (plan.stagesOf A w.toSite calls) calls t) ∧
      ((∃ report, (plan.run A privilege w).1 = .ok (.completed report)) ∨
        (∃ e, (plan.run A privilege w).1 = .error e) ∧
          plan.Stops A w.toSite (plan.stagesOf A w.toSite calls) calls) := by
  obtain ⟨hresult, hworld⟩ := run_performed A plan h w
  obtain ⟨w₀, calls, prepared, phase⟩ := perform_phase A plan privilege.decide w
  have hcalls := phase.logged.calls_eq
  rw [prepared.calls_eq] at hcalls
  refine ⟨calls, by rw [hworld, hcalls], ?_⟩
  rw [hresult]
  generalize (plan.perform A privilege.decide w).1 = r at phase ⊢
  generalize (plan.perform A privilege.decide w).2 = w' at phase
  cases phase with
  | @passed report w' log run =>
    rw [prepared.site_eq] at run
    have hdone : ∃ r, (Except.ok report).map BootstrapOutcome.completed =
      (.ok (.completed r) : Except Failure BootstrapOutcome) := ⟨report, rfl⟩
    refine ⟨by simp only [run.requests, List.prefix_rfl], ?_, .inl hdone⟩
    exact ⟨fun _ => ⟨_, run⟩, fun _ => hdone⟩
  | @stopped e w' log run =>
    rw [prepared.site_eq] at run
    refine ⟨run.requests, ?_, .inr ⟨⟨e, rfl⟩, run⟩⟩
    constructor
    · rintro ⟨report, hreport⟩
      cases hreport
    · rintro ⟨t, passes⟩
      exact absurd passes run.not_passes

def obliging : Agents Unit := { Runner.plan false none, Fetcher.constant .empty with }

def workspacePlan : BootstrapPlan :=
  Tool.buildPlan { executable := ⟨"/usr/bin/bastion-dev"⟩ } ⟨⟨"/w"⟩⟩ {} .debian none false

def bareWorkspace : World Unit where
  fs := { entries := [(["w"], .directory)] }
  agent := ()

/-- The run of a fresh workspace, where no package is installed and the archive is not there: it goes
through all its stages as root, and without privileges when it is a dry run, which has no fetch. A
fetch or an unzip that fails is where it stops. -/
theorem runs_of_bare_workspace :
    let root : Privilege := ⟨true, false, false⟩
    let user : Privilege := ⟨false, false, false⟩
    let offline : Agents Unit := { Runner.plan false none, Fetcher.failing "offline" with }
    let unpackless : Agents Unit :=
      { Runner.plan false (some ("unzip", 9)), Fetcher.constant .empty with }
    let plan := workspacePlan
    let planned : BootstrapPlan := { plan with dryRun := true }
    let w := bareWorkspace
    let first := plan.packageStages plan.packages
    root.decide ≠ .reinvoke ∧ user.decide = .reinvoke ∧ planned.dryRun = true ∧
      (∃ t, plan.Passes obliging w.toSite (first ++ [.fetch, .unzip, .build])
        (plan.run obliging root w).2.calls t) ∧
      (∃ t, planned.Passes Tool.planners w.toSite (first ++ [.unzip, .build])
        (planned.run Tool.planners user w).2.calls t) ∧
      (plan.Stops offline w.toSite (first ++ [.fetch, .unzip, .build])
          (plan.run offline root w).2.calls ∧
        (plan.run offline root w).2.calls.length = first.length + 1) ∧
      plan.Stops unpackless w.toSite (first ++ [.fetch, .unzip, .build])
          (plan.run unpackless root w).2.calls ∧
        (plan.run unpackless root w).2.calls.length = first.length + 2 := by
  intro root user offline unpackless plan planned w first
  have hroot : root.decide ≠ .reinvoke := by decide
  -- what is found missing, and how the run ends, can be computed; the law says which stages it did
  have law (A : Agents Unit) (plan : BootstrapPlan) {privilege : Privilege}
      (h : privilege.decide = .reinvoke → plan.dryRun = true)
      (hm : missingAmong plan.packages (plan.run A privilege w).2.calls = plan.packages)
      (hp : (A.after w.toSite ((plan.run A privilege w).2.calls.take
        (plan.packageStages plan.packages).length)).fs.has plan.archiveDir = false) :
      ((plan.run A privilege w).1.toBool = true → ∃ t, plan.Passes A w.toSite
        (plan.stages plan.packages false) (plan.run A privilege w).2.calls t) ∧
      ((plan.run A privilege w).1.toBool = false → plan.Stops A w.toSite
        (plan.stages plan.packages false) (plan.run A privilege w).2.calls) := by
    obtain ⟨calls, hcalls, -, hiff, hend⟩ := run_follows_stages A plan privilege w h
    rw [show (plan.run A privilege w).2.calls = calls from hcalls] at hm hp ⊢
    rw [stagesOf_eq hm hp] at hiff hend
    constructor
    · intro hok
      rcases hend with hdone | ⟨⟨e, he⟩, -⟩
      · exact hiff.mp hdone
      · rw [he] at hok
        cases hok
    · intro herr
      rcases hend with ⟨report, hdone⟩ | ⟨-, stops⟩
      · rw [hdone] at herr
        cases herr
      · exact stops
  have asRoot : root.decide = .reinvoke → plan.dryRun = true := fun h => absurd h hroot
  refine ⟨hroot, by decide, rfl, ?_, ?_, ⟨?_, by decide +kernel⟩, ?_, by decide +kernel⟩
  · exact (law obliging plan asRoot (by decide +kernel) (by decide +kernel)).1
      (by decide +kernel)
  · exact (law Tool.planners planned (fun _ => rfl) (by decide +kernel) (by decide +kernel)).1
      (by decide +kernel)
  · exact (law offline plan asRoot (by decide +kernel) (by decide +kernel)).2
      (by decide +kernel)
  · exact (law unpackless plan asRoot (by decide +kernel) (by decide +kernel)).2
      (by decide +kernel)

end BootstrapPlan
end Provision
