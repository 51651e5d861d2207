import Provision.Proofs.StagedRun

namespace Provision

variable {σ : Type} {A : Agents σ}

def Request.command? : Request → Option Command
  | .run c => some c
  | _ => none

theorem command_of_request {e : Event} {q : Request} (h : e.request? = some q) :
    e.command? = q.command? := by
  cases e with
  | noted note => cases h
  | probed c answer => cases h; rfl
  | ran c result printed => cases h; rfl
  | fetched url target result => cases h; rfl

namespace BootstrapPlan

variable {plan : BootstrapPlan} {s t : Site σ} {gs : List Stage} {calls : List Event}

def packageCalls (plan : BootstrapPlan) (calls : List Event) : List Event :=
  calls.take (plan.packageStages (missingAmong plan.packages calls)).length

def foundArchive (plan : BootstrapPlan) (A : Agents σ) (s : Site σ) (calls : List Event) : Bool :=
  (A.after s (plan.packageCalls calls)).fs.has plan.archiveDir

def commandsOf (plan : BootstrapPlan) (gs : List Stage) : List Command :=
  gs.filterMap fun g => (plan.request g).command?

def archiveStatus (plan : BootstrapPlan) (present : Bool) : ArchiveStatus :=
  if present then .present else if plan.dryRun then .planned else .downloaded

/-- The report of a run that completes. -/
def reportOf (plan : BootstrapPlan) (escalation : Escalation) (missing : List String)
    (present : Bool) : BuildReport where
  platform := plan.platform
  variant := plan.variant
  escalation := escalation
  missingPackages := missing
  archive := plan.archiveStatus present
  archiveDir := plan.archiveDir
  steps := (if escalation = .reinvoke then [plan.reinvoke] else []) ++
    plan.commandsOf (plan.stages missing present)
  dryRun := plan.dryRun

theorem Passes.commands (h : Passes A plan s gs calls t) :
    calls.filterMap Event.command? = plan.commandsOf gs := by
  induction h with
  | nothing s => rfl
  | stage hq _ _ ih =>
    rw [commandsOf, List.filterMap_cons, List.filterMap_cons, ih,
      command_of_request (Agents.request_of_answer hq)]
    rfl

variable {w w' w₁ : World σ}

theorem packages_missing {missing : List String}
    (h : ensurePackages A.toRunner plan.platform.profile w = (.ok missing, w₁))
    (hcalls : w₁.calls = w.calls ++ calls) : missing = missingAmong plan.packages calls := by
  rw [ensurePackages_eq] at h
  obtain ⟨found, w₀, hprobe, hsettle⟩ := Work.bind_eq_ok h
  obtain ⟨probes, w₀', hprobe', log, -, run⟩ := probe_phase A plan plan.packages w
  have hlen : plan.packages.length = probes.length := by simpa using run.length_eq.symm
  obtain ⟨rest, phase⟩ := settle_phase A plan found w₀
  rw [show missingPackages A.toRunner plan.platform.profile plan.packages w = _ from hprobe]
    at hprobe'
  cases hprobe'
  have hsplit : calls = probes ++ rest := by
    have hrest := phase.logged.calls_eq
    rw [hsettle, log.calls_eq, hcalls, List.append_assoc] at hrest
    exact List.append_cancel_left hrest
  rw [hsplit, missingAmong_append rest (Nat.le_of_eq hlen)]
  -- whatever was installed, the phase returns what it started from
  unfold settlePackages at hsettle
  split at hsettle
  · obtain ⟨_, _, _, hdone⟩ := Work.bind_eq_ok hsettle
    cases hdone
    rfl
  · obtain ⟨_, _, _, hinstall⟩ := Work.bind_eq_ok hsettle
    unfold installPackages at hinstall
    have last {w₂ : World σ} (hlast : (do
        runManager A.toRunner plan.platform.profile
          (plan.platform.profile.installOf (missingAmong plan.packages probes))
        pure (missingAmong plan.packages probes) : Work σ (List String)) w₂ = (.ok missing, w₁)) :
        missing = missingAmong plan.packages probes := by
      obtain ⟨_, _, _, hdone⟩ := Work.bind_eq_ok hlast
      cases hdone
      rfl
    cases hr : plan.platform.profile.refresh with
    | none =>
      rw [hr] at hinstall
      exact last hinstall
    | some refresh =>
      rw [hr] at hinstall
      obtain ⟨_, _, _, hlast⟩ := Work.bind_eq_ok hinstall
      exact last hlast

theorem archive_status {status : ArchiveStatus}
    (h : plan.archiveRequest.ensure A w = (.ok status, w₁)) :
    status = plan.archiveStatus (w.fs.has plan.archiveDir) := by
  have course := plan.archiveRequest.ensure_course A w
  rw [h] at course
  unfold archiveStatus
  cases course with
  | present hp =>
    rw [show w.fs.has plan.archiveDir = true from hp]
    rfl
  | planned hp hd =>
    rw [show w.fs.has plan.archiveDir = false from hp, show plan.dryRun = true from hd]
    rfl
  | downloaded hp hd =>
    rw [show w.fs.has plan.archiveDir = false from hp, show plan.dryRun = false from hd]
    rfl

/-- A run that completes has gone through its stages, and its report is what they come to. -/
theorem perform_completed {escalation : Escalation} {report : BuildReport}
    (h : plan.perform A escalation w = (.ok report, w')) :
    ∃ calls t, w'.calls = w.calls ++ calls ∧
      plan.Passes A w.toSite (plan.stagesOf A w.toSite calls) calls t ∧
      report = plan.reportOf escalation (missingAmong plan.packages calls)
        (plan.foundArchive A w.toSite calls) := by
  have hsteps := perform_report h
  obtain ⟨w₀, prepared, hperform⟩ := perform_prepared A plan escalation w
  rw [hperform] at h
  obtain ⟨calls, phase⟩ := phases_stages A plan escalation w₀
  rw [h, prepared.site_eq] at phase
  cases phase with
  | passed log run =>
    have hcalls := log.calls_eq
    rw [prepared.calls_eq] at hcalls
    rw [prepared.site_eq] at run
    refine ⟨calls, _, hcalls, run, ?_⟩
    obtain ⟨missing, w₁, hpackages, hrest⟩ := Work.bind_eq_ok h
    obtain ⟨before, packages, hlen⟩ := package_phase A plan w₀
    obtain ⟨rest, later⟩ := archiveAndBuild_phase A plan escalation missing w₁
    rw [hpackages] at packages
    rw [hrest] at later
    cases packages with
    | passed log₁ run₁ =>
      have hmissing := packages_missing hpackages log₁.calls_eq
      have hsite := (run₁.served (plan.unzip_not_mem_packageStages _)).after
      -- the calls behind the packages are those that the archive and the build made
      have hsplit : calls = before ++ rest := by
        have hlater := later.logged.calls_eq
        rw [log.calls_eq, log₁.calls_eq, List.append_assoc] at hlater
        exact List.append_cancel_left hlater
      have hfound : plan.foundArchive A w.toSite calls = w₁.fs.has plan.archiveDir := by
        rw [foundArchive, packageCalls, hsplit, take_packageCalls run₁ rest, ← prepared.site_eq,
          hsite]
      have hlist := log.steps_eq
      rw [prepared.steps_eq, run.commands, ← hsteps] at hlist
      have hall : missingAmong plan.packages calls = missing := by
        rw [hsplit, missingAmong_append rest hlen, hmissing]
      obtain ⟨archive, w₂, harchive, hbuild⟩ := Work.bind_eq_ok hrest
      obtain ⟨_, w₃, _, hbuild⟩ := Work.bind_eq_ok hbuild
      obtain ⟨_, w₄, _, hbuild⟩ := Work.bind_eq_ok hbuild
      obtain ⟨steps, w₅, _, hbuild⟩ := Work.bind_eq_ok hbuild
      cases hbuild
      dsimp only at hlist
      rw [reportOf, hall, hfound, hlist, archive_status harchive, stagesOf, hall]
      rw [foundArchive, packageCalls, hall] at hfound
      rw [hfound]

end BootstrapPlan
end Provision
