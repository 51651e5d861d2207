import Mathlib.Data.List.Infix
import Provision.Proofs.Progress

namespace Provision
namespace BootstrapPlan

variable {σ : Type} {plan : BootstrapPlan} {installed : σ → String → Prop} {A : Agents σ}

def Follows (A : Agents σ) (plan : BootstrapPlan) (s : Site σ) (gs : List Stage)
    (calls : List Event) : Prop :=
  (∃ t, Passes A plan s gs calls t) ∨ Stops A plan s gs calls

theorem Follows.requests {s : Site σ} {gs : List Stage} {calls : List Event}
    (h : plan.Follows A s gs calls) :
    calls.map Event.request? <+: gs.map (some ∘ plan.request) := by
  rcases h with ⟨t, h⟩ | h
  · exact h.requests ▸ List.prefix_rfl
  · exact h.requests

theorem missing_of_equipped (hA : plan.Hosts installed A) {packages : List String}
    (hsub : packages ⊆ plan.packages) {s : Site σ} {more : List Stage} {calls : List Event}
    (h : plan.Follows A s (packages.map .probe ++ more) calls)
    (hs : plan.Equipped installed s) : missingAmong packages calls = [] := by
  induction packages generalizing s calls with
  | nil => rfl
  | cons package rest ih =>
    let c := plan.platform.profile.asking package
    have hpackage : package ∈ plan.packages := hsub List.mem_cons_self
    have hrest : rest ⊆ plan.packages := fun p hp => hsub (List.mem_cons_of_mem package hp)
    have hanswer : A.answer s (.probe c) = (.probed c true, (A.probe c s).2) := by
      rw [Agents.answer, (hA.probes package hpackage s).mpr (hs package hpackage)]
    have hkept : plan.Equipped installed (A.answer s (.probe c)).2 :=
      hA.keep_equipped (.probe c) s rfl hs
    rw [hanswer] at hkept
    rcases h with ⟨t, h⟩ | h
    · cases h with
      | stage hq _ next =>
        obtain ⟨rfl, rfl⟩ := Prod.mk.inj (hanswer.symm.trans hq)
        exact ih hrest (.inl ⟨t, next⟩) hkept
    · cases h with
      | here hq _ =>
        obtain ⟨rfl, rfl⟩ := Prod.mk.inj (hanswer.symm.trans hq)
        cases rest <;> rfl
      | later hq _ next =>
        obtain ⟨rfl, rfl⟩ := Prod.mk.inj (hanswer.symm.trans hq)
        exact ih hrest (.inr next) hkept

/-- Nothing can stop a run that probes and builds before its build command. -/
theorem Stops.asks_build {packages : List String} {s : Site σ} {calls : List Event}
    (h : Stops A plan s (packages.map .probe ++ [.build]) calls) :
    calls.map Event.request? =
      (packages.map Stage.probe ++ [Stage.build]).map (some ∘ plan.request) := by
  induction packages generalizing s calls with
  | nil =>
    cases h with
    | here hq _ => simp [Agents.request_of_answer hq]
    | later _ _ rest => cases rest
  | cons package rest ih =>
    cases h with
    | here hq hf =>
      cases hq
      exact absurd hf (not_fails rfl (by simp) (by simp))
    | later hq _ next =>
      have hnext := ih next
      simp only [List.map_cons, List.cons_append, Agents.request_of_answer hq] at hnext ⊢
      rw [hnext]
      rfl

/-- The stages of a run with nothing to install and nothing to unpack. -/
theorem stages_left (plan : BootstrapPlan) :
    plan.stages [] true = plan.packages.map .probe ++ [.build] := by
  simp [stages_eq, installStages, archiveStages]

theorem isCommand_of_package {missing : List String} {g : Stage}
    (hg : g ∈ plan.packageStages missing) : (plan.request g).isCommand = true := by
  cases hq : plan.request g with
  | fetch url target => exact absurd hq ((request_of_package hg).2 url target)
  | _ => rfl

theorem run_follows (A : Agents σ) (plan : BootstrapPlan) {privilege : Privilege}
    (hp : privilege.decide ≠ .reinvoke) (w : World σ) {calls : List Event}
    (h : calls = (plan.run A privilege).callsFrom w) :
    plan.Follows A w.toSite (plan.stagesOf A w.toSite calls) calls := by
  obtain ⟨calls', hcalls, -, hdone, hend⟩ :=
    run_follows_stages A plan privilege w fun hr => absurd hr hp
  rw [Work.callsFrom_eq hcalls] at h
  subst h
  exact hend.imp hdone.mp And.right

section

variable {s : Site σ} {calls : List Event}

/-- On a host that is equipped nothing is missing. -/
theorem none_missing (hA : plan.Hosts installed A)
    (h : plan.Follows A s (plan.stagesOf A s calls) calls)
    (hs : plan.Equipped installed s) : missingAmong plan.packages calls = [] := by
  rw [stagesOf, stages_eq] at h
  exact missing_of_equipped hA (List.Subset.refl _) h hs

/-- An archive that was there when a run started is there when its package phase is over. -/
theorem stagesOf_unpacked (hA : plan.Hosts installed A)
    (h : plan.Follows A s (plan.stagesOf A s calls) calls)
    (hs : plan.Unpacked s) :
    plan.stagesOf A s calls = plan.stages (missingAmong plan.packages calls) true := by
  let first := plan.packageStages (missingAmong plan.packages calls)
  have hfirst : (calls.take first.length).map Event.request? <+:
      first.map (some ∘ plan.request) := by
    have h := h.requests.take first.length
    rw [← List.map_take, ← List.map_take, stagesOf, stages, List.append_assoc,
      List.take_left] at h
    exact h
  have hkept : plan.Unpacked (A.after s (calls.take first.length)) := by
    refine hA.keep_unpacked.after (fun e he q hq => ?_) hs
    obtain ⟨g, hg, hreq⟩ := exists_stage_of_requests hfirst he
    rw [hq] at hreq
    exact Option.some.inj hreq ▸ isCommand_of_package hg
  exact congrArg (plan.stages _) hkept

/-- On a host where all but the build is done, the probes and the build command are all that a run
asks for, whether the build succeeds or not. -/
theorem asks_probes_and_build (hA : plan.Hosts installed A)
    (h : plan.Follows A s (plan.stagesOf A s calls) calls)
    (hs : plan.Equipped installed s) (hs' : plan.Unpacked s) :
    calls.map Event.request? = (plan.stages [] true).map (some ∘ plan.request) := by
  have hmissing := none_missing hA h hs
  rw [stagesOf_unpacked hA h hs', hmissing] at h
  rw [stages_left] at h ⊢
  rcases h with ⟨t, h⟩ | h
  · exact h.requests
  · exact h.asks_build

end

/-- A report on a host where all but the build was done says so. -/
theorem report_of_rebuild (hA : plan.Hosts installed A) {privilege : Privilege} {w : World σ}
    {report : BuildReport} (hs : plan.Equipped installed w.toSite) (hs' : plan.Unpacked w.toSite)
    (hp : privilege.decide ≠ .reinvoke)
    (h : (plan.run A privilege w).1 = .ok (.completed report)) :
    report.missingPackages = [] ∧ report.archive = .present := by
  have follows := run_follows A plan hp w rfl
  have hmissing := none_missing hA follows hs
  have hasked := asks_probes_and_build hA follows hs hs'
  obtain ⟨present, t, passes, rfl⟩ := run_completed h
  rw [hmissing] at passes ⊢
  refine ⟨rfl, ?_⟩
  -- a run that unpacked something would have asked for more
  have hlen := congrArg List.length (passes.requests.symm.trans hasked)
  cases present with
  | true => rfl
  | false =>
    simp only [stages, archiveStages, List.length_map, List.length_append] at hlen
    cases hd : plan.dryRun <;> simp [hd] at hlen

/-- Re-running converges. A run that is past its package phase leaves all packages installed, so no
later run asks for a refresh or an installation: behind its probes there is only the archive, and
the build. One whose unzip succeeded leaves the archive, so no later run fetches or unpacks it, as
long as what was unpacked does not go away with the zip: between the probes and the build there are
only the manager's commands. And after one that completed every later run makes the probes and gives
the build command, however that ends, and has nothing missing and the archive present to report.
Between the two there may be any number of runs, each with agents and privileges of its own, that
fail anywhere or complete. -/
theorem reruns_converge (hd : plan.dryRun = false) (hA : plan.Hosts installed A)
    {privilege : Privilege} (hp : privilege.decide ≠ .reinvoke)
    {rounds : List (Agents σ × Privilege)} (hrounds : plan.OwnRounds installed rounds)
    {B : Agents σ} (hB : plan.Hosts installed B) {privilege' : Privilege}
    (hp' : privilege'.decide ≠ .reinvoke) (w : World σ) :
    let first := plan.run A privilege w
    let later := plan.run B privilege' (plan.runs rounds first.2)
    let calls := (plan.run A privilege).callsFrom w
    let asked := ((plan.run B privilege').callsFrom (plan.runs rounds first.2)).map Event.request?
    (plan.PastPackages calls → ∃ present, asked <+:
      (plan.packages.map Stage.probe ++ (plan.archiveStages present ++ [Stage.build])).map
        (some ∘ plan.request)) ∧
    (plan.UnpacksApart A → plan.UnzippedIn calls → ∃ missing, asked <+:
      (plan.packages.map Stage.probe ++ (plan.installStages missing ++ [Stage.build])).map
        (some ∘ plan.request)) ∧
    (plan.UnpacksApart A → (∃ report, first.1 = .ok (.completed report)) →
      asked = plan.packages.map (fun package =>
          some (.probe (plan.platform.profile.asking package))) ++
        [some (.run plan.building)] ∧
      ∀ report, later.1 = .ok (.completed report) →
        report.missingPackages = [] ∧ report.archive = .present) := by
  intro first later calls asked
  obtain ⟨hequipped, hunpacked⟩ := run_done hd hA hp w
  have follows := run_follows B plan hp' (plan.runs rounds first.2) rfl
  refine ⟨fun hpast => ?_, fun hapart hunzipped => ?_, fun hapart hcompleted => ?_⟩
  · have hleft := none_missing hB follows (runs_equipped hrounds (hequipped (.inl hpast)))
    have hasked := follows.requests
    rw [stagesOf, hleft, stages_eq] at hasked
    exact ⟨_, hasked⟩
  · have hleft := stagesOf_unpacked hB follows
      (runs_unpacked hrounds (hunpacked hapart (.inl hunzipped)))
    have hasked := follows.requests
    rw [hleft, stages_eq] at hasked
    exact ⟨_, hasked⟩
  · have hs := runs_equipped hrounds (hequipped (.inr hcompleted))
    have hs' := runs_unpacked hrounds (hunpacked hapart (.inr hcompleted))
    refine ⟨(asks_probes_and_build hB follows hs hs').trans ?_, fun report hreport =>
      report_of_rebuild hB hs hs' hp' hreport⟩
    simp only [stages_left, List.map_append, List.map_map]
    rfl

instance (plan : BootstrapPlan) (calls : List Event) : Decidable (plan.UnzippedIn calls) :=
  decidable_of_iff
    (calls.any (fun
      | .ran c (.ok ()) _ => decide (c = plan.archiveRequest.unzip)
      | _ => false) = true) <| by
    rw [List.any_eq_true]
    constructor
    · rintro ⟨e, hmem, he⟩
      split at he
      · rename_i c printed
        exact ⟨printed, of_decide_eq_true he ▸ hmem⟩
      · cases he
    · rintro ⟨printed, hmem⟩
      exact ⟨_, hmem, decide_eq_true rfl⟩

instance (plan : BootstrapPlan) (calls : List Event) : Decidable (plan.PastPackages calls) :=
  inferInstanceAs (Decidable (_ ∧ _))

/-- Commands on a host that lists what is installed. An unzip makes the unpack directory, and fails
unless the file system then fits; every other command adds what it names to the list. Downloads go
where they can. -/
def packageHost (plan : BootstrapPlan) (fits : FileSystem → Bool) : Agents (List String) where
  run c s :=
    if c = plan.archiveRequest.unzip then
      let made := (s.fs.makeDirectories plan.archiveDir).2
      if fits made then ((.ok (), {}), { s with fs := made })
      else ((.error (.ofFault (.childFailed c.program 9)), {}), s)
    else ((.ok (), {}), { s with agent := c.args ++ s.agent })
  probe c s := (decide (c.args.getLast? ∈ s.agent.map some), s)
  fetch _ target s := (.ok (), { s with fs := (s.fs.write target .empty).toOption.getD s.fs })

theorem packageHost_unzip {fits : FileSystem → Bool} {s : Site (List String)}
    (h : ((packageHost plan fits).run plan.archiveRequest.unzip s).1.1 = .ok ()) :
    fits ((packageHost plan fits).run plan.archiveRequest.unzip s).2.fs = true := by
  simp only [packageHost, if_true] at h ⊢
  split
  · rename_i hfits
    exact hfits
  · rename_i hfits
    rw [if_neg hfits] at h
    cases h

theorem packageHost_hosts {fits : FileSystem → Bool}
    (hfits : ∀ fs, fits fs = true → fs.has plan.archiveDir = true) :
    plan.Hosts (fun packages package => package ∈ packages) (packageHost plan fits) where
  probes package _ s := by
    simp [packageHost, PlatformProfile.asking]
  installs packages s _ package hp := by
    have hne : plan.platform.profile.installing packages ≠ plan.archiveRequest.unzip := by
      intro heq
      have hprogram := congrArg Command.program heq
      cases hplatform : plan.platform <;> rw [hplatform] at hprogram <;>
        simp [PlatformProfile.installing, Platform.profile,
          PlatformProfile.debian, PlatformProfile.rhel, ArchiveRequest.unzip, unzipCommand]
          at hprogram
    simp only [packageHost, if_neg hne]
    exact List.mem_append_left _ (List.mem_append_right _ hp)
  unpacks s h := hfits _ (packageHost_unzip h)
  keeps_packages package q s h := by
    cases q with
    | run c =>
      simp only [Agents.answer, packageHost]
      split
      · split <;> exact h
      · exact List.mem_append_right _ h
    | _ => exact h
  keeps_archive q s _ h := by
    cases q with
    | run c =>
      simp only [Agents.answer, packageHost]
      split
      · split
        · rename_i hmade
          exact hfits _ hmade
        · exact h
      · exact h
    | probe c => exact h
    | fetch => simp_all [Request.isCommand]

def isTidy (plan : BootstrapPlan) (fs : FileSystem) : Bool :=
  fs.hasDirectory plan.archiveDir && decide (¬ fs.LinkAt plan.archiveZip)

def tidyHost : Agents (List String) := packageHost workspacePlan workspacePlan.isTidy

theorem tidyHost_hosts :
    workspacePlan.Hosts (fun packages package => package ∈ packages) tidyHost :=
  packageHost_hosts fun _ h => FileSystem.has_of_hasDirectory (Bool.and_eq_true_iff.mp h).1

theorem tidyHost_apart : workspacePlan.UnpacksApart tidyHost :=
  unpacksApart_of_directory fun _ h => by
    have hfits := Bool.and_eq_true_iff.mp (packageHost_unzip h)
    exact ⟨hfits.1, of_decide_eq_true hfits.2⟩

theorem completed_of_run {privilege : Privilege} {w : World σ} (hp : privilege.decide ≠ .reinvoke)
    (h : (plan.run A privilege w).1.toBool = true) :
    ∃ report, (plan.run A privilege w).1 = .ok (.completed report) := by
  obtain ⟨w₀, -, -, hresult, -⟩ := run_phases A plan hp w
  rw [hresult] at h ⊢
  cases hr : (plan.phases A privilege.decide w₀).1 with
  | ok report => exact ⟨report, rfl⟩
  | error e =>
    rw [hr] at h
    cases h

/-- A run that installs, fetches and unpacks, one like it, and a third that has nothing left but to
build. -/
theorem third_run_builds :
    let root : Privilege := ⟨true, false, false⟩
    let w : World (List String) := { fs := bareWorkspace.fs, agent := [] }
    let w' := workspacePlan.runs [(tidyHost, root)] (workspacePlan.run tidyHost root w).2
    let calls := (workspacePlan.run tidyHost root).callsFrom w
    workspacePlan.dryRun = false ∧ root.decide ≠ .reinvoke ∧ workspacePlan.UnpacksApart tidyHost ∧
      workspacePlan.OwnRounds (fun packages package => package ∈ packages) [(tidyHost, root)] ∧
      workspacePlan.PastPackages calls ∧ workspacePlan.UnzippedIn calls ∧
      (∃ report, (workspacePlan.run tidyHost root w).1 = .ok (.completed report)) ∧
      ((workspacePlan.run tidyHost root).callsFrom w').map Event.request? =
        workspacePlan.packages.map (fun package =>
            some (.probe (workspacePlan.platform.profile.asking package))) ++
          [some (.run workspacePlan.building)] := by
  intro root w w' calls
  have hp : root.decide ≠ .reinvoke := by decide
  have hrounds : workspacePlan.OwnRounds (fun packages package => package ∈ packages)
      [(tidyHost, root)] := by
    intro round hr
    rw [List.mem_singleton.mp hr]
    exact ⟨tidyHost_hosts, hp⟩
  have hcompleted : ∃ report, (workspacePlan.run tidyHost root w).1 = .ok (.completed report) :=
    completed_of_run hp (by decide +kernel)
  have hpast : workspacePlan.PastPackages calls := by decide +kernel
  have hunzipped : workspacePlan.UnzippedIn calls := by decide +kernel
  obtain ⟨-, -, rebuild⟩ :=
    reruns_converge rfl tidyHost_hosts hp hrounds tidyHost_hosts hp w
  exact ⟨rfl, hp, tidyHost_apart, hrounds, hpast, hunzipped, hcompleted,
    (rebuild tidyHost_apart hcompleted).1⟩

def linkedPlan : BootstrapPlan :=
  Tool.buildPlan { executable := ⟨"/usr/bin/bastion-dev"⟩ } ⟨⟨"/w"⟩⟩
    { archive := { dir := "a/libtorch" } } .debian none false

def linkedWorkspace : World (List String) where
  fs := { entries := [(["w"], .directory), (["w", "store"], .directory),
    (["w", "store", "libtorch.zip"], .link "."), (["w", "a"], .link "store/libtorch.zip")] }
  agent := []

/-- Where the directory of the archive is reached by way of the zip's own entry, a run can unpack the
archive and take away the way to it together with the zip. It completes, and the next run fetches
again and gives the unzip command again. -/
theorem linked_zip_unpacked_twice :
    let A := packageHost linkedPlan (·.has linkedPlan.archiveDir)
    let root : Privilege := ⟨true, false, false⟩
    let w' := (linkedPlan.run A root linkedWorkspace).2
    let calls := (linkedPlan.run A root).callsFrom linkedWorkspace
    let later := (linkedPlan.run A root).callsFrom w'
    linkedPlan.Hosts (fun packages package => package ∈ packages) A ∧ linkedPlan.dryRun = false ∧
      root.decide ≠ .reinvoke ∧ linkedPlan.UnzippedIn calls ∧
      (∃ report, (linkedPlan.run A root linkedWorkspace).1 = .ok (.completed report)) ∧
      (linkedPlan.url, linkedPlan.archiveZip) ∈ later.filterMap Event.fetch? ∧
      linkedPlan.archiveRequest.unzip ∈ later.filterMap Event.command? := by
  intro A root w' calls later
  have hp : root.decide ≠ .reinvoke := by decide
  refine ⟨packageHost_hosts fun _ h => h, rfl, hp, ?_, completed_of_run hp ?_, ?_, ?_⟩ <;>
    decide +kernel

end BootstrapPlan
end Provision
