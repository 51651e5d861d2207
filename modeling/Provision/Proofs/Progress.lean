import Provision.Proofs.FaithfulReport
import Provision.Proofs.Files
import Provision.Proofs.ReadOnly

namespace Provision

variable {σ α β : Type}

def Agents.Keep (A : Agents σ) (P : Request → Bool) (I : Site σ → Prop) : Prop :=
  ∀ q s, P q = true → I s → I (A.answer s q).2

namespace Agents.Keep

variable {A : Agents σ} {P : Request → Bool} {I : Site σ → Prop} {s t : Site σ}
  {calls : List Event}

theorem served (h : A.Keep P I) (hs : A.Served s calls t)
    (only : ∀ e ∈ calls, ∀ q, e.request? = some q → P q = true) (hI : I s) : I t := by
  induction hs with
  | nothing s => exact hI
  | @asked s t u q e calls hq _ ih =>
    have hstep := h q s (only e List.mem_cons_self q (Agents.request_of_answer hq)) hI
    rw [hq] at hstep
    exact ih (fun e' he' => only e' (List.mem_cons_of_mem e he')) hstep

theorem after (h : A.Keep P I) (only : ∀ e ∈ calls, ∀ q, e.request? = some q → P q = true)
    (hI : I s) : I (A.after s calls) := by
  induction calls generalizing s with
  | nil => exact hI
  | cons e calls ih =>
    refine ih (fun e' he' => only e' (List.mem_cons_of_mem e he')) ?_
    unfold Agents.visit
    cases he : e.request? with
    | none => exact hI
    | some q => exact h q s (only e List.mem_cons_self q he) hI

end Agents.Keep

namespace Work

/-- Work that keeps a property of the site, also when it fails. -/
def Keeps (I : Site σ → Prop) (x : Work σ α) : Prop := ∀ w, I w.toSite → I (x w).2.toSite

variable {A : Agents σ} {P : Request → Bool} {I : Site σ → Prop} {x : Work σ α}

theorem Keeps.bind {k : α → Work σ β} (hx : x.Keeps I) (hk : ∀ a, (k a).Keeps I) :
    (x >>= k).Keeps I := by
  intro w hI
  have hfirst := hx w hI
  rw [bind_apply]
  cases hr : x w with
  | mk r w₁ =>
    rw [hr] at hfirst
    cases r with
    | error e => exact hfirst
    | ok a => exact hk a w₁ hfirst

theorem OnlyAsks.keeps (h : x.OnlyAsks A P) (hA : A.Keep P I) : x.Keeps I := by
  intro w hI
  obtain ⟨calls, -, served, only⟩ := h w
  refine hA.served served (fun e he q hq => ?_) hI
  obtain ⟨q', hq', hpermitted⟩ := only e he
  rw [hq] at hq'
  cases hq'
  exact hpermitted

end Work

namespace BootstrapPlan

/-- Agents of a host on which packages are installed or not: a probe tells whether its package is,
an installation that succeeds installs all it names, an unzip that succeeds makes the unpack
directory, and nothing that is run takes a package or the unpack directory away. -/
structure Hosts (plan : BootstrapPlan) (installed : σ → String → Prop) (A : Agents σ) : Prop where
  probes : ∀ package ∈ plan.packages, ∀ s,
    (A.probe (plan.platform.profile.asking package) s).1 = true ↔ installed s.agent package
  installs : ∀ packages s, (A.run (plan.platform.profile.installing packages) s).1.1 = .ok () →
    ∀ package ∈ packages,
      installed (A.run (plan.platform.profile.installing packages) s).2.agent package
  unpacks : ∀ s, (A.run plan.archiveRequest.unzip s).1.1 = .ok () →
    (A.run plan.archiveRequest.unzip s).2.fs.has plan.archiveDir = true
  keeps_packages : ∀ package q s, installed s.agent package →
    installed (A.answer s q).2.agent package
  keeps_archive : ∀ q s, q.isCommand = true → s.fs.has plan.archiveDir = true →
    (A.answer s q).2.fs.has plan.archiveDir = true

/-- What an unzip leaves in the place of the archive does not go away with the zip. -/
def UnpacksApart (plan : BootstrapPlan) (A : Agents σ) : Prop :=
  ∀ s, (A.run plan.archiveRequest.unzip s).1.1 = .ok () →
    ((A.run plan.archiveRequest.unzip s).2.fs.dropFile plan.archiveZip).has plan.archiveDir = true

/-- An unzip that makes a directory, with no link in the place of the zip, does. -/
theorem unpacksApart_of_directory {plan : BootstrapPlan} {A : Agents σ}
    (h : ∀ s, (A.run plan.archiveRequest.unzip s).1.1 = .ok () →
      (A.run plan.archiveRequest.unzip s).2.fs.hasDirectory plan.archiveDir = true ∧
        ¬ (A.run plan.archiveRequest.unzip s).2.fs.LinkAt plan.archiveZip) :
    plan.UnpacksApart A := fun s hok =>
  FileSystem.has_of_hasDirectory (FileSystem.hasDirectory_dropFile (h s hok).1 (h s hok).2)

def Equipped (plan : BootstrapPlan) (installed : σ → String → Prop) (s : Site σ) : Prop :=
  ∀ package ∈ plan.packages, installed s.agent package

def Unpacked (plan : BootstrapPlan) (s : Site σ) : Prop := s.fs.has plan.archiveDir = true

variable {plan : BootstrapPlan} {installed : σ → String → Prop} {A : Agents σ}

theorem Hosts.keep_package (h : plan.Hosts installed A) {package : String} :
    A.Keep (fun _ => true) (fun s => installed s.agent package) :=
  fun q s _ hI => h.keeps_packages package q s hI

theorem Hosts.keep_equipped (h : plan.Hosts installed A) :
    A.Keep Request.isCommand (plan.Equipped installed) :=
  fun q s _ hI package hp => h.keeps_packages package q s (hI package hp)

theorem Hosts.keep_unpacked (h : plan.Hosts installed A) :
    A.Keep Request.isCommand plan.Unpacked :=
  fun q s hq hI => h.keeps_archive q s hq hI

/-- The archive phase itself changes files only; all else is done by the agents. -/
theorem course_served {req : ArchiveRequest} {w w' : World σ} {r : Except Failure ArchiveStatus}
    (h : req.Course A w r w') :
    ∃ calls t, A.Served w.toSite calls t ∧ w'.agent = t.agent := by
  cases h with
  | present _ hw => exact ⟨_, _, hw.served, rfl⟩
  | planned _ _ hw => exact ⟨_, _, hw.served, rfl⟩
  | unplanned _ _ hw => exact ⟨_, _, hw.served, rfl⟩
  | unfetched _ _ hw => exact ⟨_, _, hw.served, rfl⟩
  | unreadable _ _ _ hw => exact ⟨_, _, hw.served, rfl⟩
  | mismatched _ _ _ hw => exact ⟨_, _, hw.served, rfl⟩
  | broken _ _ hw _ hu => exact ⟨_, _, (hw.trans hu).served, rfl⟩
  | stuck _ _ hw _ hu => exact ⟨_, _, (hw.trans hu).served, rfl⟩
  | downloaded _ _ hw _ hu => exact ⟨_, _, (hw.trans hu).served, rfl⟩

/-- A package that is installed stays, whatever is asked. -/
theorem Hosts.served_package (hA : plan.Hosts installed A) {s t : Site σ} {calls : List Event}
    (h : A.Served s calls t) {package : String} (hs : installed s.agent package) :
    installed t.agent package :=
  hA.keep_package.served h (fun _ _ _ _ => rfl) hs

theorem ensure_keeps_equipped (hA : plan.Hosts installed A) :
    (plan.archiveRequest.ensure A).Keeps (plan.Equipped installed) := by
  intro w hs
  obtain ⟨calls, t, served, hagent⟩ := course_served (plan.archiveRequest.ensure_course A w)
  intro package hp
  rw [hagent]
  exact hA.served_package served (hs package hp)

/-- An archive that is there is not touched. -/
theorem ensure_keeps_unpacked : (plan.archiveRequest.ensure A).Keeps plan.Unpacked := by
  intro w hp
  have hhas : w.fs.has plan.archiveRequest.unpackDir = true := hp
  obtain ⟨w', hensure, hw⟩ := ArchiveRequest.ensure_present A hhas
  rw [hensure, show w'.toSite = w.toSite from hw.after.symm]
  exact hp

def buildLast (A : Agents σ) (plan : BootstrapPlan) (escalation : Escalation)
    (missing : List String) (archive : ArchiveStatus) : Work σ BuildReport := do
  Work.enter plan.buildCommand
  Work.run A.toRunner plan.buildCommand
  let steps ← Work.steps
  pure {
    platform := plan.platform
    variant := plan.variant
    escalation
    missingPackages := missing
    archive
    archiveDir := plan.archiveDir
    steps
    dryRun := plan.dryRun }

theorem archiveAndBuild_eq (A : Agents σ) (plan : BootstrapPlan) (escalation : Escalation)
    (missing : List String) :
    plan.archiveAndBuild A escalation missing =
      plan.archiveRequest.ensure A >>= plan.buildLast A escalation missing := rfl

theorem onlyAsks_buildLast (A : Agents σ) (plan : BootstrapPlan) (escalation : Escalation)
    (missing : List String) (archive : ArchiveStatus) :
    (plan.buildLast A escalation missing archive).OnlyAsks A Request.isCommand :=
  .bind (.of_silent fun _ => ⟨rfl, rfl⟩) fun _ => (Work.onlyAsks_command A _).bind fun _ =>
    .bind (.of_silent fun _ => ⟨rfl, rfl⟩) fun _ => .pure _

theorem phases_keep {I : Site σ → Prop} (hA : A.Keep Request.isCommand I)
    (harchive : (plan.archiveRequest.ensure A).Keeps I) (escalation : Escalation) :
    (plan.phases A escalation).Keeps I :=
  ((onlyAsks_ensurePackages A _).keeps hA).bind fun missing =>
    harchive.bind fun archive => (onlyAsks_buildLast A plan escalation missing archive).keeps hA

theorem run_phases (A : Agents σ) (plan : BootstrapPlan) {privilege : Privilege}
    (hp : privilege.decide ≠ .reinvoke) (w : World σ) :
    ∃ w₀, w₀.toSite = w.toSite ∧ w₀.calls = w.calls ∧
      (plan.run A privilege w).1 = (plan.phases A privilege.decide w₀).1.map .completed ∧
      (plan.run A privilege w).2 = (plan.phases A privilege.decide w₀).2 := by
  obtain ⟨hresult, hworld⟩ := run_performed A plan (fun hr => absurd hr hp) w
  obtain ⟨w₀, prepared, hperform⟩ := perform_prepared A plan privilege.decide w
  rw [hperform] at hresult hworld
  exact ⟨w₀, prepared.site_eq, prepared.calls_eq, hresult, hworld⟩

/-- Step: one run keeps the packages and the archive. -/
theorem run_keeps (hA : plan.Hosts installed A) {privilege : Privilege}
    (hp : privilege.decide ≠ .reinvoke) :
    (plan.run A privilege).Keeps (plan.Equipped installed) ∧
      (plan.run A privilege).Keeps plan.Unpacked := by
  have lift {I : Site σ → Prop} (h : (plan.phases A privilege.decide).Keeps I) :
      (plan.run A privilege).Keeps I := by
    intro w hI
    obtain ⟨w₀, hsite, -, -, hworld⟩ := run_phases A plan hp w
    rw [hworld]
    exact h w₀ (hsite ▸ hI)
  exact ⟨lift (phases_keep hA.keep_equipped (ensure_keeps_equipped hA) _),
    lift (phases_keep hA.keep_unpacked ensure_keeps_unpacked _)⟩

def runs (plan : BootstrapPlan) (rounds : List (Agents σ × Privilege)) (w : World σ) : World σ :=
  rounds.foldl (fun w round => (plan.run round.1 round.2 w).2) w

def OwnRounds (plan : BootstrapPlan) (installed : σ → String → Prop)
    (rounds : List (Agents σ × Privilege)) : Prop :=
  ∀ round ∈ rounds, plan.Hosts installed round.1 ∧ round.2.decide ≠ .reinvoke

theorem runs_keep {I : Site σ → Prop} {rounds : List (Agents σ × Privilege)}
    (h : ∀ round ∈ rounds, (plan.run round.1 round.2).Keeps I) {w : World σ} (hI : I w.toSite) :
    I (plan.runs rounds w).toSite := by
  induction rounds generalizing w with
  | nil => exact hI
  | cons round rounds ih =>
    exact ih (fun r hr => h r (List.mem_cons_of_mem round hr))
      (h round List.mem_cons_self w hI)

theorem runs_equipped {rounds : List (Agents σ × Privilege)} (h : plan.OwnRounds installed rounds)
    {w : World σ} (hw : plan.Equipped installed w.toSite) :
    plan.Equipped installed (plan.runs rounds w).toSite :=
  runs_keep (fun round hr => (run_keeps (h round hr).1 (h round hr).2).1) hw

theorem runs_unpacked {rounds : List (Agents σ × Privilege)} (h : plan.OwnRounds installed rounds)
    {w : World σ} (hw : plan.Unpacked w.toSite) : plan.Unpacked (plan.runs rounds w).toSite :=
  runs_keep (fun round hr => (run_keeps (h round hr).1 (h round hr).2).2) hw

/-- All that the package phase asks for was asked for, and nothing of it failed. -/
def PastPackages (plan : BootstrapPlan) (calls : List Event) : Prop :=
  let stages := plan.packageStages (missingAmong plan.packages calls)
  stages.length ≤ calls.length ∧ ∀ e ∈ calls.take stages.length, e.hasFailed = false

def UnzippedIn (plan : BootstrapPlan) (calls : List Event) : Prop :=
  ∃ printed, .ran plan.archiveRequest.unzip (.ok ()) printed ∈ calls

/-- Each package that was probed is reported missing, or is installed when the probes are over. -/
theorem Passes.probed (hA : plan.Hosts installed A) {packages : List String}
    (hsub : packages ⊆ plan.packages) {s t : Site σ} {calls : List Event}
    (h : Passes A plan s (packages.map .probe) calls t) :
    ∀ package ∈ packages, package ∈ missingAmong packages calls ∨ installed t.agent package := by
  induction packages generalizing s calls with
  | nil => simp
  | cons package rest ih =>
    cases h with
    | @stage _ u _ _ e _ calls hq _ next =>
      have hlater := ih (fun p hp => hsub (List.mem_cons_of_mem package hp)) next
      have hu : (A.answer s (.probe (plan.platform.profile.asking package))).2 = u :=
        congrArg Prod.snd hq
      have he : e = .probed (plan.platform.profile.asking package)
          (A.probe (plan.platform.profile.asking package) s).1 :=
        (congrArg Prod.fst hq).symm
      rw [he, missingAmong]
      intro p hp
      cases hanswer : (A.probe (plan.platform.profile.asking package) s).1 with
      | false =>
        rcases List.mem_cons.mp hp with rfl | hp
        · exact .inl List.mem_cons_self
        · exact (hlater p hp).imp_left (List.mem_cons_of_mem package)
      | true =>
        rcases List.mem_cons.mp hp with rfl | hp
        · have hs := (hA.probes p (hsub List.mem_cons_self) s).mp hanswer
          have hstep := hA.keeps_packages p (.probe (plan.platform.profile.asking p)) s hs
          rw [hu] at hstep
          exact .inr (hA.served_package (next.served (by simp)) hstep)
        · exact hlater p hp

/-- The installation of what was missing, if there is one, leaves all of that installed. -/
theorem Passes.leaves_installed (hA : plan.Hosts installed A) {missing : List String}
    {s t : Site σ} {calls : List Event}
    (h : Passes A plan s (plan.installStages missing) calls t) :
    ∀ package ∈ missing, installed t.agent package := by
  intro package hp
  rw [installStages, if_neg (List.ne_nil_of_mem hp)] at h
  obtain ⟨_, after, u, -, -, last⟩ := h.split
  cases last with
  | @stage _ v _ _ e _ _ hq hf rest =>
    cases rest
    have hv : (A.run (plan.platform.profile.installing missing) u).2 = v := congrArg Prod.snd hq
    have hok : (A.run (plan.platform.profile.installing missing) u).1.1 = .ok () := by
      cases hr : (A.run (plan.platform.profile.installing missing) u).1.1 with
      | ok _ => rfl
      | error f =>
        have he : e = .ran _ (A.run (plan.platform.profile.installing missing) u).1.1 _ :=
          (congrArg Prod.fst hq).symm
        rw [hr] at he
        exact absurd (.call (by rw [he]; rfl)) hf
    have hthere := hA.installs missing u hok package hp
    rw [hv] at hthere
    exact hthere

theorem not_mem_installStages {missing : List String} :
    .unzip ∉ plan.installStages missing := fun h =>
  plan.unzip_not_mem_packageStages missing (List.mem_append_right _ h)

theorem Passes.equipped (hA : plan.Hosts installed A) {s t : Site σ} {calls : List Event}
    (h : Passes A plan s (plan.packageStages (missingAmong plan.packages calls)) calls t) :
    plan.Equipped installed t := by
  obtain ⟨before, after, u, rfl, probes, installs⟩ := h.split
  have hlen : plan.packages.length = before.length := by simpa using probes.length_eq.symm
  rw [missingAmong_append after (Nat.le_of_eq hlen)] at installs
  intro package hp
  rcases probes.probed hA (List.Subset.refl _) package hp with hmissing | hthere
  · exact installs.leaves_installed hA package hmissing
  · exact hA.served_package (installs.served not_mem_installStages) hthere

theorem answer_of_unzip {w w' : World σ} {r : Except Failure Unit} {printed : Printed}
    {steps : List Command}
    (h : w.Continues A [.ran plan.archiveRequest.unzip r printed] steps w') :
    (A.run plan.archiveRequest.unzip w.toSite).1.1 = r ∧
      (A.run plan.archiveRequest.unzip w.toSite).2 = w'.toSite := by
  have hcall := congrArg Prod.fst h.ran
  simp only [Agents.answer, Event.ran.injEq, true_and] at hcall
  exact ⟨hcall.1, congrArg Prod.snd h.ran⟩

/-- The archive is there after a phase that succeeded, and after one that failed once the archive
was unpacked. -/
theorem unpacked_of_course (hd : plan.dryRun = false) (hA : plan.Hosts installed A)
    (hapart : plan.UnpacksApart A) {w w' : World σ} {r : Except Failure ArchiveStatus}
    (h : plan.archiveRequest.Course A w r w')
    (hdone : (∃ status, r = .ok status) ∨ ∃ calls, w'.calls = w.calls ++ calls ∧
      plan.UnzippedIn calls) : plan.Unpacked w'.toSite := by
  have dry {p : Prop} (h : plan.archiveRequest.dryRun = true) : p := by
    rw [show plan.archiveRequest.dryRun = false from hd] at h
    cases h
  -- a phase that failed without an unzip that succeeded has nothing to show
  have undone {made : List Event} {e : Failure} (hmade : w'.calls = w.calls ++ made)
      (hnone : ¬ plan.UnzippedIn made)
      (hdone : (∃ status, Except.error e = (.ok status : Except Failure ArchiveStatus)) ∨
        ∃ calls, w'.calls = w.calls ++ calls ∧ plan.UnzippedIn calls) :
      plan.Unpacked w'.toSite := by
    rcases hdone with ⟨status, hok⟩ | ⟨calls, hcalls, hmem⟩
    · cases hok
    · obtain rfl := List.append_cancel_left (hcalls.symm.trans hmade)
      exact absurd hmem hnone
  cases h with
  | present hp hw =>
    rw [← hw.after]
    exact hp
  | planned _ hdry => exact dry hdry
  | unplanned _ hdry => exact dry hdry
  | unfetched _ _ hw => exact undone hw.calls_eq (by simp [UnzippedIn]) hdone
  | unreadable _ _ _ hw => exact undone hw.calls_eq (by simp [UnzippedIn]) hdone
  | mismatched _ _ _ hw => exact undone hw.calls_eq (by simp [UnzippedIn]) hdone
  | broken _ _ hw _ hu => exact undone (hw.trans hu).calls_eq (by simp [UnzippedIn]) hdone
  | stuck _ _ _ _ hu =>
    obtain ⟨hok, hsite⟩ := answer_of_unzip hu
    rw [← hsite]
    exact hA.unpacks _ hok
  | @downloaded w₁ w₂ printed _ _ _ _ hu =>
    obtain ⟨hok, hsite⟩ := answer_of_unzip hu
    have hunpacked := hA.unpacks _ hok
    have hleft := hapart _ hok
    rw [hsite] at hunpacked hleft
    unfold Unpacked FileSystem.tidied
    dsimp only
    split
    · exact hleft
    · exact hunpacked

theorem archiveAndBuild_unpacked (hd : plan.dryRun = false) (hA : plan.Hosts installed A)
    (hapart : plan.UnpacksApart A) {escalation : Escalation} {missing : List String} {w : World σ}
    (hdone : (∃ report, (plan.archiveAndBuild A escalation missing w).1 = .ok report) ∨
      ∃ calls, (plan.archiveAndBuild A escalation missing w).2.calls = w.calls ++ calls ∧
        plan.UnzippedIn calls) :
    plan.Unpacked (plan.archiveAndBuild A escalation missing w).2.toSite := by
  have course := plan.archiveRequest.ensure_course A w
  rw [archiveAndBuild_eq] at hdone ⊢
  cases hy : plan.archiveRequest.ensure A w with
  | mk r w₁ =>
    rw [hy] at course
    cases r with
    | error e =>
      rw [Work.bind_of_error hy] at hdone ⊢
      exact unpacked_of_course hd hA hapart course (hdone.imp_left fun ⟨_, h⟩ => by cases h)
    | ok status =>
      rw [Work.bind_of_ok hy]
      exact (onlyAsks_buildLast A plan escalation missing status).keeps hA.keep_unpacked w₁
        (unpacked_of_course hd hA hapart course (.inl ⟨status, rfl⟩))

theorem archiveAndBuild_keeps_equipped (hA : plan.Hosts installed A) (escalation : Escalation)
    (missing : List String) :
    (plan.archiveAndBuild A escalation missing).Keeps (plan.Equipped installed) :=
  (ensure_keeps_equipped hA).bind fun archive =>
    (onlyAsks_buildLast A plan escalation missing archive).keeps hA.keep_equipped

/-- A package phase that stopped is not behind the run, and nothing was unpacked. -/
theorem Stops.not_pastPackages {s : Site σ} {calls : List Event}
    (h : Stops A plan s (plan.packageStages (missingAmong plan.packages calls)) calls) :
    ¬ plan.PastPackages calls ∧ ¬ plan.UnzippedIn calls := by
  constructor
  · rintro ⟨hlen, hnone⟩
    obtain ⟨e, he, hfailed⟩ := h.exists_failed (plan.fetch_not_mem_packageStages _)
      (plan.unzip_not_mem_packageStages _)
    have hle := h.requests.length_le
    simp only [List.length_map] at hle
    rw [List.take_of_length_le hle] at hnone
    rw [hnone e he] at hfailed
    cases hfailed
  · rintro ⟨printed, hmem⟩
    obtain ⟨g, hg, hreq⟩ := h.exists_stage hmem
    exact (request_of_package hg).1 (Option.some.inj hreq).symm

theorem phases_done (hd : plan.dryRun = false) (hA : plan.Hosts installed A)
    (escalation : Escalation) (w : World σ) :
    ∃ calls, (plan.phases A escalation w).2.calls = w.calls ++ calls ∧
      (plan.PastPackages calls ∨ (∃ report, (plan.phases A escalation w).1 = .ok report) →
        plan.Equipped installed (plan.phases A escalation w).2.toSite) ∧
      (plan.UnpacksApart A →
        plan.UnzippedIn calls ∨ (∃ report, (plan.phases A escalation w).1 = .ok report) →
        plan.Unpacked (plan.phases A escalation w).2.toSite) := by
  obtain ⟨before, hpackages, hlen⟩ := package_phase A plan w
  cases hx : ensurePackages A.toRunner plan.platform.profile w with
  | mk r w₁ =>
    rw [hx] at hpackages
    cases hpackages with
    | stopped log run =>
      obtain ⟨hpast, hunzipped⟩ := run.not_pastPackages
      rw [phases, Work.bind_of_error hx]
      exact ⟨before, log.calls_eq, by simp [hpast], by simp [hunzipped]⟩
    | @passed missing _ log run =>
      rw [phases, Work.bind_of_ok hx]
      obtain ⟨calls, phase⟩ := archiveAndBuild_phase A plan escalation missing w₁
      have hcalls := phase.logged.calls_eq
      refine ⟨before ++ calls, by rw [hcalls, log.calls_eq, List.append_assoc], fun _ => ?_,
        fun hapart hdone => ?_⟩
      · exact archiveAndBuild_keeps_equipped hA escalation missing w₁ (run.equipped hA)
      · refine archiveAndBuild_unpacked hd hA hapart (hdone.symm.imp_right ?_)
        rintro ⟨printed, hmem⟩
        refine ⟨calls, hcalls, printed, ?_⟩
        rcases List.mem_append.mp hmem with hmem | hmem
        · obtain ⟨g, hg, hreq⟩ := run.exists_stage hmem
          exact absurd (Option.some.inj hreq).symm (request_of_package hg).1
        · exact hmem

/-- What a run got done: all packages are installed when it is past its package phase, and the
archive is unpacked when its unzip succeeded. -/
theorem run_done (hd : plan.dryRun = false) (hA : plan.Hosts installed A) {privilege : Privilege}
    (hp : privilege.decide ≠ .reinvoke) (w : World σ) :
    let calls := (plan.run A privilege).callsFrom w
    let completed := ∃ report, (plan.run A privilege w).1 = .ok (.completed report)
    (plan.PastPackages calls ∨ completed →
      plan.Equipped installed (plan.run A privilege w).2.toSite) ∧
    (plan.UnpacksApart A → plan.UnzippedIn calls ∨ completed →
      plan.Unpacked (plan.run A privilege w).2.toSite) := by
  obtain ⟨w₀, -, hcalls₀, hresult, hworld⟩ := run_phases A plan hp w
  obtain ⟨calls, hcalls, hequipped, hunpacked⟩ := phases_done hd hA privilege.decide w₀
  rw [hcalls₀, ← hworld] at hcalls
  rw [← hworld] at hequipped hunpacked
  intro calls' completed
  obtain rfl : calls' = calls := Work.callsFrom_eq hcalls
  have hreport (h : completed) :
      ∃ report, (plan.phases A privilege.decide w₀).1 = .ok report := by
    obtain ⟨report, h⟩ := h
    rw [hresult] at h
    cases hr : (plan.phases A privilege.decide w₀).1 with
    | ok report => exact ⟨report, rfl⟩
    | error e =>
      rw [hr] at h
      cases h
  exact ⟨fun h => hequipped (h.imp_right hreport),
    fun hapart h => hunpacked hapart (h.imp_right hreport)⟩

end BootstrapPlan
end Provision
