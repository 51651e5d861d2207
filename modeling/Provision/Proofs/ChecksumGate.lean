import Provision.Proofs.Escalation
import Provision.Proofs.Layout
import Provision.Download
import Provision.Scene

namespace Provision

variable {σ α : Type}

theorem ArchiveConfig.sha256_of_variant {c : ArchiveConfig} {v : Variant} {expected : String}
    (hcpu : v = .cpu → c.cpuSha256 = some expected)
    (hcuda : v = .cuda → c.cudaSha256 = some expected) : c.sha256 v = some expected := by
  cases v with
  | cpu => exact hcpu rfl
  | cuda => exact hcuda rfl

/-- Whatever goes wrong with a fetch is a failed download. -/
def Fetcher.FailsAsDownload (F : Fetcher σ) : Prop :=
  ∀ (url : String) (target : Path) (s : Site σ) (f : Fault),
    (F.fetch url target s).1 = .error f → f.code = "DOWNLOAD"

theorem Fetcher.web_failsAsDownload (network : Network) :
    (Fetcher.web network : Fetcher σ).FailsAsDownload := by
  intro url target s f h
  simp only [Fetcher.web] at h
  cases hr : (Download.trail s.fs target (network url)).result with
  | ok _ =>
    rw [hr] at h
    cases h
  | error reason =>
    rw [hr] at h
    cases h
    rfl

namespace BootstrapPlan

/-- How a run with a checksum deals with the archive. Either the packages fail, or the archive is
there, or what was fetched is refused, or it is verified and unpacked. -/
inductive Handling (A : Agents σ) (plan : BootstrapPlan) (expected : String) (s : Site σ) :
    List Event → Except Failure α → FileSystem → Prop
  | unreached {calls : List Event} {e : Failure} {fs : FileSystem}
    (run : plan.Stops A s (plan.packageStages (missingAmong plan.packages calls)) calls) :
    Handling A plan expected s calls (.error e) fs
  | present {before after : List Event} {t : Site σ} {r : Except Failure α} {fs : FileSystem}
    (run : plan.Passes A s (plan.packageStages (missingAmong plan.packages before)) before t)
    (hp : t.fs.has plan.archiveDir = true)
    (hafter : ∀ e ∈ after, e.request? = some (plan.request .build)) :
    Handling A plan expected s (before ++ after) r fs
  | refused {before : List Event} {t u : Site σ} {r : Except Fault Unit} {e : Failure}
    {fs : FileSystem}
    (run : plan.Passes A s (plan.packageStages (missingAmong plan.packages before)) before t)
    (hp : t.fs.has plan.archiveDir = false)
    (hq : A.answer t (plan.request .fetch) = (.fetched plan.url plan.archiveZip r, u))
    (hbad : ¬ (r = .ok () ∧ u.fs.Verified plan.archiveZip expected))
    (hfault : ∀ f, r = .error f → e = .ofFault f)
    (hcode : A.toFetcher.FailsAsDownload → e.code = "DOWNLOAD")
    (hgone : ∀ content, r = .ok () → u.fs.read plan.archiveZip = .ok content →
      fs = u.fs.dropFile plan.archiveZip) :
    Handling A plan expected s (before ++ [.fetched plan.url plan.archiveZip r]) (.error e) fs
  | unpacked {before after : List Event} {t u v : Site σ} {e : Event} {r : Except Failure α}
    {fs : FileSystem}
    (run : plan.Passes A s (plan.packageStages (missingAmong plan.packages before)) before t)
    (hp : t.fs.has plan.archiveDir = false)
    (hq : A.answer t (plan.request .fetch) = (.fetched plan.url plan.archiveZip (.ok ()), u))
    (hv : u.fs.Verified plan.archiveZip expected)
    (hu : A.answer u (plan.request .unzip) = (e, v))
    (hafter : ∀ e ∈ after, e.request? = some (plan.request .build)) :
    Handling A plan expected s
      (before ++ .fetched plan.url plan.archiveZip (.ok ()) :: e :: after) r fs

variable {A : Agents σ} {plan : BootstrapPlan} {w : World σ}

theorem build_calls {β : Type} (A : Agents σ) (plan : BootstrapPlan) (report : List Command → β)
    (w : World σ) :
    let x : Work σ β := do
      Work.enter plan.buildCommand
      Work.run A.toRunner plan.buildCommand
      let steps ← Work.steps
      pure (report steps)
    ∃ calls, (x w).2.calls = w.calls ++ calls ∧
      ∀ e ∈ calls, e.request? = some (plan.request .build) := by
  intro x
  obtain ⟨calls, phase⟩ := build_phase A plan report w
  refine ⟨calls, phase.logged.calls_eq, fun e he => ?_⟩
  obtain ⟨g, hg, hreq⟩ := phase.exists_stage he
  rw [hreq, List.mem_singleton.mp hg]

section

variable {expected : String} {s : Site σ} {before : List Event} {w₁ w₂ : World σ}

/-- Whatever makes the archive phase fail, it unpacked nothing that was not verified. -/
theorem handling_of_error {e : Failure} (hs : plan.sha256 = some expected)
    (hd : plan.dryRun = false)
    (run : plan.Passes A s (plan.packageStages (missingAmong plan.packages before)) before
      w₁.toSite)
    (course : plan.archiveRequest.Course A w₁ (.error e) w₂) :
    ∃ calls, w₂.calls = w₁.calls ++ calls ∧
      plan.Handling A expected s (before ++ calls) (.error e : Except Failure α) w₂.fs := by
  cases course with
  | unplanned hp hdry hw =>
    rw [show plan.archiveRequest.dryRun = false from hd] at hdry
    cases hdry
  | unfetched hp _ hw =>
    have hq := hw.fetched
    refine ⟨_, hw.calls_eq, .refused run hp hq (by simp) ?_ (fun h => ?_) ?_⟩
    · rintro f ⟨⟩
      rfl
    · have hanswer := congrArg Prod.fst hq
      simp only [Agents.answer, Event.fetched.injEq] at hanswer
      exact h _ _ _ _ hanswer.2.2
    · intro content hok
      cases hok
  | unreadable hp _ hs' hw hr =>
    rw [show plan.archiveRequest.sha256 = some expected from hs] at hs'
    cases hs'
    have hq := hw.fetched
    have hunread := FileSystem.sha256_eq_error.mp hr
    refine ⟨_, hw.calls_eq, .refused run hp hq ?_ (by simp) (fun _ => rfl) ?_⟩
    · exact fun h => FileSystem.not_verified_of_unreadable hunread h.2
    · intro content _ hread
      cases hunread.symm.trans hread
  | mismatched hp _ hs' hw hr ha =>
    rw [show plan.archiveRequest.sha256 = some expected from hs] at hs'
    cases hs'
    have hq := hw.fetched
    obtain ⟨content, hread, rfl⟩ := FileSystem.sha256_eq_ok.mp hr
    refine ⟨_, hw.calls_eq, .refused run hp hq ?_ (by simp) (fun _ => rfl) (fun _ _ _ => rfl)⟩
    exact fun h => FileSystem.not_verified_of_mismatch hread ha h.2
  | broken hp _ hw hv hu =>
    have hq := hw.fetched
    have hq' := hu.ran
    exact ⟨_, (hw.trans hu).calls_eq, .unpacked run hp hq (hv expected hs) hq' (by simp)⟩
  | stuck hp _ hw hv hu =>
    have hq := hw.fetched
    have hq' := hu.ran
    exact ⟨_, (hw.trans hu).calls_eq, .unpacked run hp hq (hv expected hs) hq' (by simp)⟩

/-- The archive phase succeeds with an archive that was there, or with one that it verified. -/
theorem handling_of_ok {status : ArchiveStatus} (hs : plan.sha256 = some expected)
    (hd : plan.dryRun = false)
    (run : plan.Passes A s (plan.packageStages (missingAmong plan.packages before)) before
      w₁.toSite)
    (course : plan.archiveRequest.Course A w₁ (.ok status) w₂) :
    ∃ calls, w₂.calls = w₁.calls ++ calls ∧
      ∀ (after : List Event) (r : Except Failure α) (fs : FileSystem),
        (∀ e ∈ after, e.request? = some (plan.request .build)) →
          plan.Handling A expected s (before ++ (calls ++ after)) r fs := by
  cases course with
  | present hp hw => exact ⟨[], hw.calls_eq, fun after r fs hafter => .present run hp hafter⟩
  | planned hp hdry hw =>
    rw [show plan.archiveRequest.dryRun = false from hd] at hdry
    cases hdry
  | downloaded hp _ hw hv hu =>
    have hq := hw.fetched
    have hq' := hu.ran
    exact ⟨_, (hw.trans hu).calls_eq, fun after r fs hafter =>
      .unpacked run hp hq (hv expected hs) hq' hafter⟩

end

theorem phases_handling {expected : String} (hs : plan.sha256 = some expected)
    (hd : plan.dryRun = false) (escalation : Escalation) (w : World σ) :
    ∃ calls, (plan.phases A escalation w).2.calls = w.calls ++ calls ∧
      plan.Handling A expected w.toSite calls (plan.phases A escalation w).1
        (plan.phases A escalation w).2.fs := by
  obtain ⟨before, hpackages, hlen⟩ := package_phase A plan w
  cases hx : ensurePackages A.toRunner plan.platform.profile w with
  | mk r w₁ =>
    rw [hx] at hpackages
    cases hpackages with
    | stopped log run =>
      rw [phases, Work.bind_of_error hx]
      exact ⟨before, log.calls_eq, .unreached run⟩
    | passed log run =>
      rw [phases, Work.bind_of_ok hx, archiveAndBuild]
      have course := plan.archiveRequest.ensure_course A w₁
      cases hy : plan.archiveRequest.ensure A w₁ with
      | mk r w₂ =>
        rw [hy] at course
        cases r with
        | error e =>
          obtain ⟨calls, hcalls, handling⟩ := handling_of_error hs hd run course
          rw [Work.bind_of_error hy]
          exact ⟨_, by rw [hcalls, log.calls_eq, List.append_assoc], handling⟩
        | ok status =>
          obtain ⟨calls, hcalls, handling⟩ := handling_of_ok hs hd run course
          rw [Work.bind_of_ok hy]
          obtain ⟨after, hafter, hbuild⟩ := build_calls A plan _ w₂
          exact ⟨_, by rw [hafter, hcalls, log.calls_eq, List.append_assoc, List.append_assoc],
            handling after _ _ hbuild⟩

theorem request_of_package {missing : List String} {g : Stage}
    (hg : g ∈ plan.packageStages missing) :
    plan.request g ≠ plan.request .unzip ∧ ∀ url target, plan.request g ≠ .fetch url target := by
  have manager : ∀ missing, (plan.platform.profile.installing missing).program ≠ "unzip" := by
    intro missing
    cases plan.platform <;> simp [PlatformProfile.installing, Platform.profile,
      PlatformProfile.debian, PlatformProfile.rhel]
  have lists : ∀ c, plan.platform.profile.refresh = some c → c.program ≠ "unzip" := by
    intro c hc
    cases hp : plan.platform with
    | debian =>
      rw [hp] at hc
      cases hc
      simp
    | rhel =>
      rw [hp] at hc
      cases hc
  unfold packageStages installStages at hg
  rcases List.mem_append.mp hg with hg | hg
  · obtain ⟨package, _, rfl⟩ := List.mem_map.mp hg
    simp [request]
  · split at hg
    · cases hg
    · rcases List.mem_append.mp hg with hg | hg
      · obtain ⟨c, hc, rfl⟩ := List.mem_map.mp hg
        refine ⟨fun heq => lists c (Option.mem_toList.mp hc) ?_, by simp [request]⟩
        simp only [request, Request.run.injEq] at heq
        rw [heq]
        rfl
      · cases List.mem_singleton.mp hg
        refine ⟨fun heq => manager missing ?_, by simp [request]⟩
        simp only [request, Request.run.injEq] at heq
        rw [heq]
        rfl

theorem event_of_package {missing : List String} {e : Event}
    (he : ∃ g ∈ plan.packageStages missing, e.request? = some (plan.request g)) :
    e.request? ≠ some (plan.request .unzip) ∧
      ∀ url target, e.request? ≠ some (.fetch url target) := by
  obtain ⟨g, hg, heq⟩ := he
  obtain ⟨hunzip, hfetch⟩ := request_of_package hg
  rw [heq]
  exact ⟨fun h => hunzip (Option.some.inj h),
    fun url target h => hfetch url target (Option.some.inj h)⟩

end BootstrapPlan

/-- A list is split in one way at the only element with a property. -/
theorem split_unique {β : Type} {P : β → Prop} {before after before' after' : List β} {x y : β}
    (h : before ++ x :: after = before' ++ y :: after') (hbefore : ∀ z ∈ before, ¬ P z)
    (hafter : ∀ z ∈ after, ¬ P z) (hy : P y) : before' = before ∧ y = x ∧ after' = after := by
  induction before generalizing before' with
  | nil =>
    cases before' with
    | nil =>
      simp only [List.nil_append, List.cons.injEq] at h
      exact ⟨rfl, h.1.symm, h.2.symm⟩
    | cons z before' =>
      simp only [List.nil_append, List.cons_append, List.cons.injEq] at h
      exact absurd hy (hafter y (by rw [h.2]; simp))
  | cons z before ih =>
    cases before' with
    | nil =>
      simp only [List.cons_append, List.nil_append, List.cons.injEq] at h
      exact absurd (h.1 ▸ hy) (hbefore z List.mem_cons_self)
    | cons z' before' =>
      simp only [List.cons_append, List.cons.injEq] at h
      obtain ⟨hb, hx, ha⟩ := ih h.2 fun z hz => hbefore z (List.mem_cons_of_mem _ hz)
      exact ⟨by rw [hb, h.1], hx, ha⟩

namespace BootstrapPlan

variable {A : Agents σ} {plan : BootstrapPlan}

/-- What a checksum guarantees of a run's calls, its result and the files that it leaves. -/
structure Gated (A : Agents σ) (plan : BootstrapPlan) (expected : String) (s : Site σ)
    (calls : List Event) (result : Except Failure α) (fs : FileSystem) : Prop where
  /-- The archive is unpacked right after a fetch that succeeded, and only if it was not there and
  the zip was verified. -/
  verified : ∀ {before after : List Event} {e : Event},
    calls = before ++ e :: after → e.request? = some (plan.request .unzip) →
    ∃ earlier, before = earlier ++ [.fetched plan.url plan.archiveZip (.ok ())] ∧
      (A.after s earlier).fs.has plan.archiveDir = false ∧
      (A.after s before).fs.Verified plan.archiveZip expected
  /-- A run that is done with its packages and finds no archive goes on with a fetch. -/
  fetched : ∀ {stages : List Stage} {before : List Event},
    stages = plan.packageStages (missingAmong plan.packages calls) →
    before = calls.take stages.length →
    before.map Event.request? = stages.map (some ∘ plan.request) →
    (∀ e ∈ before, e.hasFailed = false) → (A.after s before).fs.has plan.archiveDir = false →
    ∃ r after, calls = before ++ .fetched plan.url plan.archiveZip r :: after
  /-- Unless the zip was fetched and verified the fetch is the last call, and the run fails: with
  what the fetcher failed with, if it did, and otherwise with a download error. The fetcher of the
  web fails with nothing else. A zip with another digest is gone. -/
  refused : ∀ {before after : List Event} {r : Except Fault Unit} {fetched : FileSystem},
    calls = before ++ .fetched plan.url plan.archiveZip r :: after →
    fetched = (A.after s (before ++ [.fetched plan.url plan.archiveZip r])).fs →
    ¬ (r = .ok () ∧ fetched.Verified plan.archiveZip expected) →
    after = [] ∧ ∃ e, result = .error e ∧
      (∀ f, r = .error f → e = .ofFault f) ∧
      (A.toFetcher.FailsAsDownload → e.code = "DOWNLOAD") ∧
      ∀ content, r = .ok () → fetched.read plan.archiveZip = .ok content →
        fs.hasFile plan.archiveZip = false

namespace Handling

variable {expected : String} {s : Site σ} {calls : List Event} {result : Except Failure α}
  {fs : FileSystem}

theorem verified_before_unzip (h : plan.Handling A expected s calls result fs)
    (hbuild : plan.request .build ≠ plan.request .unzip) {before after : List Event} {e : Event}
    (hcalls : calls = before ++ e :: after) (hreq : e.request? = some (plan.request .unzip)) :
    ∃ earlier, before = earlier ++ [.fetched plan.url plan.archiveZip (.ok ())] ∧
      (A.after s earlier).fs.has plan.archiveDir = false ∧
      (A.after s before).fs.Verified plan.archiveZip expected := by
  have builds {after : List Event} (hafter : ∀ e ∈ after, e.request? = some (plan.request .build)) :
      ∀ e ∈ after, e.request? ≠ some (plan.request .unzip) := by
    intro e he
    rw [hafter e he]
    exact fun h => hbuild (Option.some.inj h)
  have hmem : e ∈ calls := by
    rw [hcalls]
    simp
  cases h with
  | unreached run => exact absurd hreq (event_of_package (run.exists_stage hmem)).1
  | present run _ hafter =>
    rcases List.mem_append.mp hmem with hm | hm
    · exact absurd hreq (event_of_package (run.exists_stage hm)).1
    · exact absurd hreq (builds hafter _ hm)
  | refused run =>
    rcases List.mem_append.mp hmem with hm | hm
    · exact absurd hreq (event_of_package (run.exists_stage hm)).1
    · rw [List.mem_singleton.mp hm] at hreq
      cases hreq
  | @unpacked earlier after t u v e _ _ run hp hq hv hu hafter =>
    have hserved := run.served (plan.unzip_not_mem_packageStages _)
    have hfront : ∀ e ∈ earlier ++ [.fetched plan.url plan.archiveZip (.ok ())],
        e.request? ≠ some (plan.request .unzip) := by
      intro e he
      rcases List.mem_append.mp he with he | he
      · exact (event_of_package (run.exists_stage he)).1
      · rw [List.mem_singleton.mp he]
        simp [Event.request?, request]
    rw [← List.singleton_append, ← List.append_assoc] at hcalls
    obtain ⟨hb, -, -⟩ := split_unique (P := fun e => e.request? = some (plan.request .unzip))
      hcalls hfront (builds hafter) hreq
    refine ⟨earlier, hb, ?_, ?_⟩
    · rw [hserved.after]
      exact hp
    · rw [hb, (hserved.append (.single hq)).after]
      exact hv

theorem fetches_when_absent (h : plan.Handling A expected s calls result fs) {stages : List Stage}
    {before : List Event}
    (hstages : stages = plan.packageStages (missingAmong plan.packages calls))
    (hbefore : before = calls.take stages.length)
    (hdone : before.map Event.request? = stages.map (some ∘ plan.request))
    (hfailed : ∀ e ∈ before, e.hasFailed = false)
    (habsent : (A.after s before).fs.has plan.archiveDir = false) :
    ∃ r after, calls = before ++ .fetched plan.url plan.archiveZip r :: after := by
  subst hstages
  cases h with
  | unreached run =>
    obtain ⟨e, he, h⟩ := run.exists_failed (plan.fetch_not_mem_packageStages _)
      (plan.unzip_not_mem_packageStages _)
    have hle := run.requests.length_le
    simp only [List.length_map] at hle
    rw [List.take_of_length_le hle] at hbefore
    rw [hfailed e (hbefore ▸ he)] at h
    cases h
  | present run hp _ =>
    rw [take_packageCalls run] at hbefore
    have hserved := run.served (plan.unzip_not_mem_packageStages _)
    rw [hbefore, hserved.after, hp] at habsent
    cases habsent
  | refused run =>
    rw [take_packageCalls run] at hbefore
    exact ⟨_, [], by rw [hbefore]⟩
  | unpacked run =>
    rw [take_packageCalls run] at hbefore
    exact ⟨_, _, by rw [hbefore]⟩

theorem refusal_ends (h : plan.Handling A expected s calls result fs)
    (hzip : plan.archiveZip.isAbsolute = true) {before after : List Event}
    {r : Except Fault Unit} {left : FileSystem}
    (hcalls : calls = before ++ .fetched plan.url plan.archiveZip r :: after)
    (hleft : left = (A.after s (before ++ [.fetched plan.url plan.archiveZip r])).fs)
    (hbad : ¬ (r = .ok () ∧ left.Verified plan.archiveZip expected)) :
    after = [] ∧ ∃ e, result = .error e ∧
      (∀ f, r = .error f → e = .ofFault f) ∧
      (A.toFetcher.FailsAsDownload → e.code = "DOWNLOAD") ∧
      ∀ content, r = .ok () → left.read plan.archiveZip = .ok content →
        fs.hasFile plan.archiveZip = false := by
  -- a run fetches at most once, so its calls are split at the fetch in one way
  let P (e : Event) : Prop := ∃ url target, e.request? = some (.fetch url target)
  have hreq : P (.fetched plan.url plan.archiveZip r) := ⟨_, _, rfl⟩
  have package {missing : List String} {e : Event} (he : ∃ g ∈ plan.packageStages missing,
      e.request? = some (plan.request g)) : ¬ P e := by
    rintro ⟨url, target, hfetch⟩
    exact (event_of_package he).2 url target hfetch
  have hmem : .fetched plan.url plan.archiveZip r ∈ calls := by
    rw [hcalls]
    simp
  cases h with
  | unreached run => exact absurd hreq (package (run.exists_stage hmem))
  | present run _ hafter =>
    rcases List.mem_append.mp hmem with hm | hm
    · exact absurd hreq (package (run.exists_stage hm))
    · have := hafter _ hm
      simp [Event.request?, request] at this
  | refused run hp hq hbad' hfault hcode hgone =>
    have hserved := run.served (plan.unzip_not_mem_packageStages _)
    obtain ⟨rfl, hf, rfl⟩ := split_unique (P := P) hcalls
      (fun e he => package (run.exists_stage he)) (by simp) hreq
    cases hf
    rw [(hserved.append (.single hq)).after] at hleft
    refine ⟨rfl, _, rfl, hfault, hcode, fun content hok hread => ?_⟩
    subst hleft
    rw [hgone content hok hread]
    exact FileSystem.not_hasFile_dropFile hzip hread
  | @unpacked earlier later t u v e _ _ run hp hq hv hu hafter =>
    have hserved := run.served (plan.unzip_not_mem_packageStages _)
    have hlater : ∀ x ∈ e :: later, ¬ P x := by
      rintro x hx ⟨url, target, hfetch⟩
      rcases List.mem_cons.mp hx with rfl | hx
      · have hx := A.request_answer u (plan.request .unzip)
        rw [hu, hfetch] at hx
        simp [request] at hx
      · rw [hafter x hx] at hfetch
        simp [request] at hfetch
    obtain ⟨rfl, hf, -⟩ := split_unique (P := P) hcalls
      (fun e he => package (run.exists_stage he)) hlater hreq
    cases hf
    rw [(hserved.append (.single hq)).after] at hleft
    exact absurd ⟨rfl, hleft ▸ hv⟩ hbad

theorem gated (h : plan.Handling A expected s calls result fs)
    (hbuild : plan.request .build ≠ plan.request .unzip)
    (hzip : plan.archiveZip.isAbsolute = true) : plan.Gated A expected s calls result fs where
  verified := h.verified_before_unzip hbuild
  fetched := h.fetches_when_absent
  refused := h.refusal_ends hzip

end Handling

/-- What a result is made into does not matter. -/
theorem Gated.map {β : Type} {expected : String} {s : Site σ} {calls : List Event}
    {result : Except Failure α} {fs : FileSystem} (h : plan.Gated A expected s calls result fs)
    (f : α → β) : plan.Gated A expected s calls (result.map f) fs where
  verified := h.verified
  fetched := h.fetched
  refused := by
    intro before after r left hcalls hleft hbad
    obtain ⟨hafter, e, he, hrest⟩ := h.refused hcalls hleft hbad
    exact ⟨hafter, e, by rw [he]; rfl, hrest⟩

theorem packages_ne_nil (plan : BootstrapPlan) : plan.packages ≠ [] := by
  unfold packages
  cases plan.platform <;> simp [Platform.profile, PlatformProfile.debian, PlatformProfile.rhel]

/-- A run that hands over does not deal with the archive at all. -/
theorem gated_of_escalated {expected : String} {s : Site σ} {r : Except Failure Unit}
    {printed : Printed} (hne : .run plan.reinvoke ≠ plan.request .unzip)
    (result : Except Failure α) (fs : FileSystem) :
    plan.Gated A expected s [.ran plan.reinvoke r printed] result fs where
  verified := by
    intro before after e hcalls hreq
    have hmem : e ∈ [Event.ran plan.reinvoke r printed] := by
      rw [hcalls]
      simp
    rw [List.mem_singleton.mp hmem] at hreq
    exact absurd (Option.some.inj hreq) hne
  fetched := by
    intro stages before hstages hbefore hdone
    cases hp : plan.packages with
    | nil => exact absurd hp plan.packages_ne_nil
    | cons package rest =>
      rw [packageStages, hp] at hstages
      subst hstages hbefore
      simp [request, Event.request?] at hdone
  refused := by
    intro before after r' left hcalls
    have hmem : Event.fetched plan.url plan.archiveZip r' ∈
        [Event.ran plan.reinvoke r printed] := by
      rw [hcalls]
      simp
    cases List.mem_singleton.mp hmem

theorem run_gated (A : Agents σ) (plan : BootstrapPlan) {expected : String}
    (hs : plan.sha256 = some expected) (hd : plan.dryRun = false)
    (hbuild : plan.request .build ≠ plan.request .unzip)
    (hreinvoke : .run plan.reinvoke ≠ plan.request .unzip)
    (hzip : plan.archiveZip.isAbsolute = true) (privilege : Privilege) (w : World σ) :
    ∃ calls, (plan.run A privilege w).2.calls = w.calls ++ calls ∧
      plan.Gated A expected w.toSite calls (plan.run A privilege w).1
        (plan.run A privilege w).2.fs := by
  by_cases hr : privilege.decide = .reinvoke
  · obtain ⟨r, printed, hw, -⟩ := run_escalated A hr hd w
    exact ⟨_, hw.calls_eq, gated_of_escalated hreinvoke _ _⟩
  · obtain ⟨hresult, hworld⟩ := run_performed A plan (fun h => absurd h hr) w
    obtain ⟨w₀, prepared, hperform⟩ := perform_prepared A plan privilege.decide w
    obtain ⟨calls, hcalls, handling⟩ := phases_handling (A := A) hs hd privilege.decide w₀
    rw [prepared.calls_eq] at hcalls
    rw [prepared.site_eq] at handling
    rw [hresult, hworld, hperform]
    exact ⟨calls, hcalls, (handling.gated hbuild hzip).map _⟩

/-- Every fetch is of the plan's address and goes to the plan's zip, dry run or not. -/
theorem run_fetches (A : Agents σ) (plan : BootstrapPlan) (privilege : Privilege) (w : World σ) :
    ∃ calls, (plan.run A privilege w).2.calls = w.calls ++ calls ∧
      ∀ url target r, .fetched url target r ∈ calls →
        url = plan.url ∧ target = plan.archiveZip := by
  obtain ⟨calls, hcalls, asked⟩ := run_asks A plan privilege w
  refine ⟨calls, hcalls, fun url target r hmem => ?_⟩
  rcases asked _ hmem with hreq | ⟨g, -, hreq⟩
  · cases hreq
  · cases g with
    | fetch =>
      simp only [Event.request?, request, Option.some.injEq, Request.fetch.injEq] at hreq
      exact hreq
    | _ => simp [Event.request?, request] at hreq

end BootstrapPlan

theorem noteMarkers_continues (A : Agents σ) (hostRoot : Path) (platforms : List Platform)
    (w : World σ) :
    ∃ w', noteMarkers hostRoot platforms w = (.ok (), w') ∧ w.Continues A [] [] w' := by
  induction platforms generalizing w with
  | nil => exact ⟨w, rfl, .refl A w⟩
  | cons platform rest ih =>
    let fields := [("marker", (platform.markerUnder hostRoot).text)]
    let w₁ := (Work.note .platform .debug "checking distro marker" fields w).2
    obtain ⟨w', hrest, hw⟩ := ih w₁
    have hnote : Work.note .platform .debug "checking distro marker" fields w = (.ok (), w₁) := rfl
    refine ⟨w', ?_, (Work.continues_note A w _ _ _ _).trans hw⟩
    rw [noteMarkers, Work.bind_of_ok hnote]
    exact hrest

theorem findPlatform?_continues (A : Agents σ) (hostRoot : Path) (w : World σ) :
    ∃ w', w.Continues A [] [] w' ∧
      findPlatform? hostRoot w = (.ok (Platform.detect? w.fs hostRoot), w') := by
  obtain ⟨w', hnotes, hw⟩ := noteMarkers_continues A hostRoot (Platform.checked w.fs hostRoot) w
  have hsite : w.toSite = w'.toSite := hw.after
  have hchecked : Work.ask (Platform.checked · hostRoot) w =
    (.ok (Platform.checked w.fs hostRoot), w) := rfl
  refine ⟨w', hw, ?_⟩
  rw [findPlatform?, Work.bind_of_ok hchecked, Work.bind_of_ok hnotes, Work.ask, hsite]

theorem findPlatform_continues (A : Agents σ) (hostRoot : Path) (w : World σ) :
    ∃ w', w.Continues A [] [] w' ∧ findPlatform hostRoot w =
      (match Platform.detect? w.fs hostRoot with
        | some platform => .ok platform
        | none => .error (.ofFault (.unsupportedHost hostRoot)), w') := by
  obtain ⟨w', hw, hfound⟩ := findPlatform?_continues A hostRoot w
  refine ⟨w', hw, ?_⟩
  rw [findPlatform, Work.bind_of_ok hfound]
  cases Platform.detect? w.fs hostRoot <;> rfl

namespace Tool

variable {A : Agents σ} {s : Surroundings} {hostRoot : Path} {l : Layout} {c : Config}
  {variant : Option Variant} {dryRun : Bool} {w : World σ}

theorem build_ne_unzip (s : Surroundings) (l : Layout) (c : Config) (platform : Platform)
    (variant : Option Variant) (dryRun : Bool) :
    (buildPlan s l c platform variant dryRun).request .build ≠
      (buildPlan s l c platform variant dryRun).request .unzip := by
  intro h
  simp only [BootstrapPlan.request, Request.run.injEq] at h
  have hcwd := congrArg Command.cwd h
  cases hcwd

theorem reinvoke_ne_unzip (s : Surroundings) (l : Layout) (c : Config) (platform : Platform)
    (variant : Option Variant) (dryRun : Bool) :
    .run (buildPlan s l c platform variant dryRun).reinvoke ≠
      (buildPlan s l c platform variant dryRun).request .unzip := by
  intro h
  have henv := congrArg Command.env (Request.run.inj h)
  rw [show (buildPlan s l c platform variant dryRun).reinvoke.env = _ from
    env_reinvocation _ _ _] at henv
  cases henv

/-- A build on an unsupported host asks nothing; on any other it is the run of its plan. -/
theorem build_cases (A : Agents σ) (s : Surroundings) (hostRoot : Path) (l : Layout) (c : Config)
    (variant : Option Variant) (dryRun : Bool) (w : World σ) :
    ∃ w₀, w.Continues A [] [] w₀ ∧
      match Platform.detect? w.fs hostRoot with
      | none => build A s hostRoot l c variant dryRun w =
          (.error (.ofFault (.unsupportedHost hostRoot)), w₀)
      | some platform => build A s hostRoot l c variant dryRun w =
          (((buildPlan s l c platform variant dryRun).run A s.privilege w₀).1.map .ofOutcome,
            ((buildPlan s l c platform variant dryRun).run A s.privilege w₀).2) := by
  obtain ⟨w₀, hw, hfind⟩ := findPlatform_continues A hostRoot w
  refine ⟨w₀, hw, ?_⟩
  cases hd : Platform.detect? w.fs hostRoot with
  | none =>
    rw [hd] at hfind
    rw [build, Work.bind_of_error hfind]
  | some platform =>
    rw [hd] at hfind
    dsimp only
    rw [build, Work.bind_of_ok hfind]
    cases hr : (buildPlan s l c platform variant dryRun).run A s.privilege w₀ with
    | mk r w' =>
      cases r with
      | error e =>
        rw [Work.bind_of_error hr]
        rfl
      | ok o =>
        rw [Work.bind_of_ok hr]
        rfl

/-- The checksum gate of a build. All that is ever fetched is the address of the wanted variant, and
when that variant has a checksum a real build is gated by it. -/
theorem build_gated (A : Agents σ) (s : Surroundings) (hostRoot : Path) (l : Layout) (c : Config)
    (variant : Option Variant) (dryRun : Bool) (w : World σ) {fs : FileSystem} {root : Path}
    (hl : Layout.resolve fs root = .ok l) :
    let v := variant.getD c.archive.variant
    let result := build A s hostRoot l c variant dryRun w
    (∃ calls, result.2.calls = w.calls ++ calls ∧
      (∀ url target r, .fetched url target r ∈ calls →
        (v = .cpu → url = c.archive.cpuUrl) ∧ (v = .cuda → url = c.archive.cudaUrl) ∧
          target = l.archiveZip c) ∧
      ∀ expected, (v = .cpu → c.archive.cpuSha256 = some expected) →
        (v = .cuda → c.archive.cudaSha256 = some expected) → dryRun = false →
        match Platform.detect? w.fs hostRoot with
        | none => calls = []
        | some platform =>
          let plan := buildPlan s l c platform variant dryRun
          plan.archiveDir = l.archiveDir c ∧ plan.archiveZip = l.archiveZip c ∧
            plan.Gated A expected w.toSite calls result.1 result.2.fs) ∧
    ∀ network : Network, (Fetcher.web network : Fetcher σ).FailsAsDownload := by
  intro v result
  obtain ⟨w₀, hw, hbuild⟩ := build_cases A s hostRoot l c variant dryRun w
  have hsite : w.toSite = w₀.toSite := hw.after
  have hcalls₀ : w₀.calls = w.calls := by rw [hw.calls_eq, List.append_nil]
  refine ⟨?_, Fetcher.web_failsAsDownload⟩
  cases hd : Platform.detect? w.fs hostRoot with
  | none =>
    rw [hd] at hbuild
    refine ⟨[], ?_, by simp, fun _ _ _ _ => rfl⟩
    rw [show result = _ from hbuild, List.append_nil]
    exact hcalls₀
  | some platform =>
    rw [hd] at hbuild
    let plan := buildPlan s l c platform variant dryRun
    obtain ⟨calls, hcalls, hfetches⟩ := BootstrapPlan.run_fetches A plan s.privilege w₀
    rw [show result = _ from hbuild]
    refine ⟨calls, by rw [hcalls, hcalls₀], fun url target r hmem => ?_,
      fun expected hcpu hcuda hdry => ⟨rfl, rfl, ?_⟩⟩
    · obtain ⟨hurl, htarget⟩ := hfetches url target r hmem
      exact ⟨fun hv => hurl.trans (congrArg c.archive.url hv),
        fun hv => hurl.trans (congrArg c.archive.url hv), htarget⟩
    have hs : plan.sha256 = some expected := ArchiveConfig.sha256_of_variant hcpu hcuda
    have hzip : plan.archiveZip.isAbsolute = true :=
      Layout.isAbsolute_archiveZip c (Layout.isAbsolute_root hl)
    obtain ⟨calls', hcalls', gated⟩ :=
      BootstrapPlan.run_gated A plan hs hdry (build_ne_unzip s l c platform variant dryRun)
        (reinvoke_ne_unzip s l c platform variant dryRun) hzip s.privilege w₀
    rw [hcalls] at hcalls'
    cases List.append_cancel_left hcalls'
    rw [hsite]
    exact gated.map Reply.ofOutcome

def emptyWorkspace : World Script where
  fs := {
    entries := [(["w"], .directory), (["etc"], .directory),
      (["etc", "debian_version"], .file .empty false)] }
  agent := {}

def asRoot : Surroundings where
  isRoot := true
  executable := ⟨"/usr/bin/bastion-dev"⟩

def withDigest (digest : String) : Config where
  archive := { cpuSha256 := some digest }

/-- A build whose download is an empty file. -/
def emptyDownload (digest : String) : Except Failure Reply × World Script :=
  build (.scripted .empty) asRoot ⟨"/"⟩ ⟨⟨"/w"⟩⟩ (withDigest digest) none false emptyWorkspace

/-- No file has a digest of two digits, so the download is refused and the zip is gone; the digest of
the empty file is known, in capitals and with blanks around it too, and the zip is unpacked. -/
theorem refused_and_unpacked :
    let known := " E3B0C44298FC1C149AFBF4C8996FB92427AE41E4649B934CA495991B7852B855 "
    let plan (digest : String) :=
      buildPlan asRoot ⟨⟨"/w"⟩⟩ (withDigest digest) .debian none false
    let gated (digest : String) : Prop :=
      ∃ calls, (emptyDownload digest).2.calls = emptyWorkspace.calls ++ calls ∧
        (plan digest).Gated (.scripted .empty) digest emptyWorkspace.toSite calls
          (emptyDownload digest).1 (emptyDownload digest).2.fs
    Layout.resolve emptyWorkspace.fs ⟨"/w"⟩ = .ok ⟨⟨"/w"⟩⟩ ∧ gated "00" ∧ gated known ∧
      (emptyDownload "00").2.commands.contains (plan "00").unpacking = false ∧
      (emptyDownload "00").2.fs.hasFile ⟨"/w/libtorch.zip"⟩ = false ∧
      (emptyDownload known).2.commands.contains (plan known).unpacking = true := by
  intro known plan gated
  have hl : Layout.resolve emptyWorkspace.fs ⟨"/w"⟩ = .ok ⟨⟨"/w"⟩⟩ := by decide +kernel
  have hplatform : Platform.detect? emptyWorkspace.fs ⟨"/"⟩ = some .debian := by decide +kernel
  have hgated (digest : String) : gated digest := by
    obtain ⟨⟨calls, hcalls, -, gate⟩, -⟩ :=
      build_gated (.scripted .empty) asRoot ⟨"/"⟩ ⟨⟨"/w"⟩⟩ (withDigest digest) none false
        emptyWorkspace hl
    have h := gate digest (fun _ => rfl) nofun rfl
    rw [hplatform] at h
    refine ⟨calls, ?_⟩
    unfold emptyDownload
    exact ⟨hcalls, h.2.2⟩
  exact ⟨hl, hgated "00", hgated known, by decide +kernel, by decide +kernel, by decide +kernel⟩

end Tool
end Provision
