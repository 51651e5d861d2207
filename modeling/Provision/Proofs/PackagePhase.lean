import Provision.Proofs.Stages

namespace Provision

variable {σ : Type}

/-- Calls behind the probes do not count. -/
theorem missingAmong_append {packages : List String} {before : List Event} (calls : List Event)
    (h : packages.length ≤ before.length) :
    missingAmong packages (before ++ calls) = missingAmong packages before := by
  induction packages generalizing before with
  | nil => rfl
  | cons package rest ih =>
    cases before with
    | nil => simp at h
    | cons e before =>
      have hl : rest.length ≤ before.length := by simpa using h
      cases e with
      | probed c installed =>
        rw [List.cons_append, missingAmong, missingAmong, ih hl]
      | _ => rfl

/-- Installs packages, with fresh lists where the manager keeps any. -/
def installPackages (R : Runner σ) (profile : PlatformProfile) (missing : List String) :
    Work σ (List String) := do
  match profile.refresh with
  | some refresh => runManager R profile refresh
  | none => pure ()
  runManager R profile (profile.installOf missing)
  pure missing

def settlePackages (R : Runner σ) (profile : PlatformProfile) (missing : List String) :
    Work σ (List String) :=
  if missing.isEmpty then do
    Work.note .packages .info "all packages already installed"
      [("manager", Log.quoted profile.manager)]
    pure missing
  else do
    Work.note .packages .info "installing missing packages"
      [("manager", Log.quoted profile.manager), ("packages", String.intercalate " " missing)]
    installPackages R profile missing

theorem ensurePackages_eq (R : Runner σ) (profile : PlatformProfile) :
    ensurePackages R profile =
      missingPackages R profile profile.packages >>= settlePackages R profile := by
  rfl

namespace BootstrapPlan

variable {A : Agents σ} {plan : BootstrapPlan}

/-- Probing never fails, and its result is what the answers say. -/
theorem probe_phase (A : Agents σ) (plan : BootstrapPlan) (packages : List String) (w : World σ) :
    ∃ calls w', missingPackages A.toRunner plan.platform.profile packages w =
        (.ok (missingAmong packages calls), w') ∧
      w.Logged calls [] w' ∧ calls.filterMap Event.command? = [] ∧
      plan.Passes A w.toSite (packages.map .probe) calls w'.toSite := by
  induction packages generalizing w with
  | nil => exact ⟨[], w, rfl, .refl w, rfl, .nothing _⟩
  | cons package rest ih =>
    let c := plan.platform.profile.probeOf package
    let installed := (A.probe c w.toSite).1
    have first := Work.continues_probe A w c
    obtain ⟨calls, w', hrest, log, hnone, run⟩ := ih (Work.probe A.toRunner c w).2
    refine ⟨.probed c installed :: calls, w', ?_, first.toLogged.trans log, ?_, ?_⟩
    · have hprobe : Work.probe A.toRunner c w =
          (.ok installed, (Work.probe A.toRunner c w).2) := rfl
      rw [missingPackages, Work.bind_of_ok hprobe, Work.bind_of_ok hrest]
      rfl
    · rw [List.filterMap_cons_none rfl, hnone]
    · have hq : A.answer w.toSite (plan.request (.probe package)) =
          (.probed c installed, (Work.probe A.toRunner c w).2.toSite) := rfl
      exact .stage hq (not_fails rfl (by simp) (by simp)) run

theorem manager_phase (A : Agents σ) {g : Stage} {c : Command} (hg : plan.request g = .run c)
    (hfetch : g ≠ .fetch) (hunzip : g ≠ .unzip) (w : World σ) :
    ∃ calls, Phase A plan w [g] calls (runManager A.toRunner plan.platform.profile c w).1
      (runManager A.toRunner plan.platform.profile c w).2 := by
  let w₁ := (Work.enter c w).2
  have hw : Work.run A.toRunner c w₁ =
    ((A.run c w.toSite).1.1, (Work.run A.toRunner c w₁).2) := rfl
  have hrun : runManager A.toRunner plan.platform.profile c w =
      ((A.run c w.toSite).1.1.mapError (asInstallFailure plan.platform.profile),
        (Work.run A.toRunner c w₁).2) :=
    Work.mapFailure_apply hw _
  rw [hrun]
  refine ⟨_, .command w hg hfetch hunzip ?_ ?_⟩
  · intro a ha
    cases hr : (A.run c w.toSite).1.1 with
    | ok u => rfl
    | error e =>
      rw [hr] at ha
      cases ha
  · intro e he
    cases hr : (A.run c w.toSite).1.1 with
    | ok u =>
      rw [hr] at he
      cases he
    | error e' => exact ⟨e', rfl⟩

theorem install_phase (A : Agents σ) (plan : BootstrapPlan) (missing : List String) (w : World σ) :
    let x : Work σ (List String) := do
      runManager A.toRunner plan.platform.profile (plan.platform.profile.installOf missing)
      pure missing
    ∃ calls, Phase A plan w [.install missing] calls (x w).1 (x w).2 := by
  have hg : plan.request (.install missing) = .run (plan.platform.profile.installOf missing) := rfl
  obtain ⟨before, h⟩ := manager_phase A hg (by simp) (by simp) w
  obtain ⟨calls, h⟩ := h.andThen (f := fun _ => pure missing) fun _ _ =>
    ⟨[], .nothing A plan _ missing⟩
  exact ⟨_, h⟩

theorem settle_phase (A : Agents σ) (plan : BootstrapPlan) (missing : List String) (w : World σ) :
    ∃ calls, Phase A plan w (plan.installStages missing) calls
      (settlePackages A.toRunner plan.platform.profile missing w).1
      (settlePackages A.toRunner plan.platform.profile missing w).2 := by
  cases missing with
  | nil =>
    exact ⟨[], .after_noted (Work.continues_note A w .packages .info _ _) (.nothing A plan _ [])⟩
  | cons package rest =>
    suffices h : ∀ w : World σ, ∃ calls, Phase A plan w (plan.installStages (package :: rest)) calls
        (installPackages A.toRunner plan.platform.profile (package :: rest) w).1
        (installPackages A.toRunner plan.platform.profile (package :: rest) w).2 by
      obtain ⟨calls, h⟩ := h _
      exact ⟨calls, .after_noted (Work.continues_note A w .packages .info _ _) h⟩
    intro w
    rw [installStages, if_neg (by simp), installPackages]
    cases hr : plan.platform.profile.refresh with
    | none => exact install_phase A plan _ w
    | some refresh =>
      have hg : plan.request (.refresh refresh) = .run refresh := rfl
      obtain ⟨before, h⟩ := manager_phase A hg (by simp) (by simp) w
      obtain ⟨calls, h⟩ := h.andThen fun _ _ => install_phase A plan (package :: rest) _
      exact ⟨_, h⟩

theorem package_phase (A : Agents σ) (plan : BootstrapPlan) (w : World σ) :
    ∃ calls, Phase A plan w (plan.packageStages (missingAmong plan.packages calls)) calls
        (ensurePackages A.toRunner plan.platform.profile w).1
        (ensurePackages A.toRunner plan.platform.profile w).2 ∧
      plan.packages.length ≤ calls.length := by
  obtain ⟨probes, w₁, hprobe, log, hnone, run⟩ := probe_phase A plan plan.packages w
  have hlen : probes.length = plan.packages.length := by simpa using run.length_eq
  have probing : Phase A plan w (plan.packages.map .probe) probes
      (missingPackages A.toRunner plan.platform.profile plan.packages w).1
      (missingPackages A.toRunner plan.platform.profile plan.packages w).2 := by
    rw [hprobe]
    exact .passed (hnone ▸ log) run
  obtain ⟨calls, h⟩ := probing.andThen
    (f := settlePackages A.toRunner plan.platform.profile) <| by
    intro missing hmissing
    rw [hprobe] at hmissing
    cases hmissing
    exact settle_phase A plan (missingAmong plan.packages probes) _
  refine ⟨probes ++ calls, ?_, by rw [List.length_append, hlen]; omega⟩
  rw [missingAmong_append calls (Nat.le_of_eq hlen.symm), ensurePackages_eq]
  exact h

end BootstrapPlan
end Provision
