import Provision.Proofs.ChildFailure

namespace Provision

variable {σ : Type} {A : Agents σ} {profile : PlatformProfile} {w : World σ}

open StubRequest (InTurn)

namespace PlatformProfile

def survey (profile : PlatformProfile) (packages : List String) (answers : List Bool) :
    List Event :=
  List.zipWith (fun package installed => .probed (profile.asking package) installed) packages
    answers

/-- The commands that install packages: the lists are renewed first where there is a command for
that. -/
def installation (profile : PlatformProfile) (packages : List String) : List Command :=
  profile.refresh.toList ++ [profile.installing packages]

end PlatformProfile

def refusedOf (packages : List String) (answers : List Bool) : List String :=
  ((packages.zip answers).filter (fun asked => !asked.2)).map Prod.fst

theorem refusedOf_cons (package : String) (packages : List String) (installed : Bool)
    (answers : List Bool) : refusedOf (package :: packages) (installed :: answers) =
      if installed then refusedOf packages answers else package :: refusedOf packages answers := by
  cases installed <;> simp [refusedOf]

theorem missingPackages_surveys (A : Agents σ) (profile : PlatformProfile) (packages : List String)
    (w : World σ) : ∃ answers w', answers.length = packages.length ∧
      missingPackages A.toRunner profile packages w = (.ok (refusedOf packages answers), w') ∧
      w.Continues A (profile.survey packages answers) [] w' := by
  induction packages generalizing w with
  | nil => exact ⟨[], w, rfl, rfl, .refl A w⟩
  | cons package packages ih =>
    let c := profile.probeOf package
    let w₁ := (Work.probe A.toRunner c w).2
    have hprobe : Work.probe A.toRunner c w = (.ok (A.probe c w.toSite).1, w₁) := rfl
    have first := Work.continues_probe A w c
    obtain ⟨answers, w', hlen, hmissing, rest⟩ := ih w₁
    refine ⟨(A.probe c w.toSite).1 :: answers, w', by simp [hlen], ?_, first.trans rest⟩
    rw [missingPackages, Work.bind_of_ok hprobe, Work.bind_of_ok hmissing, refusedOf_cons]
    rfl

def runManagers (R : Runner σ) (profile : PlatformProfile) : List Command → Work σ Unit
  | [] => pure ()
  | c :: rest => do
    runManager R profile c
    runManagers R profile rest

theorem installPackages_eq (R : Runner σ) (profile : PlatformProfile) (missing : List String) :
    installPackages R profile missing =
      (runManagers R profile (profile.installation missing) >>= fun _ => pure missing) := by
  funext w
  unfold installPackages PlatformProfile.installation
  rw [PlatformProfile.installOf_eq]
  cases profile.refresh with
  | none =>
    simp only [Option.toList_none, List.nil_append, runManagers, Work.bind_apply, Work.pure_apply]
    cases runManager R profile (profile.installing missing) w with
    | mk r w₁ => cases r <;> rfl
  | some refresh =>
    simp only [Option.toList_some, List.singleton_append, runManagers, Work.bind_apply,
      Work.pure_apply]
    cases runManager R profile refresh w with
    | mk r w₁ =>
      cases r with
      | error e => rfl
      | ok u =>
        dsimp only
        cases runManager R profile (profile.installing missing) w₁ with
        | mk r w₂ => cases r <;> rfl

/-- A command of the manager is entered as a step and run, and a failure is reported as one of the
installation. -/
theorem runManager_runs (A : Agents σ) (profile : PlatformProfile) (c : Command) (w : World σ) :
    (runManager A.toRunner profile c w).1 =
        (A.run c w.toSite).1.1.mapError (asInstallFailure profile) ∧
      w.Continues A [.ran c (A.run c w.toSite).1.1 (A.run c w.toSite).1.2] [c]
        (runManager A.toRunner profile c w).2 := by
  let w₁ := (Work.enter c w).2
  have hrun : Work.run A.toRunner c w₁ =
      ((A.run c w.toSite).1.1, (Work.run A.toRunner c w₁).2) := rfl
  have hmanager : runManager A.toRunner profile c w =
      ((A.run c w.toSite).1.1.mapError (asInstallFailure profile),
        (Work.run A.toRunner c w₁).2) :=
    Work.mapFailure_apply hrun _
  rw [hmanager]
  exact ⟨rfl, (Work.continues_enter A w c).trans (Work.continues_run A w₁ c)⟩

/-- The manager's commands are run in turn, and the steps are those that were. -/
theorem runManagers_inTurn (A : Agents σ) (profile : PlatformProfile) (commands : List Command)
    (w : World σ) :
    ∃ calls r, InTurn commands () calls r ∧
      (runManagers A.toRunner profile commands w).1 = r.mapError (asInstallFailure profile) ∧
      w.Continues A calls (calls.filterMap Event.command?)
        (runManagers A.toRunner profile commands w).2 := by
  induction commands generalizing w with
  | nil => exact ⟨[], .ok (), .through rfl (by simp), rfl, .refl A w⟩
  | cons c commands ih =>
    obtain ⟨hresult, first⟩ := runManager_runs A profile c w
    cases hm : runManager A.toRunner profile c w with
    | mk r w₁ =>
      rw [hm] at hresult first
      cases hr : (A.run c w.toSite).1.1 with
      | error e =>
        rw [hr] at hresult first
        obtain rfl : r = .error (asInstallFailure profile e) := hresult
        have failed : InTurn (c :: commands) () ([] ++ [.ran c (.error e) (A.run c w.toSite).1.2])
            (.error e) := .upTo [] rfl rfl (by simp)
        refine ⟨_, .error e, failed, ?_, ?_⟩
        · rw [runManagers, Work.bind_of_error hm]
          rfl
        · rw [runManagers, Work.bind_of_error hm]
          exact first
      | ok u =>
        rw [hr] at hresult first
        obtain rfl : r = .ok u := hresult
        obtain ⟨calls, r, inTurn, hrest, rest⟩ := ih w₁
        refine ⟨.ran c (.ok u) (A.run c w.toSite).1.2 :: calls, r, inTurn.cons, ?_, ?_⟩
        · rw [runManagers, Work.bind_of_ok hm]
          exact hrest
        · rw [runManagers, Work.bind_of_ok hm]
          exact first.trans rest

/-- How the end of the manager's commands is reported: the status of a command that failed is that
of the installation, and any other failure stays what it is. -/
structure PlatformProfile.Reports (profile : PlatformProfile)
    (r result : Except Failure (List String)) : Prop where
  done : ∀ missing, r = .ok missing → result = .ok missing
  child : ∀ e program status, r = .error e → e.fault? = some (.childFailed program status) →
    result = .error (.ofFault (.packageInstall profile.manager status))
  other : ∀ e, r = .error e → (∀ program status, e.fault? ≠ some (.childFailed program status)) →
    result = .error e

theorem reports_mapError (profile : PlatformProfile) (r : Except Failure (List String)) :
    profile.Reports r (r.mapError (asInstallFailure profile)) where
  done := by
    rintro missing rfl
    rfl
  child := by
    rintro e program status rfl h
    exact congrArg Except.error (asInstallFailure_child profile h)
  other := by
    rintro e rfl h
    exact congrArg Except.error (asInstallFailure_other profile h)

theorem installPackages_inTurn (A : Agents σ) (profile : PlatformProfile) (missing : List String)
    (w : World σ) :
    ∃ calls r, InTurn (profile.installation missing) missing calls r ∧
      profile.Reports r (installPackages A.toRunner profile missing w).1 ∧
      w.Continues A calls (calls.filterMap Event.command?)
        (installPackages A.toRunner profile missing w).2 := by
  rw [installPackages_eq, Work.bind_apply]
  obtain ⟨calls, r, inTurn, hresult, continued⟩ :=
    runManagers_inTurn A profile (profile.installation missing) w
  cases hm : runManagers A.toRunner profile (profile.installation missing) w with
  | mk result w' =>
    rw [hm] at hresult continued
    dsimp only at hresult
    subst hresult
    cases inTurn with
    | through asked unfailing =>
      exact ⟨calls, .ok missing, .through asked unfailing, reports_mapError profile _, continued⟩
    | upTo done split asked unfailing =>
      exact ⟨_, .error _, .upTo done split asked unfailing, reports_mapError profile _, continued⟩

/-- The whole package phase. Every package is asked for once, in order, before any command is run.
With nothing missing that is all; otherwise the lists are renewed, if the manager keeps any, and
then the missing packages are installed by one command, up to the first that fails. The steps are
the commands that were run, also when the phase fails. -/
theorem installation_follows_survey (A : Agents σ) (profile : PlatformProfile) (w : World σ) :
    ∃ answers calls,
      let missing := refusedOf profile.packages answers
      let result := ensurePackages A.toRunner profile w
      (∀ package, (profile.probeOf package).words = profile.probe.words ++ [package]) ∧
        answers.length = profile.packages.length ∧
        w.Continues A (profile.survey profile.packages answers ++ calls)
          (calls.filterMap Event.command?) result.2 ∧
        (missing = [] → calls = [] ∧ result.1 = .ok []) ∧
        (missing ≠ [] →
          (profile.installOf missing).words = profile.install.words ++ missing ∧
          ∃ r, InTurn (profile.installation missing) missing calls r ∧
            profile.Reports r result.1) := by
  obtain ⟨answers, w₁, hlen, hmissing, survey⟩ :=
    missingPackages_surveys A profile profile.packages w
  have hphase : ensurePackages A.toRunner profile w =
      settlePackages A.toRunner profile (refusedOf profile.packages answers) w₁ := by
    rw [ensurePackages_eq, Work.bind_of_ok hmissing]
  rw [hphase]
  by_cases hnone : refusedOf profile.packages answers = []
  · have settled := Work.continues_note A w₁ .packages .info "all packages already installed"
      [("manager", Log.quoted profile.manager)]
    refine ⟨answers, [], fun _ => rfl, hlen, ?_, fun _ => ⟨rfl, ?_⟩, fun h => absurd hnone h⟩
    · rw [settlePackages, if_pos (by simp [hnone])]
      exact survey.trans settled
    · rw [settlePackages, if_pos (by simp [hnone]), hnone]
      rfl
  · let fields := [("manager", Log.quoted profile.manager),
      ("packages", String.intercalate " " (refusedOf profile.packages answers))]
    let w₂ := (Work.note .packages .info "installing missing packages" fields w₁).2
    have noted : w₁.Continues A [] [] w₂ := Work.continues_note A w₁ .packages .info _ fields
    have hsettle : settlePackages A.toRunner profile (refusedOf profile.packages answers) w₁ =
        installPackages A.toRunner profile (refusedOf profile.packages answers) w₂ := by
      rw [settlePackages, if_neg (by simpa using hnone)]
      rfl
    obtain ⟨calls, r, inTurn, reports, installed⟩ :=
      installPackages_inTurn A profile (refusedOf profile.packages answers) w₂
    refine ⟨answers, calls, fun _ => rfl, hlen, ?_, fun h => absurd h hnone,
      fun _ => ⟨rfl, r, inTurn, ?_⟩⟩
    · rw [hsettle]
      exact survey.trans (noted.trans installed)
    · rw [hsettle]
      exact reports

end Provision
