import Provision.Proofs.Stages

namespace Provision

variable {σ : Type}

namespace ArchiveRequest

/-- All that the phase can do from a world on, with its result and the world that it leaves. Each
course gives the calls that were made; changes of the phase's own come after them. -/
inductive Course (A : Agents σ) (req : ArchiveRequest) (w : World σ) :
    Except Failure ArchiveStatus → World σ → Prop
  | present {w' : World σ} (hp : w.fs.has req.unpackDir = true) (hw : w.Continues A [] [] w') :
    Course A req w (.ok .present) w'
  | planned {w' : World σ} {printed : Printed} (hp : w.fs.has req.unpackDir = false)
    (hd : req.dryRun = true)
    (hw : w.Continues A [.ran req.unzip (.ok ()) printed] [req.unzip] w') :
    Course A req w (.ok .planned) w'
  | unplanned {w' : World σ} {e : Failure} {printed : Printed}
    (hp : w.fs.has req.unpackDir = false) (hd : req.dryRun = true)
    (hw : w.Continues A [.ran req.unzip (.error e) printed] [req.unzip] w') :
    Course A req w (.error e) w'
  | unfetched {w' : World σ} {f : Fault} (hp : w.fs.has req.unpackDir = false)
    (hd : req.dryRun = false)
    (hw : w.Continues A [.fetched req.url req.zipPath (.error f)] [] w') :
    Course A req w (.error (.ofFault f)) w'
  | unreadable {w' : World σ} {expected : String} {e : IoError}
    (hp : w.fs.has req.unpackDir = false) (hd : req.dryRun = false)
    (hs : req.sha256 = some expected)
    (hw : w.Continues A [.fetched req.url req.zipPath (.ok ())] [] w')
    (hr : w'.fs.sha256 req.zipPath = .error e) :
    Course A req w (.error (.ofFault (req.downloadFault e.message))) w'
  | mismatched {w₁ : World σ} {expected actual : String}
    (hp : w.fs.has req.unpackDir = false) (hd : req.dryRun = false)
    (hs : req.sha256 = some expected)
    (hw : w.Continues A [.fetched req.url req.zipPath (.ok ())] [] w₁)
    (hr : w₁.fs.sha256 req.zipPath = .ok actual) (ha : accepts expected actual = false) :
    Course A req w (.error (.ofFault (req.downloadFault (mismatch expected actual))))
      { w₁ with fs := w₁.fs.dropFile req.zipPath }
  | broken {w₁ w₂ : World σ} {e : Failure} {printed : Printed}
    (hp : w.fs.has req.unpackDir = false) (hd : req.dryRun = false)
    (hw : w.Continues A [.fetched req.url req.zipPath (.ok ())] [] w₁)
    (hv : ∀ expected, req.sha256 = some expected → w₁.fs.Verified req.zipPath expected)
    (hu : w₁.Continues A [.ran req.unzip (.error e) printed] [req.unzip] w₂) :
    Course A req w (.error e)
      { w₂ with fs := (w₂.fs.removeTree req.unpackDir).2.dropFile req.zipPath }
  | stuck {w₁ w₂ : World σ} {err : IoError} {printed : Printed}
    (hp : w.fs.has req.unpackDir = false) (hd : req.dryRun = false)
    (hw : w.Continues A [.fetched req.url req.zipPath (.ok ())] [] w₁)
    (hv : ∀ expected, req.sha256 = some expected → w₁.fs.Verified req.zipPath expected)
    (hu : w₁.Continues A [.ran req.unzip (.ok ()) printed] [req.unzip] w₂)
    (hz : w₂.fs.has req.zipPath = true) (hr : w₂.fs.removeFile req.zipPath = .error err) :
    Course A req w (.error (.ofIo err)) w₂
  | downloaded {w₁ w₂ : World σ} {printed : Printed}
    (hp : w.fs.has req.unpackDir = false) (hd : req.dryRun = false)
    (hw : w.Continues A [.fetched req.url req.zipPath (.ok ())] [] w₁)
    (hv : ∀ expected, req.sha256 = some expected → w₁.fs.Verified req.zipPath expected)
    (hu : w₁.Continues A [.ran req.unzip (.ok ()) printed] [req.unzip] w₂)
    (hz : w₂.fs.has req.zipPath = true → ∃ fs, w₂.fs.removeFile req.zipPath = .ok fs) :
    Course A req w (.ok .downloaded) { w₂ with fs := w₂.fs.tidied req.zipPath }

variable {A : Agents σ} {req : ArchiveRequest} {w : World σ}

def conclude (req : ArchiveRequest) : Work σ ArchiveStatus :=
  if req.dryRun then pure .planned
  else do
    if ← Work.ask (·.has req.zipPath) then
      Work.change (·.removeFile req.zipPath)
    pure .downloaded

theorem ensure_present (A : Agents σ) (hp : w.fs.has req.unpackDir = true) :
    ∃ w', req.ensure A w = (.ok .present, w') ∧ w.Continues A [] [] w' := by
  have hask : Work.ask (·.has req.unpackDir) w = (.ok true, w) := by rw [Work.ask, hp]
  rw [ensure, Work.bind_of_ok hask]
  exact ⟨_, rfl, Work.continues_note A w .archive .info _ _⟩

theorem ensure_absent (hp : w.fs.has req.unpackDir = false) :
    req.ensure A w = (req.obtain A >>= fun _ => req.unpack A >>= fun _ => req.conclude) w := by
  have hask : Work.ask (·.has req.unpackDir) w = (.ok false, w) := by
    rw [Work.ask, hp]
  rw [ensure, Work.bind_of_ok hask]
  rfl

theorem attempt_dropFile (w : World σ) (p : Path) :
    Work.attempt (·.removeFile p) w = (.ok (), { w with fs := w.fs.dropFile p }) := by
  simp only [Work.attempt, FileSystem.dropFile]
  cases w.fs.removeFile p <;> rfl

theorem verify_unreadable {expected : String} {e : IoError}
    (h : w.fs.sha256 req.zipPath = .error e) :
    req.verify expected w = (.error (.ofFault (req.downloadFault e.message)), w) := by
  have hask : Work.ask (·.sha256 req.zipPath) w = (.ok (.error e), w) := by
    rw [Work.ask, h]
  rw [verify, Work.bind_of_ok hask]
  rfl

theorem verify_accepted {expected actual : String} (h : w.fs.sha256 req.zipPath = .ok actual)
    (ha : accepts expected actual = true) : req.verify expected w = (.ok (), w) := by
  have hask : Work.ask (·.sha256 req.zipPath) w = (.ok (.ok actual), w) := by
    rw [Work.ask, h]
  rw [verify, Work.bind_of_ok hask]
  simp only [ha, if_true, Work.pure_apply]

theorem verify_mismatched {expected actual : String} (h : w.fs.sha256 req.zipPath = .ok actual)
    (ha : accepts expected actual = false) :
    req.verify expected w =
      (.error (.ofFault (req.downloadFault (mismatch expected actual))),
        { w with fs := w.fs.dropFile req.zipPath }) := by
  have hask : Work.ask (·.sha256 req.zipPath) w = (.ok (.ok actual), w) := by
    rw [Work.ask, h]
  rw [verify, Work.bind_of_ok hask]
  simp only [ha, Bool.false_eq_true, if_false]
  rw [Work.bind_of_ok (attempt_dropFile w req.zipPath)]
  rfl

theorem discard_eq (hd : req.dryRun = false) (w : World σ) :
    req.discard w =
      (.ok (), { w with fs := (w.fs.removeTree req.unpackDir).2.dropFile req.zipPath }) := by
  have htree : Work.attemptMany (·.removeTree req.unpackDir) w =
      (.ok (), { w with fs := (w.fs.removeTree req.unpackDir).2 }) := rfl
  rw [discard, if_neg (by rw [hd]; simp), Work.bind_of_ok htree]
  exact attempt_dropFile _ _

/-- Fetching and checking, when it is not a dry run: what goes wrong ends the phase. -/
theorem obtain_cases (A : Agents σ) (hp : w.fs.has req.unpackDir = false)
    (hd : req.dryRun = false) :
    (∃ e w', req.obtain A w = (.error e, w') ∧ Course A req w (.error e) w') ∨
    ∃ w', req.obtain A w = (.ok (), w') ∧
      w.Continues A [.fetched req.url req.zipPath (.ok ())] [] w' ∧
      ∀ expected, req.sha256 = some expected → w'.fs.Verified req.zipPath expected := by
  let fields := [("url", Log.quoted req.url), ("dest", req.zipPath.text)]
  let w₀ := (Work.note .archive .info "downloading archive" fields w).2
  let w₁ := (Work.fetch A.toFetcher req.url req.zipPath w₀).2
  have hw : w.Continues A [.fetched req.url req.zipPath (A.fetch req.url req.zipPath w.toSite).1]
      [] w₁ :=
    (Work.continues_note A w .archive .info "downloading archive" fields).trans
      (Work.continues_fetch A w₀ req.url req.zipPath)
  have hfetch : Work.fetch A.toFetcher req.url req.zipPath w₀ =
      ((A.fetch req.url req.zipPath w.toSite).1.mapError .ofFault, w₁) := rfl
  have hobtain : req.obtain A w = (Work.fetch A.toFetcher req.url req.zipPath >>= fun _ =>
      req.sha256.elim (pure ()) req.verify) w₀ := by
    rw [obtain, if_neg (by rw [hd]; simp)]
    cases req.sha256 <;> rfl
  rw [hobtain]
  cases hf : (A.fetch req.url req.zipPath w.toSite).1 with
  | error f =>
    rw [hf] at hw hfetch
    rw [Work.bind_of_error hfetch]
    exact .inl ⟨_, w₁, rfl, .unfetched hp hd hw⟩
  | ok u =>
    rw [hf] at hw hfetch
    rw [Work.bind_of_ok hfetch]
    cases hs : req.sha256 with
    | none => exact .inr ⟨w₁, rfl, hw, by simp⟩
    | some expected =>
      dsimp only [Option.elim]
      cases hr : w₁.fs.sha256 req.zipPath with
      | error e =>
        rw [verify_unreadable hr]
        exact .inl ⟨_, w₁, rfl, .unreadable hp hd hs hw hr⟩
      | ok actual =>
        cases ha : accepts expected actual with
        | false =>
          rw [verify_mismatched hr ha]
          exact .inl ⟨_, _, rfl, .mismatched hp hd hs hw hr ha⟩
        | true =>
          rw [verify_accepted hr ha]
          refine .inr ⟨w₁, rfl, hw, fun expected' he => ?_⟩
          cases he
          exact FileSystem.verified_iff.mpr ⟨actual, hr, ha⟩

theorem unpack_cases (A : Agents σ) (req : ArchiveRequest) (w : World σ) :
    (∃ e printed w', req.unpack A w = (.error e, (req.discard w').2) ∧
      w.Continues A [.ran req.unzip (.error e) printed] [req.unzip] w') ∨
    ∃ printed w', req.unpack A w = (.ok (), w') ∧
      w.Continues A [.ran req.unzip (.ok ()) printed] [req.unzip] w' := by
  let w₁ := (Work.enter req.unzip w).2
  let w₂ := (Work.run A.toRunner req.unzip w₁).2
  have hw := (Work.continues_enter A w req.unzip).trans (Work.continues_run A w₁ req.unzip)
  have hrun : Work.run A.toRunner req.unzip w₁ = ((A.run req.unzip w.toSite).1.1, w₂) := rfl
  have hunpack : req.unpack A w = (Work.run A.toRunner req.unzip).onFailure req.discard w₁ := rfl
  rw [hunpack, Work.onFailure, hrun]
  cases hr : (A.run req.unzip w.toSite).1.1 with
  | error e =>
    have hr' : (A.run req.unzip w₁.toSite).1.1 = .error e := hr
    rw [hr'] at hw
    exact .inl ⟨e, _, w₂, rfl, hw⟩
  | ok u =>
    have hr' : (A.run req.unzip w₁.toSite).1.1 = .ok () := hr
    rw [hr'] at hw
    exact .inr ⟨_, w₂, rfl, hw⟩

/-- A zip that was unpacked is removed, and the phase fails when that cannot be done. -/
theorem conclude_cases (hd : req.dryRun = false) (w : World σ) :
    (∃ err, w.fs.has req.zipPath = true ∧ w.fs.removeFile req.zipPath = .error err ∧
      req.conclude w = (.error (.ofIo err), w)) ∨
    ((w.fs.has req.zipPath = true → ∃ fs, w.fs.removeFile req.zipPath = .ok fs) ∧
      req.conclude w = (.ok .downloaded, { w with fs := w.fs.tidied req.zipPath })) := by
  have hdry : ¬ req.dryRun = true := by rw [hd]; simp
  unfold conclude FileSystem.tidied FileSystem.dropFile
  rw [if_neg hdry]
  cases hz : w.fs.has req.zipPath with
  | false =>
    have hask : Work.ask (·.has req.zipPath) w = (.ok false, w) := by rw [Work.ask, hz]
    rw [Work.bind_of_ok hask]
    exact .inr ⟨by simp, rfl⟩
  | true =>
    have hask : Work.ask (·.has req.zipPath) w = (.ok true, w) := by rw [Work.ask, hz]
    rw [Work.bind_of_ok hask]
    cases hr : w.fs.removeFile req.zipPath with
    | error err =>
      have hchange : Work.change (·.removeFile req.zipPath) w = (.error (.ofIo err), w) := by
        simp only [Work.change, hr]
      exact .inl ⟨err, rfl, rfl, Work.bind_of_error hchange _⟩
    | ok fs =>
      have hchange : Work.change (·.removeFile req.zipPath) w = (.ok (), { w with fs := fs }) := by
        simp only [Work.change, hr]
      exact .inr ⟨fun _ => ⟨fs, rfl⟩, Work.bind_of_ok hchange _⟩

/-- In a dry run the phase only says what it would fetch. -/
theorem obtain_planned (A : Agents σ) (hd : req.dryRun = true) (w : World σ) :
    ∃ w', req.obtain A w = (.ok (), w') ∧ w.Continues A [] [] w' := by
  rw [obtain, if_pos hd]
  exact ⟨_, rfl, Work.continues_note A w _ _ _ _⟩

theorem ensure_course (A : Agents σ) (req : ArchiveRequest) (w : World σ) :
    Course A req w (req.ensure A w).1 (req.ensure A w).2 := by
  cases hp : w.fs.has req.unpackDir with
  | true =>
    obtain ⟨w', hensure, hw⟩ := ensure_present A hp
    rw [hensure]
    exact .present hp hw
  | false =>
    rw [ensure_absent hp]
    cases hd : req.dryRun with
    | true =>
      obtain ⟨w₁, hobtain, hw⟩ := obtain_planned A hd w
      rw [Work.bind_of_ok hobtain]
      rcases unpack_cases A req w₁ with ⟨e, printed, w₂, hunpack, hu⟩ | ⟨printed, w₂, hunpack, hu⟩
      · rw [Work.bind_of_error hunpack, discard, if_pos hd]
        exact .unplanned hp hd (hw.trans hu)
      · rw [Work.bind_of_ok hunpack, conclude, if_pos hd]
        exact .planned hp hd (hw.trans hu)
    | false =>
      rcases obtain_cases A hp hd with ⟨e, w₁, hobtain, course⟩ | ⟨w₁, hobtain, hw, hv⟩
      · rw [Work.bind_of_error hobtain]
        exact course
      rw [Work.bind_of_ok hobtain]
      rcases unpack_cases A req w₁ with ⟨e, printed, w₂, hunpack, hu⟩ | ⟨printed, w₂, hunpack, hu⟩
      · rw [Work.bind_of_error hunpack, discard_eq hd]
        exact .broken hp hd hw hv hu
      rw [Work.bind_of_ok hunpack]
      rcases conclude_cases hd w₂ with ⟨err, hz, hr, hconclude⟩ | ⟨hz, hconclude⟩
      · rw [hconclude]
        exact .stuck hp hd hw hv hu hz hr
      · rw [hconclude]
        exact .downloaded hp hd hw hv hu hz

end ArchiveRequest

namespace BootstrapPlan

variable {A : Agents σ} {plan : BootstrapPlan}

theorem not_fails_fetch {fs : FileSystem} {url : String} {target : Path}
    (hv : ∀ expected, plan.sha256 = some expected → fs.Verified plan.archiveZip expected) :
    ¬ plan.Fails fs .fetch (.fetched url target (.ok ())) := by
  intro hf
  cases hf with
  | call h => cases h
  | digest hs hn => exact hn (hv _ hs)

theorem not_fails_unzip {fs : FileSystem} {c : Command} {printed : Printed}
    (hz : plan.dryRun = false → fs.has plan.archiveZip = true →
      ∃ fs', fs.removeFile plan.archiveZip = .ok fs') :
    ¬ plan.Fails fs .unzip (.ran c (.ok ()) printed) := by
  intro hf
  cases hf with
  | call h => cases h
  | zip hd hhas hr =>
    obtain ⟨fs', hok⟩ := hz hd hhas
    rw [hr] at hok
    cases hok

theorem archiveStages_absent (hd : plan.dryRun = false) :
    plan.archiveStages false = [.fetch, .unzip] := by
  simp [archiveStages, hd]

theorem archiveStages_planned (hd : plan.dryRun = true) : plan.archiveStages false = [.unzip] := by
  simp [archiveStages, hd]

/-- The phase does the stages of an archive that is there or not, whichever it finds. -/
theorem archive_phase (A : Agents σ) (plan : BootstrapPlan) (w : World σ) :
    ∃ calls, Phase A plan w (plan.archiveStages (w.fs.has plan.archiveDir)) calls
      (plan.archiveRequest.ensure A w).1 (plan.archiveRequest.ensure A w).2 := by
  have course := plan.archiveRequest.ensure_course A w
  generalize (plan.archiveRequest.ensure A w).1 = r at course ⊢
  generalize (plan.archiveRequest.ensure A w).2 = w' at course ⊢
  have hdir : plan.archiveRequest.unpackDir = plan.archiveDir := rfl
  cases course with
  | present hp hw =>
    rw [← hdir, hp]
    exact ⟨[], .passed hw.toLogged (hw.after ▸ .nothing _)⟩
  | planned hp hd hw =>
    have hq := hw.ran
    rw [← hdir, hp, archiveStages_planned hd]
    refine ⟨_, .passed hw.toLogged (.stage hq (not_fails_unzip ?_) ?_)⟩
    · intro hdry
      rw [show plan.dryRun = true from hd] at hdry
      cases hdry
    · rw [tidied, if_pos (show plan.dryRun = true from hd)]
      exact .nothing _
  | unplanned hp hd hw =>
    have hq := hw.ran
    rw [← hdir, hp, archiveStages_planned hd]
    exact ⟨_, .stopped hw.toLogged (.here hq (.call rfl))⟩
  | unfetched hp hd hw =>
    have hq := hw.fetched
    rw [← hdir, hp, archiveStages_absent hd]
    exact ⟨_, .stopped hw.toLogged (.here hq (.call rfl))⟩
  | unreadable hp hd hs hw hr =>
    have hq := hw.fetched
    rw [← hdir, hp, archiveStages_absent hd]
    exact ⟨_, .stopped hw.toLogged
      (.here hq (.digest hs
        (FileSystem.not_verified_of_unreadable (FileSystem.sha256_eq_error.mp hr))))⟩
  | mismatched hp hd hs hw hr ha =>
    have hq := hw.fetched
    obtain ⟨content, hread, rfl⟩ := FileSystem.sha256_eq_ok.mp hr
    rw [← hdir, hp, archiveStages_absent hd]
    exact ⟨_, .stopped ⟨hw.calls_eq, hw.steps_eq⟩
      (.here hq (.digest hs (FileSystem.not_verified_of_mismatch hread ha)))⟩
  | broken hp hd hw hv hu =>
    have hq := hw.fetched
    have hq' := hu.ran
    have log := (hw.trans hu).toLogged
    rw [← hdir, hp, archiveStages_absent hd]
    exact ⟨_, .stopped ⟨log.calls_eq, log.steps_eq⟩
      (.later hq (not_fails_fetch hv) (.here hq' (.call rfl)))⟩
  | stuck hp hd hw hv hu hz hr =>
    have hq := hw.fetched
    have hq' := hu.ran
    rw [← hdir, hp, archiveStages_absent hd]
    exact ⟨_, .stopped (hw.trans hu).toLogged
      (.later hq (not_fails_fetch hv) (.here hq' (.zip hd hz hr)))⟩
  | downloaded hp hd hw hv hu hz =>
    have hq := hw.fetched
    have hq' := hu.ran
    have log := (hw.trans hu).toLogged
    rw [← hdir, hp, archiveStages_absent hd]
    refine ⟨_, .passed ⟨log.calls_eq, log.steps_eq⟩
      (.stage hq (not_fails_fetch hv) (.stage hq' (not_fails_unzip fun _ => hz) ?_))⟩
    rw [tidied, if_neg (by rw [show plan.dryRun = false from hd]; simp)]
    exact .nothing _

end BootstrapPlan
end Provision
