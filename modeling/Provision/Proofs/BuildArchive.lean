import Provision.Proofs.FailedInstall
import Provision.Proofs.Reruns

namespace Provision

variable {σ : Type} {A : Agents σ}

namespace ArchiveRequest

variable {req : ArchiveRequest} {w w' : World σ} {status : ArchiveStatus}

/-- A site from which the archive is fetched and unpacked, and the unzip leaves nothing in the
unpack directory; or the path to there leads through the zip. -/
def Misplaces (A : Agents σ) (req : ArchiveRequest) (s : Site σ) : Prop :=
  ∃ t u printed,
    A.answer s (.fetch req.url req.zipPath) = (.fetched req.url req.zipPath (.ok ()), t) ∧
      A.answer t (.run req.unzip) = (.ran req.unzip (.ok ()) printed, u) ∧
      (u.fs.has req.unpackDir = false ∨
        u.fs.has req.zipPath = true ∧ (u.fs.dropFile req.zipPath).has req.unpackDir = false)

/-- Without the zip that was unpacked a path leads nowhere if it led nowhere before, or only by way
of the zip. -/
theorem not_has_tidied_iff {fs : FileSystem} {zip p : Path} :
    (fs.tidied zip).has p = false ↔
      fs.has p = false ∨ fs.has zip = true ∧ (fs.dropFile zip).has p = false := by
  unfold FileSystem.tidied
  split
  · rename_i hz
    simp only [hz, true_and]
    exact ⟨.inr, fun h => h.elim (fs.within_dropFile zip).not_has id⟩
  · rename_i hz
    simp [hz]

/-- A phase that succeeds ends with the unpack directory if it was there before, and otherwise
unless the archive was misplaced. -/
theorem Course.has_iff (hd : req.dryRun = false) (h : req.Course A w (.ok status) w') :
    w'.fs.has req.unpackDir = true ↔
      w.fs.has req.unpackDir = true ∨ ¬ req.Misplaces A w.toSite := by
  cases h with
  | present hp hw =>
    have hsite : w.toSite = w'.toSite := hw.after
    rw [← hsite]
    exact ⟨.inl, fun _ => hp⟩
  | planned _ hdry =>
    rw [hd] at hdry
    cases hdry
  | @downloaded w₁ w₂ printed hp _ hw _ hu _ =>
    rw [hp]
    constructor
    · rintro hleft
      refine .inr ?_
      rintro ⟨t, u, printed', hfetch, hunzip, hmissing⟩
      cases hw.fetched.symm.trans hfetch
      cases hu.ran.symm.trans hunzip
      rw [not_has_tidied_iff.mpr hmissing] at hleft
      cases hleft
    · rintro (habsent | hplaced)
      · cases habsent
      · cases hleft : (w₂.fs.tidied req.zipPath).has req.unpackDir with
        | true => rfl
        | false =>
          exact absurd ⟨_, _, _, hw.fetched, hu.ran, not_has_tidied_iff.mp hleft⟩ hplaced

end ArchiveRequest

namespace BootstrapPlan

variable {plan : BootstrapPlan} {w w' : World σ} {calls : List Event}

/-- An unzip that leaves something in the place of the archive, apart from the zip, misplaces
nothing. -/
theorem UnpacksApart.not_misplaces (h : plan.UnpacksApart A) (s : Site σ) :
    ¬ plan.archiveRequest.Misplaces A s := by
  rintro ⟨t, u, printed, -, hunzip, hmissing⟩
  simp only [Agents.answer, Prod.mk.injEq, Event.ran.injEq, true_and] at hunzip
  obtain ⟨⟨hok, -⟩, rfl⟩ := hunzip
  have hthere := h t hok
  rcases hmissing with hmissing | ⟨-, hmissing⟩
  · exact Bool.false_ne_true
      (((FileSystem.within_dropFile _ _).not_has hmissing).symm.trans hthere)
  · exact Bool.false_ne_true (hmissing.symm.trans hthere)

/-- A phase of one stage asks for that stage, and for nothing else. -/
theorem Phase.single {α : Type} {g : Stage} {r : Except Failure α}
    (h : Phase A plan w [g] calls r w') :
    ∃ e t, calls = [e] ∧ A.answer w.toSite (plan.request g) = (e, t) := by
  cases h with
  | passed _ run =>
    cases run with
    | stage hq _ rest =>
      rw [List.eq_nil_of_length_eq_zero rest.length_eq]
      exact ⟨_, _, rfl, hq⟩
  | stopped _ run =>
    cases run with
    | here hq _ => exact ⟨_, _, rfl, hq⟩
    | later _ _ rest => cases rest

/-- What comes after the package phase stops with the archive, or comes to the build. -/
theorem archiveAndBuild_built (A : Agents σ) (hd : plan.dryRun = false) (escalation : Escalation)
    (missing : List String) (w : World σ) :
    let stages := plan.archiveStages (w.fs.has plan.archiveDir)
    let done := plan.archiveAndBuild A escalation missing w
    ∃ calls, done.2.calls = w.calls ++ calls ∧
      ((∃ e, done.1 = .error e) ∧ plan.Stops A w.toSite stages calls ∨
        ∃ archive built t u, calls = archive ++ [built] ∧
          plan.Passes A w.toSite stages archive t ∧
          A.answer t (.run plan.building) = (built, u) ∧
          (t.fs.has plan.archiveDir = true ↔
            w.fs.has plan.archiveDir = true ∨ ¬ plan.archiveRequest.Misplaces A w.toSite)) := by
  intro stages done
  obtain ⟨archive, phase⟩ := archive_phase A plan w
  have course := plan.archiveRequest.ensure_course A w
  have hdone : done = (plan.archiveRequest.ensure A >>= plan.buildLast A escalation missing) w :=
    congrFun (archiveAndBuild_eq A plan escalation missing) w
  cases hy : plan.archiveRequest.ensure A w with
  | mk r w₁ =>
    rw [hy] at phase course
    cases phase with
    | @stopped e _ log run =>
      rw [hdone, Work.bind_of_error hy]
      exact ⟨archive, log.calls_eq, .inl ⟨⟨e, rfl⟩, run⟩⟩
    | @passed status _ log run =>
      rw [hdone, Work.bind_of_ok hy]
      obtain ⟨calls, last⟩ : ∃ calls, Phase A plan w₁ [.build] calls
          (plan.buildLast A escalation missing status w₁).1
          (plan.buildLast A escalation missing status w₁).2 := build_phase A plan _ w₁
      obtain ⟨built, u, rfl, hbuilt⟩ := last.single
      refine ⟨archive ++ [built], ?_, .inr ⟨archive, built, w₁.toSite, u, rfl, run, hbuilt,
        course.has_iff hd⟩⟩
      rw [last.logged.calls_eq, log.calls_eq, List.append_assoc]

/-- The build and its archive. A run stops before the build or hands it over last, and then the
unpack directory is there exactly if it was there behind the packages, or an archive was unpacked
that was not misplaced. That is what a success of the archive phase is worth, and what the next run
goes by. -/
theorem build_has_archive_iff (A : Agents σ) (plan : BootstrapPlan) (hd : plan.dryRun = false)
    (privilege : Privilege) (w : World σ) :
    let calls := (plan.run A privilege).callsFrom w
    (privilege.decide = .reinvoke → ∃ r printed, calls = [.ran plan.reinvoke r printed]) ∧
    (privilege.decide ≠ .reinvoke →
      ((∃ e, (plan.run A privilege w).1 = .error e) ∧ ∃ present,
        plan.Stops A w.toSite (plan.packageStages (missingAmong plan.packages calls) ++
          plan.archiveStages present) calls) ∨
      ∃ packages archive built s t u, calls = packages ++ archive ++ [built] ∧
        plan.Passes A w.toSite (plan.packageStages (missingAmong plan.packages packages))
          packages s ∧
        plan.Passes A s (plan.archiveStages (s.fs.has plan.archiveDir)) archive t ∧
        A.answer t (.run plan.building) = (built, u) ∧
        (t.fs.has plan.archiveDir = true ↔
          s.fs.has plan.archiveDir = true ∨ ¬ plan.archiveRequest.Misplaces A s)) ∧
    (∀ (v : World σ) status, (plan.archiveRequest.ensure A v).1 = .ok status →
      let v' := (plan.archiveRequest.ensure A v).2
      (v'.fs.has plan.archiveDir = true ↔
        v.fs.has plan.archiveDir = true ∨ ¬ plan.archiveRequest.Misplaces A v.toSite) ∧
      ∀ B : Agents σ, (plan.archiveRequest.ensure B v').1 = .ok .present ↔
        v'.fs.has plan.archiveDir = true) ∧
    (plan.UnpacksApart A → ∀ s, ¬ plan.archiveRequest.Misplaces A s) := by
  intro calls
  refine ⟨fun hr => ?_, fun hp => ?_, fun v status hok => ⟨?_, fun B =>
    ArchiveRequest.ensure_present_iff⟩, fun h s => h.not_misplaces s⟩
  · obtain ⟨r, printed, hrun, -⟩ := run_escalated A hr hd w
    exact ⟨r, printed, Work.callsFrom_eq hrun.calls_eq⟩
  · obtain ⟨w₀, hsite, hcalls₀, hresult, hworld⟩ := run_phases A plan hp w
    -- the package phase stops the run, or it comes to the archive
    obtain ⟨packages, hpackages, hlen⟩ := package_phase A plan w₀
    cases hx : ensurePackages A.toRunner plan.platform.profile w₀ with
    | mk r w₁ =>
      rw [hx] at hpackages
      cases hpackages with
      | @stopped e _ log run =>
        rw [hsite] at run
        have hphases : plan.phases A privilege.decide w₀ = (.error e, w₁) :=
          Work.bind_of_error hx _
        rw [hphases] at hresult hworld
        have hcalls : calls = packages :=
          Work.callsFrom_eq (by rw [hworld, log.calls_eq, hcalls₀])
        rw [hcalls]
        exact .inl ⟨⟨e, hresult⟩, true, run.append_right⟩
      | @passed missing _ log run =>
        rw [hsite] at run
        have hphases : plan.phases A privilege.decide w₀ =
            plan.archiveAndBuild A privilege.decide missing w₁ := Work.bind_of_ok hx _
        rw [hphases] at hresult hworld
        obtain ⟨done, hdone, hcourse⟩ :=
          archiveAndBuild_built A hd privilege.decide missing w₁
        have hcalls : calls = packages ++ done :=
          Work.callsFrom_eq (by rw [hworld, hdone, log.calls_eq, hcalls₀, List.append_assoc])
        rcases hcourse with ⟨⟨e, he⟩, stops⟩ | ⟨archive, built, t, u, rfl, passes, hbuilt, hiff⟩
        · rw [he] at hresult
          refine .inl ⟨⟨e, hresult⟩, w₁.fs.has plan.archiveDir, ?_⟩
          rw [hcalls, missingAmong_append done hlen]
          exact run.stops stops
        · refine .inr ⟨packages, archive, built, w₁.toSite, t, u, ?_, run, passes, hbuilt, hiff⟩
          rw [hcalls, List.append_assoc]
  · have course := plan.archiveRequest.ensure_course A v
    rw [hok] at course
    exact course.has_iff hd

/-- A run that has to fetch its archive hands its build over with the archive in place. -/
theorem unpacked_for_build :
    let root : Privilege := ⟨true, false, false⟩
    let w : World (List String) := { fs := bareWorkspace.fs, agent := [] }
    workspacePlan.dryRun = false ∧ root.decide ≠ .reinvoke ∧
      w.fs.has workspacePlan.archiveDir = false ∧
      ∃ before built t u, (workspacePlan.run tidyHost root).callsFrom w = before ++ [built] ∧
        tidyHost.answer t (.run workspacePlan.building) = (built, u) ∧
        t.fs.has workspacePlan.archiveDir = true := by
  intro root w
  have hp : root.decide ≠ .reinvoke := by decide
  obtain ⟨report, hreport⟩ : ∃ report, (workspacePlan.run tidyHost root w).1 =
      .ok (.completed report) := completed_of_run hp (by decide +kernel)
  obtain ⟨-, hown, -, happart⟩ := build_has_archive_iff tidyHost workspacePlan rfl root w
  refine ⟨rfl, hp, by decide +kernel, ?_⟩
  rcases hown hp with ⟨⟨e, he⟩, -⟩ | ⟨packages, archive, built, s, t, u, hcalls, -, -, hbuilt, hiff⟩
  · rw [hreport] at he
    cases he
  · exact ⟨packages ++ archive, built, t, u, hcalls, hbuilt,
      hiff.mpr (.inr (happart tidyHost_apart s))⟩

def renamedPlan : BootstrapPlan :=
  Tool.buildPlan { executable := ⟨"/usr/bin/bastion-dev"⟩ } ⟨⟨"/w"⟩⟩
    { archive := { dir := "torch" } } .debian none false

def renamedHost : Agents Unit where
  run c s :=
    if c = renamedPlan.archiveRequest.unzip then
      ((.ok (), {}), { s with fs := (s.fs.makeDirectories ⟨"/w/libtorch"⟩).2 })
    else if s.fs.has renamedPlan.archiveDir then ((.ok (), {}), s)
    else ((.error (.ofFault (.childFailed c.program 101)), {}), s)
  probe _ s := (true, s)
  fetch _ target s := (.ok (), { s with fs := (s.fs.write target .empty).toOption.getD s.fs })

/-- The archive is reported as downloaded, and the build is started all the same and fails without
it; the next run downloads again. -/
theorem renamed_archive_missing :
    let root : Privilege := ⟨true, false, false⟩
    let w : World Unit := { fs := { entries := [(["w"], .directory)] }, agent := () }
    let w' := (renamedPlan.archiveRequest.ensure renamedHost w).2
    renamedPlan.dryRun = false ∧ root.decide ≠ .reinvoke ∧
      (renamedPlan.archiveRequest.ensure renamedHost w).1 = .ok .downloaded ∧
      w'.fs.has renamedPlan.archiveDir = false ∧
      (renamedPlan.archiveRequest.ensure renamedHost w').1 = .ok .downloaded ∧
      ((renamedPlan.run renamedHost root).callsFrom w).filterMap Event.command? =
        [renamedPlan.archiveRequest.unzip, renamedPlan.building] ∧
      (renamedPlan.run renamedHost root w).2.fs.has renamedPlan.archiveDir = false := by
  decide +kernel

end BootstrapPlan
end Provision
