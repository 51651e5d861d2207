import Provision.Proofs.ChecksumGate
import Provision.Proofs.StubRun

namespace Provision

variable {σ α β : Type}

def World.output (w : World σ) : String := String.join (w.journal.map (Log.outputText true))

namespace World

theorem output_record (w : World σ) (e : Event) :
    (Work.record w e).output = w.output ++ Log.outputText true e := by
  simp [Work.record, output, String.join_append]

theorem output_calls (w : World σ) :
    w.output = String.join (w.calls.map (Log.outputText true)) := by
  unfold output calls
  induction w.journal with
  | nil => rfl
  | cons e rest ih =>
    cases e with
    | noted n =>
      rw [List.map_cons, String.join_cons, ih]
      exact String.empty_append
    | _ =>
      rw [List.filter_cons_of_pos rfl, List.map_cons, List.map_cons, String.join_cons,
        String.join_cons, ih]

theorem output_of_logged {w w' : World σ} {calls : List Event} {steps : List Command}
    (h : w.Logged calls steps w') :
    w'.output = w.output ++ String.join (calls.map (Log.outputText true)) := by
  rw [output_calls, output_calls, h.calls_eq, List.map_append, String.join_append]

end World

/-- A command writes nothing on standard output, wherever it is run. -/
def Runner.Quiet (R : Runner σ) (c : Command) : Prop := ∀ x, (R.run c x).1.2.out = ""

namespace Work

/-- Work during which nothing is written on standard output. -/
def Silent (x : Work σ α) : Prop := ∀ w, (x w).2.output = w.output

variable {A : Agents σ} {x : Work σ α}

theorem Silent.pure (a : α) : (Pure.pure a : Work σ α).Silent :=
  fun _ => rfl

theorem Silent.bind {k : α → Work σ β} (hx : x.Silent) (hk : ∀ a, (k a).Silent) :
    (x >>= k).Silent := by
  intro w
  have hw := hx w
  rw [bind_apply]
  cases hr : x w with
  | mk r w₁ =>
    rw [hr] at hw
    cases r with
    | error e => exact hw
    | ok a => exact (hk a w₁).trans hw

theorem Silent.mapFailure (h : x.Silent) (f : Failure → Failure) : (x.mapFailure f).Silent := by
  intro w
  rw [mapFailure_world]
  exact h w

theorem Silent.onFailure {cleanup : Work σ Unit} (h : x.Silent) (hc : cleanup.Silent) :
    (x.onFailure cleanup).Silent := by
  intro w
  have hw := h w
  unfold Work.onFailure
  cases hr : x w with
  | mk r w₁ =>
    rw [hr] at hw
    cases r with
    | error e => exact (hc w₁).trans hw
    | ok a => exact hw

theorem Silent.of_journal (h : ∀ w, (x w).2.journal = w.journal) : x.Silent :=
  fun w => by rw [World.output, h w, World.output]

theorem silent_note (area : Log.Area) (level : Log.Level) (message : String)
    (fields : List (String × String)) : (note area level message fields : Work σ Unit).Silent :=
  fun w => (w.output_record _).trans String.append_empty

theorem silent_run {c : Command} (hc : A.toRunner.Quiet c) : (run A.toRunner c).Silent := by
  intro w
  have hout : Log.outputText true (.ran c (A.run c w.toSite).1.1 (A.run c w.toSite).1.2) = "" :=
    hc w.toSite
  refine (World.output_record _ _).trans ?_
  rw [hout]
  exact String.append_empty

theorem silent_probe (A : Agents σ) (c : Command) : (probe A.toRunner c).Silent :=
  fun _ => (World.output_record _ _).trans String.append_empty

theorem silent_fetch (A : Agents σ) (url : String) (target : Path) :
    (fetch A.toFetcher url target).Silent :=
  fun _ => (World.output_record _ _).trans String.append_empty

theorem silent_attempt (f : FileSystem → Except IoError FileSystem) :
    (attempt f : Work σ Unit).Silent := by
  refine .of_journal fun w => ?_
  unfold attempt
  cases f w.fs <;> rfl

theorem silent_change (f : FileSystem → Except IoError FileSystem) :
    (change f : Work σ Unit).Silent := by
  refine .of_journal fun w => ?_
  unfold change
  cases f w.fs <;> rfl

theorem silent_changeMany (f : FileSystem → Except IoError Unit × FileSystem) :
    (changeMany f : Work σ Unit).Silent := by
  refine .of_journal fun w => ?_
  rw [changeMany_apply]

end Work

section

variable {A : Agents σ}

theorem missingPackages_silent (A : Agents σ) (profile : PlatformProfile)
    (packages : List String) : (missingPackages A.toRunner profile packages).Silent := by
  induction packages with
  | nil => exact .pure _
  | cons package rest ih =>
    exact (Work.silent_probe A _).bind fun installed => ih.bind fun missing => .pure _

theorem runManager_silent {c : Command} (hc : A.toRunner.Quiet c) (profile : PlatformProfile) :
    (runManager A.toRunner profile c).Silent :=
  .bind (fun _ => rfl) fun _ => (Work.silent_run hc).mapFailure _

theorem ensurePackages_silent (quiet : ∀ c : Command, c.env = [] → A.toRunner.Quiet c)
    (platform : Platform) : (ensurePackages A.toRunner platform.profile).Silent := by
  rw [ensurePackages_eq]
  refine (missingPackages_silent A _ _).bind fun missing => ?_
  unfold settlePackages
  split
  · exact (Work.silent_note _ _ _ _).bind fun _ => .pure missing
  · refine (Work.silent_note _ _ _ _).bind fun _ => ?_
    have manager {c : Command} (hc : c.env = []) := runManager_silent (quiet c hc) platform.profile
    unfold installPackages
    cases platform with
    | debian =>
      exact (manager rfl).bind fun _ => (manager rfl).bind fun _ => .pure missing
    | rhel => exact (manager rfl).bind fun _ => .pure missing

namespace ArchiveRequest

theorem obtain_silent (A : Agents σ) (req : ArchiveRequest) : (req.obtain A).Silent := by
  have verified (expected : String) : (req.verify expected : Work σ Unit).Silent := by
    refine .bind (fun _ => rfl) fun digest => ?_
    cases digest with
    | error e => exact fun _ => rfl
    | ok actual =>
      dsimp only
      split
      · exact .pure ()
      · exact (Work.silent_attempt _).bind fun _ _ => rfl
  unfold obtain
  split
  · exact Work.silent_note _ _ _ _
  · refine (Work.silent_note _ _ _ _).bind fun _ => (Work.silent_fetch A _ _).bind fun _ => ?_
    cases req.sha256 with
    | none => exact .pure ()
    | some expected => exact verified expected

theorem discard_silent (req : ArchiveRequest) : (req.discard : Work σ Unit).Silent := by
  unfold discard
  split
  · exact .pure ()
  · exact .bind (.of_journal fun _ => rfl) fun _ => Work.silent_attempt _

theorem ensure_silent {req : ArchiveRequest} (hu : A.toRunner.Quiet req.unzip) :
    (req.ensure A).Silent := by
  refine .bind (fun _ => rfl) fun present => ?_
  split
  · exact (Work.silent_note _ _ _ _).bind fun _ => .pure _
  · refine (req.obtain_silent A).bind fun _ => ?_
    have unpacked : (req.unpack A).Silent :=
      .bind (fun _ => rfl) fun _ => (Work.silent_run hu).onFailure req.discard_silent
    refine unpacked.bind fun _ => ?_
    split
    · exact .pure _
    · refine .bind (fun _ => rfl) fun left => ?_
      split
      · exact (Work.silent_change _).bind fun _ => .pure _
      · exact .pure _

end ArchiveRequest

namespace BootstrapPlan

variable {plan : BootstrapPlan}

theorem perform_silent (quiet : ∀ c : Command, c.env = [] → A.toRunner.Quiet c)
    (hb : A.toRunner.Quiet plan.buildCommand) (escalation : Escalation) :
    (plan.perform A escalation).Silent := by
  have phases : (plan.phases A escalation).Silent := by
    refine (ensurePackages_silent quiet plan.platform).bind fun missing => ?_
    refine (ArchiveRequest.ensure_silent (quiet _ rfl)).bind fun archive => ?_
    refine .bind (fun _ => rfl) fun _ => (Work.silent_run hb).bind fun _ => ?_
    exact .bind (fun _ => rfl) fun steps => .pure _
  refine .bind (fun _ => rfl) fun _ => ?_
  split
  · exact .bind (fun _ => rfl) fun _ => (Work.silent_note _ _ _ _).bind fun _ => phases
  · exact (Work.silent_note _ _ _ _).bind fun _ => phases

end BootstrapPlan

namespace Doctor

theorem examine_silent (A : Agents σ) (hostRoot : Path) (l : Layout) (c : Config) :
    (examine A.toRunner hostRoot l c).Silent := by
  have platform : (findPlatform? hostRoot : Work σ (Option Platform)).Silent := by
    intro w
    obtain ⟨w', hw, hfound⟩ := findPlatform?_continues A hostRoot w
    rw [hfound, World.output_of_logged hw.toLogged]
    exact String.append_empty
  have tools (ts : List (String × Option Command)) : (checkTools A.toRunner ts).Silent := by
    induction ts with
    | nil => exact .pure _
    | cons tool rest ih =>
      obtain ⟨name, _ | c⟩ := tool
      · exact ih.bind fun _ => .pure _
      · exact (Work.silent_probe A c).bind fun _ => ih.bind fun _ => .pure _
  exact platform.bind fun _ => (tools _).bind fun _ => .bind (fun _ => rfl) fun _ => .pure _

end Doctor

namespace StubRequest

theorem prepare_silent (req : StubRequest) : (req.prepare : Work σ Path).Silent := by
  unfold prepare
  split
  · exact .pure _
  · refine ((Work.silent_changeMany _).mapFailure _).bind fun _ => .bind (fun _ => rfl) fun p => ?_
    cases p <;> exact fun _ => rfl

theorem runAll_silent {commands : List Command} (hq : ∀ c ∈ commands, A.toRunner.Quiet c) :
    (runAll A.toRunner commands).Silent := by
  induction commands with
  | nil => exact .pure ()
  | cons c rest ih =>
    obtain ⟨hc, hrest⟩ := List.forall_mem_cons.mp hq
    exact (Work.silent_note _ _ _ _).bind fun _ => (Work.silent_run hc).bind fun _ => ih hrest

theorem env_of_plan {req : StubRequest} {fs : FileSystem} {outDir : Path} {files : List String}
    {commands : List Command} (h : req.plan fs outDir files = .ok commands) :
    ∀ c ∈ commands, c.env = [] := by
  intro c hc
  rcases req.plan_spec fs outDir files with ⟨e, hplan, -⟩ | ⟨commands', hplan, -, hcommands⟩
  · rw [h] at hplan
    cases hplan
  · rw [h] at hplan
    cases hplan
    have hmem := List.mem_map_of_mem (f := some) hc
    rw [hcommands] at hmem
    obtain ⟨file, -, hwords⟩ := List.mem_map.mp hmem
    cases hw : req.words outDir file with
    | nil =>
      rw [hw] at hwords
      cases hwords
    | cons program args =>
      rw [hw] at hwords
      cases hwords
      rfl

theorem generate_silent (quiet : ∀ c : Command, c.env = [] → A.toRunner.Quiet c)
    (req : StubRequest) : (req.generate A.toRunner).Silent := by
  refine req.prepare_silent.bind fun outDir => ?_
  intro w
  cases hplan : req.plan w.fs outDir req.files with
  | error e =>
    simp only [Work.bind_apply, Work.ask, hplan]
    rfl
  | ok commands =>
    have run : (runAll A.toRunner commands).Silent :=
      runAll_silent fun c hc => quiet c (env_of_plan hplan c hc)
    have rest := run.bind fun _ =>
      Work.Silent.pure (⟨outDir, commands, req.dryRun⟩ : StubReport)
    simp only [Work.bind_apply, Work.ask, hplan]
    exact rest w

end StubRequest
end
end Provision
