import Provision.Proofs.StagedRun
import Provision.Tool

namespace Provision

variable {σ α β : Type}

namespace Request

def isCommand : Request → Bool
  | .probe _ | .run _ => true
  | .fetch _ _ => false

def isProbe : Request → Bool
  | .probe _ => true
  | _ => false

end Request

namespace Work

/-- Work that changes nothing itself: all that happens to the files is the answer of an agent, and
agents are only asked for what is permitted. -/
def OnlyAsks (A : Agents σ) (P : Request → Bool) (x : Work σ α) : Prop :=
  ∀ w, ∃ calls, (x w).2.calls = w.calls ++ calls ∧ A.Served w.toSite calls (x w).2.toSite ∧
    ∀ e ∈ calls, ∃ q, e.request? = some q ∧ P q = true

variable {A : Agents σ} {P : Request → Bool} {x : Work σ α}

theorem OnlyAsks.of_silent (h : ∀ w, (x w).2.calls = w.calls ∧ (x w).2.toSite = w.toSite) :
    x.OnlyAsks A P := by
  intro w
  obtain ⟨hcalls, hsite⟩ := h w
  refine ⟨[], ?_, ?_, by simp⟩
  · rw [hcalls, List.append_nil]
  · rw [hsite]
    exact .nothing _

theorem OnlyAsks.pure (a : α) : (Pure.pure a : Work σ α).OnlyAsks A P :=
  .of_silent fun _ => ⟨rfl, rfl⟩

theorem OnlyAsks.single {q : Request} {e : Event} {w w' : World σ} {steps : List Command}
    (h : w.Continues A [e] steps w') (he : e.request? = some q) (hq : P q = true) :
    ∃ calls, w'.calls = w.calls ++ calls ∧ A.Served w.toSite calls w'.toSite ∧
      ∀ e ∈ calls, ∃ q, e.request? = some q ∧ P q = true := by
  refine ⟨[e], h.calls_eq, h.served, ?_⟩
  intro e' hmem
  rw [List.mem_singleton.mp hmem]
  exact ⟨q, he, hq⟩

theorem OnlyAsks.bind {k : α → Work σ β} (hx : x.OnlyAsks A P)
    (hk : ∀ a, (k a).OnlyAsks A P) : (x >>= k).OnlyAsks A P := by
  intro w
  obtain ⟨before, hbefore, served, only⟩ := hx w
  rw [bind_apply]
  cases hr : x w with
  | mk r w₁ =>
    rw [hr] at hbefore served
    cases r with
    | error e => exact ⟨before, hbefore, served, only⟩
    | ok a =>
      obtain ⟨calls, hcalls, served', only'⟩ := hk a w₁
      refine ⟨before ++ calls, ?_, served.append served', ?_⟩
      · rw [hcalls, hbefore, List.append_assoc]
      · intro e he
        rcases List.mem_append.mp he with he | he
        · exact only e he
        · exact only' e he

theorem OnlyAsks.mapFailure (h : x.OnlyAsks A P) (f : Failure → Failure) :
    (x.mapFailure f).OnlyAsks A P := by
  intro w
  rw [mapFailure_world]
  exact h w

theorem onlyAsks_note (area : Log.Area) (level : Log.Level) (message : String)
    (fields : List (String × String)) :
    (note area level message fields : Work σ Unit).OnlyAsks A P :=
  .of_silent fun w => ⟨calls_record_noted w _, rfl⟩

theorem onlyAsks_ofExcept (r : Except Failure α) :
    (ofExcept r : Work σ α).OnlyAsks A P := by
  cases r <;> exact .of_silent fun _ => ⟨rfl, rfl⟩

theorem onlyAsks_command (A : Agents σ) (c : Command) :
    (run A.toRunner c).OnlyAsks A Request.isCommand :=
  fun w => OnlyAsks.single (continues_run A w c) rfl rfl

theorem onlyAsks_probe (A : Agents σ) {c : Command} (h : P (.probe c) = true) :
    (probe A.toRunner c).OnlyAsks A P :=
  fun w => OnlyAsks.single (continues_probe A w c) rfl h

/-- Calls that leave the files as they are leave them so one after the other. -/
theorem served_fs {s t : Site σ} {calls : List Event} (h : A.Served s calls t)
    (only : ∀ e ∈ calls, ∃ q, e.request? = some q ∧ P q = true)
    (hfs : ∀ q s, P q = true → (A.answer s q).2.fs = s.fs) : t.fs = s.fs := by
  induction h with
  | nothing s => rfl
  | @asked s t u q e calls hq _ ih =>
    obtain ⟨q', he, hpermitted⟩ := only e List.mem_cons_self
    rw [Agents.request_of_answer hq] at he
    cases he
    have hstep := hfs q s hpermitted
    rw [hq] at hstep
    rw [ih fun e' he' => only e' (List.mem_cons_of_mem e he')]
    exact hstep

/-- Work that only asks leaves the files as they are, if whatever it may ask for does. -/
theorem OnlyAsks.fs_eq (h : x.OnlyAsks A P)
    (hfs : ∀ q s, P q = true → (A.answer s q).2.fs = s.fs) (w : World σ) :
    (x w).2.fs = w.fs := by
  obtain ⟨calls, -, served, only⟩ := h w
  exact served_fs served only hfs

end Work

def Runner.Inert (R : Runner σ) : Prop :=
  ∀ (c : Command) (s : Site σ), (R.run c s).2.fs = s.fs ∧ (R.probe c s).2.fs = s.fs

theorem Runner.Inert.answer {A : Agents σ} (h : A.toRunner.Inert) (q : Request) (s : Site σ)
    (hq : q.isCommand = true) : (A.answer s q).2.fs = s.fs := by
  cases q with
  | probe c => exact (h c s).2
  | run c => exact (h c s).1
  | fetch url target => cases hq

theorem Runner.plan_inert (answer : Bool) (failing : Option (String × Int)) :
    (Runner.plan answer failing : Runner σ).Inert := by
  intro c s
  refine ⟨?_, rfl⟩
  unfold Runner.plan
  dsimp only
  split
  · split <;> rfl
  · rfl

theorem onlyAsks_missingPackages {P : Request → Bool} (A : Agents σ)
    (profile : PlatformProfile) (packages : List String) (h : ∀ c, P (.probe c) = true) :
    (missingPackages A.toRunner profile packages).OnlyAsks A P := by
  induction packages with
  | nil => exact .pure _
  | cons package rest ih =>
    exact (Work.onlyAsks_probe A (h _)).bind fun installed => ih.bind fun missing => .pure _

theorem onlyAsks_runManager (A : Agents σ) (profile : PlatformProfile) (c : Command) :
    (runManager A.toRunner profile c).OnlyAsks A Request.isCommand :=
  .bind (.of_silent fun _ => ⟨rfl, rfl⟩) fun _ => (Work.onlyAsks_command A _).mapFailure _

theorem onlyAsks_ensurePackages (A : Agents σ) (profile : PlatformProfile) :
    (ensurePackages A.toRunner profile).OnlyAsks A Request.isCommand := by
  rw [ensurePackages_eq]
  refine (onlyAsks_missingPackages A profile profile.packages fun _ => rfl).bind fun missing => ?_
  unfold settlePackages
  split
  · exact (Work.onlyAsks_note _ _ _ _).bind fun _ => .pure missing
  · refine (Work.onlyAsks_note _ _ _ _).bind fun _ => ?_
    unfold installPackages
    have install := (onlyAsks_runManager A profile (profile.installOf missing)).bind
      fun _ => .pure missing
    cases profile.refresh with
    | none => exact install
    | some refresh => exact (onlyAsks_runManager A profile refresh).bind fun _ => install

/-- A dry archive phase fetches nothing, whatever it finds, and removes nothing when its unzip
fails. -/
theorem ArchiveRequest.onlyAsks_ensure (A : Agents σ) {req : ArchiveRequest}
    (hd : req.dryRun = true) : (req.ensure A).OnlyAsks A Request.isCommand := by
  intro w
  have course := req.ensure_course A w
  generalize (req.ensure A w).1 = r at course
  generalize (req.ensure A w).2 = w' at course ⊢
  have dry {p : Prop} (h : req.dryRun = false) : p := by
    rw [hd] at h
    cases h
  cases course with
  | present _ hw => exact ⟨[], hw.calls_eq, hw.served, by simp⟩
  | planned _ _ hw => exact Work.OnlyAsks.single hw rfl rfl
  | unplanned _ _ hw => exact Work.OnlyAsks.single hw rfl rfl
  | unfetched _ h => exact dry h
  | unreadable _ h => exact dry h
  | mismatched _ h => exact dry h
  | broken _ h => exact dry h
  | stuck _ h => exact dry h
  | downloaded _ h => exact dry h

namespace BootstrapPlan

theorem onlyAsks_perform (A : Agents σ) {plan : BootstrapPlan} (hd : plan.dryRun = true)
    (escalation : Escalation) : (plan.perform A escalation).OnlyAsks A Request.isCommand := by
  refine .bind (.of_silent fun _ => ⟨rfl, rfl⟩) fun _ => ?_
  have phases : (do
      Work.note .bootstrap .info "checking native dependencies"
        [("platform", plan.platform.profile.platform.title),
          ("manager", Log.quoted plan.platform.profile.manager)]
      plan.phases A escalation : Work σ BuildReport).OnlyAsks A Request.isCommand := by
    refine (Work.onlyAsks_note _ _ _ _).bind fun _ => ?_
    refine (onlyAsks_ensurePackages A _).bind fun missing => ?_
    refine (ArchiveRequest.onlyAsks_ensure A hd).bind fun archive => ?_
    refine .bind (.of_silent fun _ => ⟨rfl, rfl⟩) fun _ => ?_
    refine (Work.onlyAsks_command A _).bind fun _ => ?_
    exact .bind (.of_silent fun _ => ⟨rfl, rfl⟩) fun _ => .pure _
  split
  · exact .bind (.of_silent fun _ => ⟨rfl, rfl⟩) fun _ => phases
  · exact phases

/-- A dry run of a plan does not hand over and makes no change of its own. -/
theorem onlyAsks_run (A : Agents σ) {plan : BootstrapPlan} (hd : plan.dryRun = true)
    (privilege : Privilege) : (plan.run A privilege).OnlyAsks A Request.isCommand := by
  rw [run, if_neg (by simp [hd])]
  exact (onlyAsks_perform A hd privilege.decide).bind fun _ => .pure _

end BootstrapPlan

namespace StubRequest

theorem onlyAsks_runAll (A : Agents σ) (commands : List Command) :
    (runAll A.toRunner commands).OnlyAsks A Request.isCommand := by
  induction commands with
  | nil => exact .pure _
  | cons c rest ih =>
    exact (Work.onlyAsks_note _ _ _ _).bind fun _ => (Work.onlyAsks_command A _).bind fun _ => ih

theorem onlyAsks_generate (A : Agents σ) {req : StubRequest} (hd : req.dryRun = true) :
    (req.generate A.toRunner).OnlyAsks A Request.isCommand := by
  have prepared : (req.prepare : Work σ Path).OnlyAsks A Request.isCommand := by
    rw [prepare, if_pos hd]
    exact .pure _
  refine prepared.bind fun _ => .bind (.of_silent fun _ => ⟨rfl, rfl⟩) fun planned => ?_
  refine (Work.onlyAsks_ofExcept planned).bind fun commands => ?_
  exact (onlyAsks_runAll A commands).bind fun _ => .pure _

end StubRequest

theorem onlyAsks_findPlatform? {P : Request → Bool} (A : Agents σ) (hostRoot : Path) :
    (findPlatform? hostRoot : Work σ (Option Platform)).OnlyAsks A P := by
  have markers (platforms : List Platform) :
      (noteMarkers hostRoot platforms : Work σ Unit).OnlyAsks A P := by
    induction platforms with
    | nil => exact .pure _
    | cons platform rest ih => exact (Work.onlyAsks_note _ _ _ _).bind fun _ => ih
  refine .bind (.of_silent fun _ => ⟨rfl, rfl⟩) fun platforms => ?_
  exact (markers platforms).bind fun _ => .of_silent fun _ => ⟨rfl, rfl⟩

theorem onlyAsks_findPlatform {P : Request → Bool} (A : Agents σ) (hostRoot : Path) :
    (findPlatform hostRoot : Work σ Platform).OnlyAsks A P := by
  refine (onlyAsks_findPlatform? A hostRoot).bind fun platform? => ?_
  cases platform? <;> exact .of_silent fun _ => ⟨rfl, rfl⟩

namespace Doctor

theorem onlyAsks_checkTools (A : Agents σ) (tools : List (String × Option Command)) :
    (checkTools A.toRunner tools).OnlyAsks A Request.isProbe := by
  induction tools with
  | nil => exact .pure _
  | cons tool rest ih =>
    obtain ⟨name, c?⟩ := tool
    cases c? with
    | none => exact ih.bind fun _ => .pure _
    | some c => exact (Work.onlyAsks_probe (P := Request.isProbe) A rfl).bind fun _ => ih.bind fun _ => .pure _

theorem onlyAsks_examine (A : Agents σ) (hostRoot : Path) (l : Layout) (c : Config) :
    (examine A.toRunner hostRoot l c).OnlyAsks A Request.isProbe := by
  refine (onlyAsks_findPlatform? A hostRoot).bind fun platform => ?_
  refine (onlyAsks_checkTools A _).bind fun tools => ?_
  exact .bind (.of_silent fun _ => ⟨rfl, rfl⟩) fun _ => .pure _

end Doctor

namespace Task

/-- Whether an invocation is to change nothing on the host. -/
def isReadOnly : Task → Bool
  | .build _ dryRun | .protos _ dryRun => dryRun
  | .env | .doctor => true

/-- What an invocation that changes nothing may ask its agents for. -/
def permits : Task → Request → Bool
  | .build _ _ | .protos _ _ => Request.isCommand
  | .env => fun _ => false
  | .doctor => Request.isProbe

end Task

namespace Tool

theorem onlyAsks_loadConfig {P : Request → Bool} (A : Agents σ) (root : Path)
    (named : Option Path) : (loadConfig root named : Work σ Config).OnlyAsks A P := by
  refine .bind (.of_silent fun _ => ⟨rfl, rfl⟩) fun source => ?_
  have load : (Work.ask (Config.load · root named) >>= Work.ofExcept :
      Work σ Config).OnlyAsks A P :=
    .bind (.of_silent fun _ => ⟨rfl, rfl⟩) fun r => Work.onlyAsks_ofExcept r
  cases source with
  | none => exact load
  | some path => exact (Work.onlyAsks_note _ _ _ _).bind fun _ => load

theorem onlyAsks_perform (A : Agents σ) (s : Surroundings) (i : Invocation) (l : Layout)
    (c : Config) (hr : i.task.isReadOnly = true) :
    (perform A s i l c).OnlyAsks A i.task.permits := by
  unfold perform
  revert hr
  cases i.task with
  | build variant dryRun =>
    intro hr
    refine (onlyAsks_findPlatform A i.hostRoot).bind fun platform => ?_
    have dry : (buildPlan s l c platform variant dryRun).dryRun = true := hr
    exact (BootstrapPlan.onlyAsks_run A dry _).bind fun _ => .pure _
  | env =>
    intro _
    exact .pure _
  | protos compiler dryRun =>
    intro hr
    have dry : (stubRequest l c compiler dryRun).dryRun = true := hr
    exact (StubRequest.onlyAsks_generate A dry).bind fun _ => .pure _
  | doctor =>
    intro _
    exact (Doctor.onlyAsks_examine A i.hostRoot l c).bind fun _ => .pure _

theorem onlyAsks_work (A : Agents σ) (s : Surroundings) {i : Invocation}
    (hr : i.task.isReadOnly = true) : (work A s i).OnlyAsks A i.task.permits := by
  refine .bind (.of_silent fun _ => ⟨rfl, rfl⟩) fun _ => ?_
  refine (Work.onlyAsks_ofExcept _).bind fun l => ?_
  exact (onlyAsks_loadConfig A l.root i.config).bind fun c => onlyAsks_perform A s i l c hr

def runBy (doing : Agents σ) (s : Surroundings) (site : Site σ) : Finish :=
  let hostRoot := s.environment.value? Invocation.hostRootVariable
  match Invocation.parse hostRoot s.args with
  | .error r => decline hostRoot r site.fs
  | .ok i => runWith (if i.task.isReal then doing else planners) s i site

theorem run_eq_runBy (s : Surroundings) (network : Network) (fs : FileSystem) :
    run s network fs = runBy (doers s.environment network) s ⟨fs, ()⟩ := by
  unfold run runBy
  rfl

theorem runBy_of_parse {s : Surroundings} {i : Invocation}
    (hi : Invocation.parse (s.environment.value? Invocation.hostRootVariable) s.args = .ok i)
    (A : Agents σ) (x : Site σ) :
    runBy A s x = runWith (if i.task.isReal then A else planners) s i x := by
  simp only [runBy, hi]

theorem runWith_fs (A : Agents σ) (s : Surroundings) (i : Invocation) (x : Site σ) :
    (runWith A s i x).fs = (work A s i { toSite := x }).2.fs := by
  rfl

/-- Planners leave the files alone, even where a download is asked for. -/
theorem planners_inert : (planners : Agents σ).toRunner.Inert :=
  Runner.plan_inert false none

theorem runBy_eq {s : Surroundings} {i : Invocation}
    (hi : Invocation.parse (s.environment.value? Invocation.hostRootVariable) s.args = .ok i)
    (hr : i.task.isReadOnly = true) (ht : i.task ≠ .doctor) (A B : Agents σ) (x : Site σ) :
    runBy A s x = runBy B s x := by
  rw [runBy_of_parse hi, runBy_of_parse hi]
  revert hr ht
  cases htask : i.task with
  | build variant dryRun =>
    rintro rfl _
    rfl
  | protos compiler dryRun =>
    rintro rfl _
    rfl
  | doctor =>
    intro _ ht
    exact absurd rfl ht
  | env =>
    intro _ _
    -- the settings are read without the agents, and the exports need nothing else
    have hwork (A : Agents σ) : work A s i = work planners s i := by
      unfold work perform
      simp only [htask]
    simp only [Task.isReal, if_true]
    unfold runWith
    rw [hwork A, hwork B]

end Tool

/-- Runs that are to change nothing. Whatever the files and the settings look like and however the
run ends, an invocation that is dry or only reads makes no change of its own and downloads nothing:
a dry run leaves it to agents that start no process, an export asks nobody at all, and an
examination asks questions only. Dry runs of a bootstrap plan and of a stub request are no different
with agents of any kind, and leave the files alone if the runner does. -/
theorem read_only_runs_change_nothing :
    (∀ (s : Surroundings) (i : Invocation),
      Invocation.parse (s.environment.value? Invocation.hostRootVariable) s.args = .ok i →
      i.task.isReadOnly = true →
        (∀ {σ : Type} (A : Agents σ), (Tool.work A s i).OnlyAsks A i.task.permits) ∧
        (i.task ≠ .doctor →
          (∀ {σ : Type} (A B : Agents σ) (x : Site σ), Tool.runBy A s x = Tool.runBy B s x) ∧
          ∀ network fs, (Tool.run s network fs).fs = fs) ∧
        (i.task = .doctor → ∀ network fs, ∃ calls t,
          (Tool.doers s.environment network).Served ⟨fs, ()⟩ calls t ∧
          (∀ e ∈ calls, ∃ c, e.request? = some (.probe c)) ∧
          (Tool.run s network fs).fs = t.fs)) ∧
    (∀ {σ : Type} (A : Agents σ) (plan : BootstrapPlan) (privilege : Privilege),
      plan.dryRun = true → (plan.run A privilege).OnlyAsks A Request.isCommand ∧
        (A.toRunner.Inert → ∀ w, (plan.run A privilege w).2.fs = w.fs)) ∧
    (∀ {σ : Type} (A : Agents σ) (req : StubRequest),
      req.dryRun = true → (req.generate A.toRunner).OnlyAsks A Request.isCommand ∧
        (A.toRunner.Inert → ∀ w, (req.generate A.toRunner w).2.fs = w.fs)) := by
  refine ⟨?_, ?_, ?_⟩
  · intro s i hi hr
    refine ⟨fun A => Tool.onlyAsks_work A s hr, ?_, ?_⟩
    · intro ht
      refine ⟨Tool.runBy_eq hi hr ht, fun network fs => ?_⟩
      have hwork := Tool.onlyAsks_work (Tool.planners : Agents Unit) s hr
      have hrun : Tool.run s network fs = Tool.runWith Tool.planners s i ⟨fs, ()⟩ := by
        rw [Tool.run_eq_runBy, Tool.runBy_eq hi hr ht _ Tool.planners, Tool.runBy_of_parse hi,
          ite_self]
      rw [hrun, Tool.runWith_fs]
      refine hwork.fs_eq (fun q x hq => Tool.planners_inert.answer q x ?_) _
      cases htask : i.task with
      | build => rwa [htask] at hq
      | protos => rwa [htask] at hq
      | env =>
        rw [htask] at hq
        cases hq
      | doctor => exact absurd htask ht
    · intro ht network fs
      have hrun : Tool.run s network fs =
          Tool.runWith (Tool.doers s.environment network) s i ⟨fs, ()⟩ := by
        rw [Tool.run_eq_runBy, Tool.runBy_of_parse hi, ht]
        rfl
      obtain ⟨calls, -, served, only⟩ :=
        Tool.onlyAsks_work (Tool.doers s.environment network) s hr { toSite := ⟨fs, ()⟩ }
      refine ⟨calls, _, served, fun e he => ?_, by rw [hrun, Tool.runWith_fs]⟩
      obtain ⟨q, hq, hprobe⟩ := only e he
      rw [ht] at hprobe
      cases q with
      | probe c => exact ⟨c, hq⟩
      | run c => cases hprobe
      | fetch url target => cases hprobe
  · intro σ A plan privilege hd
    have asks := BootstrapPlan.onlyAsks_run A hd privilege
    exact ⟨asks, fun inert w => asks.fs_eq inert.answer w⟩
  · intro σ A req hd
    have asks := StubRequest.onlyAsks_generate A hd
    exact ⟨asks, fun inert w => asks.fs_eq inert.answer w⟩

/-- A dry build that plans everything there is to do, in a workspace that it leaves as it was. -/
theorem planned_build_changes_nothing :
    let s : Surroundings :=
      { executable := ⟨"/usr/bin/bastion-dev"⟩, args := ["--root", "/w", "build", "--dry-run"] }
    let i : Invocation := { root := ⟨"/w"⟩, task := .build none true }
    let fs : FileSystem := { entries := [(["w"], .directory), (["etc"], .directory),
      (["etc", "debian_version"], .file .empty false)] }
    Invocation.parse (s.environment.value? Invocation.hostRootVariable) s.args = .ok i ∧
      i.task.isReadOnly = true ∧ (Tool.run s .unreachable fs).status = 0 ∧
      (Tool.run s .unreachable fs).fs = fs := by
  intro s i fs
  have hi : Invocation.parse (s.environment.value? Invocation.hostRootVariable) s.args = .ok i := by
    decide +kernel
  refine ⟨hi, rfl, by decide +kernel, ?_⟩
  obtain ⟨-, frame, -⟩ := read_only_runs_change_nothing.1 s i hi rfl
  exact (frame (by simp [i])).2 .unreachable fs

end Provision
