import Provision.Proofs.ChildFailure
import Provision.Proofs.Envelopes
import Provision.Proofs.Escalation
import Provision.Proofs.ReadOnly
import Provision.Proofs.Silence

namespace Provision

variable {σ α : Type}

namespace Surroundings

def IsReinvocation (s : Surroundings) (c : Command) : Prop :=
  ∃ helper, c = reinvocation helper s.executable s.args

variable {s : Surroundings} {c : Command}

theorem IsReinvocation.env (h : s.IsReinvocation c) : c.env = [(escalatedVariable, "1")] := by
  obtain ⟨helper, rfl⟩ := h
  exact env_reinvocation helper s.executable s.args

theorem IsReinvocation.cwd (h : s.IsReinvocation c) : c.cwd = none := by
  obtain ⟨helper, rfl⟩ := h
  exact cwd_reinvocation helper s.executable s.args

end Surroundings

/-- No command but a reinvocation writes on standard output. -/
def Runner.QuietFor (R : Runner σ) (s : Surroundings) : Prop :=
  ∀ c, ¬ s.IsReinvocation c → R.Quiet c

theorem Runner.QuietFor.of_env {R : Runner σ} {s : Surroundings} (h : R.QuietFor s) (c : Command)
    (hc : c.env = []) : R.Quiet c := by
  refine h c fun hr => ?_
  rw [hr.env] at hc
  cases hc

namespace Tool

variable {A : Agents σ} {s : Surroundings} {i : Invocation}

/-- The run of a child that takes over from a process: the tool with the same arguments, in the
environment of the process with the variables of the command on top. -/
inductive TakesOver (s : Surroundings) (c : Command) (x : Site σ) : Finish → Prop
  | run {child : Surroundings} {B : Agents σ} (args : child.args = s.args)
    (environment : child.environment = s.environment ++ c.env) (quiet : B.toRunner.QuietFor child) :
    TakesOver s c x (runBy B child x)

/-- Agents on a host where a reinvocation runs the tool to its end, unless no child is started, and
where no other command writes on standard output. -/
structure StartsChildren (A : Agents σ) (s : Surroundings)
    (child : Command → Site σ → Option Finish) : Prop where
  quiet : A.toRunner.QuietFor s
  started {c : Command} {x : Site σ} {f : Finish} (hc : s.IsReinvocation c)
    (hf : child c x = some f) : TakesOver s c x f ∧
      (A.run c x).1.1 = Host.resultOf c.program (.exited f.status) ∧
      (A.run c x).1.2.out = f.printed.out
  unstarted {c : Command} {x : Site σ} (hc : s.IsReinvocation c) (hf : child c x = none) :
    (∃ e, (A.run c x).1.1 = .error e) ∧ (A.run c x).1.2.out = ""

/-- The reinvocation that an invocation comes to: a real build without the privileges for it, with a
root, settings and a platform that can be found. -/
def reinvocation? (s : Surroundings) (i : Invocation) (fs : FileSystem) : Option Command :=
  match i.task, Layout.resolve fs i.root with
  | .build _ false, .ok l =>
    match Config.load fs l.root i.config, Platform.detect? fs i.hostRoot with
    | .ok c, some _ =>
      if s.privilege.decide = .reinvoke then
        some (reinvocation c.privilege.helper s.executable s.args)
      else none
    | _, _ => none
  | _, _ => none

theorem loadConfig_continues (A : Agents σ) (root : Path) (named : Option Path) (w : World σ) :
    ∃ w', w.Continues A [] [] w' ∧ loadConfig root named w = (Config.load w.fs root named, w') := by
  have load (w : World σ) : (Work.ask (Config.load · root named) >>= Work.ofExcept) w =
      (Config.load w.fs root named, w) := by
    rw [Work.bind_apply, Work.ask]
    cases Config.load w.fs root named <;> rfl
  have hsource : Work.ask (Config.source? · root named) w =
    (.ok (Config.source? w.fs root named), w) := rfl
  rw [loadConfig, Work.bind_of_ok hsource]
  cases Config.source? w.fs root named with
  | none => exact ⟨w, .refl A w, load w⟩
  | some path => exact ⟨_, Work.continues_note A w .config .debug _ _, load _⟩

/-- A run without a root or without settings asks nothing; any other comes to its task. -/
theorem work_cases (A : Agents σ) (s : Surroundings) (i : Invocation) (w : World σ) :
    ∃ w₀, w.Continues A [] [] w₀ ∧
      match Layout.resolve w.fs i.root with
      | .error e => work A s i w = (.error e, w₀)
      | .ok l =>
        match Config.load w.fs l.root i.config with
        | .error e => work A s i w = (.error e, w₀)
        | .ok c => work A s i w = perform A s i l c w₀ := by
  have hask : Work.ask (Layout.resolve · i.root) w = (.ok (Layout.resolve w.fs i.root), w) := rfl
  rw [work, Work.bind_of_ok hask]
  cases Layout.resolve w.fs i.root with
  | error e => exact ⟨w, .refl A w, rfl⟩
  | ok l =>
    obtain ⟨w₀, hw, hload⟩ := loadConfig_continues A l.root i.config w
    refine ⟨w₀, hw, ?_⟩
    have hl : Work.ofExcept (.ok l) w = (.ok l, w) := rfl
    dsimp only
    rw [Work.bind_of_ok hl]
    cases hc : Config.load w.fs l.root i.config with
    | error e =>
      rw [hc] at hload
      exact Work.bind_of_error hload _
    | ok c =>
      rw [hc] at hload
      exact Work.bind_of_ok hload _

theorem replied_ne_delegated (x : Work σ α) {f : α → Reply} (hf : ∀ a, f a ≠ .delegated)
    (w : World σ) : ((x >>= fun a => pure (f a)) w).1 ≠ .ok .delegated := by
  cases hx : x w with
  | mk r w' =>
    cases r with
    | error e =>
      rw [Work.bind_of_error hx]
      nofun
    | ok a =>
      rw [Work.bind_of_ok hx]
      exact fun hdone => hf a (Except.ok.inj hdone)

/-- A build that does not hand over replies itself, and nobody writes anything before that. -/
theorem build_own {hostRoot : Path} {l : Layout} {c : Config} {variant : Option Variant}
    {dryRun : Bool} {w : World σ}
    (h : dryRun = false → s.privilege.decide = .reinvoke → Platform.detect? w.fs hostRoot = none) :
    (build A s hostRoot l c variant dryRun w).1 ≠ .ok .delegated ∧
      (A.toRunner.QuietFor s → (build A s hostRoot l c variant dryRun w).2.output = w.output) := by
  obtain ⟨w₀, hw, hbuild⟩ := build_cases A s hostRoot l c variant dryRun w
  have hout : w₀.output = w.output :=
    (World.output_of_logged hw.toLogged).trans String.append_empty
  cases hp : Platform.detect? w.fs hostRoot with
  | none =>
    simp only [hp] at hbuild
    rw [hbuild]
    exact ⟨nofun, fun _ => hout⟩
  | some platform =>
    simp only [hp] at hbuild
    rw [hbuild]
    let plan := buildPlan s l c platform variant dryRun
    have hown : s.privilege.decide = .reinvoke → plan.dryRun = true := by
      intro hr
      cases hd : dryRun with
      | true => exact hd
      | false =>
        have hnone := h hd hr
        rw [hp] at hnone
        cases hnone
    obtain ⟨hresult, hworld⟩ := BootstrapPlan.run_performed A plan hown w₀
    constructor
    · rw [hresult]
      cases (plan.perform A s.privilege.decide w₀).1 with
      | error e => nofun
      | ok report => nofun
    · intro hA
      have hb : A.toRunner.Quiet plan.buildCommand := hA _ fun hr => nomatch hr.cwd
      rw [hworld, BootstrapPlan.perform_silent hA.of_env hb _ w₀, hout]

/-- A task that does not hand over replies itself, and nobody writes anything before that. -/
theorem perform_own {l : Layout} {c : Config} {w : World σ}
    (h : (∃ variant, i.task = .build variant false) → s.privilege.decide = .reinvoke →
      Platform.detect? w.fs i.hostRoot = none) :
    (perform A s i l c w).1 ≠ .ok .delegated ∧
      (A.toRunner.QuietFor s → (perform A s i l c w).2.output = w.output) := by
  unfold perform
  cases htask : i.task with
  | env => exact ⟨nofun, fun _ => rfl⟩
  | protos compiler dryRun =>
    have hf (report : StubReport) : Reply.stubs report ≠ .delegated := nofun
    refine ⟨replied_ne_delegated _ hf w, fun hA => ?_⟩
    exact ((StubRequest.generate_silent hA.of_env _).bind fun _ => .pure _) w
  | doctor =>
    have hf (report : DoctorReport) : Reply.health report ≠ .delegated := nofun
    refine ⟨replied_ne_delegated _ hf w, fun _ => ?_⟩
    exact ((Doctor.examine_silent A i.hostRoot l c).bind fun _ => .pure _) w
  | build variant dryRun =>
    refine build_own fun hd => h ⟨variant, ?_⟩
    rw [htask, hd]

theorem work_own (A : Agents σ) (w : World σ) (h : reinvocation? s i w.fs = none) :
    (work A s i w).1 ≠ .ok .delegated ∧
      (A.toRunner.QuietFor s → (work A s i w).2.output = w.output) := by
  obtain ⟨w₀, hw, hwork⟩ := work_cases A s i w
  have hsite : w.toSite = w₀.toSite := hw.after
  have hout : w₀.output = w.output :=
    (World.output_of_logged hw.toLogged).trans String.append_empty
  cases hl : Layout.resolve w.fs i.root with
  | error e =>
    simp only [hl] at hwork
    rw [hwork]
    exact ⟨nofun, fun _ => hout⟩
  | ok l =>
    simp only [hl] at hwork
    cases hc : Config.load w.fs l.root i.config with
    | error e =>
      simp only [hc] at hwork
      rw [hwork]
      exact ⟨nofun, fun _ => hout⟩
    | ok c =>
      simp only [hc] at hwork
      rw [hwork, ← hout]
      refine perform_own ?_
      rintro ⟨variant, htask⟩ hr
      rw [← hsite]
      cases hp : Platform.detect? w.fs i.hostRoot with
      | none => rfl
      | some platform => simp [reinvocation?, htask, hl, hc, hp, hr] at h

/-- A run that makes a reinvocation asks for nothing else, and replies for its child if that
succeeds. -/
theorem work_handed_over (A : Agents σ) (w : World σ) {c : Command}
    (h : reinvocation? s i w.fs = some c) :
    s.IsReinvocation c ∧ i.task.isReal = true ∧
      (work A s i w).2.output = w.output ++ (A.run c w.toSite).1.2.out ∧
      ∃ plan : BootstrapPlan, (work A s i w).1 =
        ((A.run c w.toSite).1.1.map fun _ => .delegated).mapError plan.asEscalationFailure := by
  unfold reinvocation? at h
  split at h
  case h_2 => cases h
  rename_i variant l htask hl
  split at h
  case h_2 => cases h
  rename_i cfg platform hc hp
  split at h
  case isFalse => cases h
  rename_i hr
  cases h
  -- only notes lie before the run of the plan, so it starts at the same site
  obtain ⟨w₀, hw, hwork⟩ := work_cases A s i w
  obtain ⟨w₁, hw₁, hbuild⟩ := build_cases A s i.hostRoot l cfg variant false w₀
  have hsite : w.toSite = w₀.toSite := hw.after
  have hsite₁ : w.toSite = w₁.toSite := hsite.trans hw₁.after
  let plan := buildPlan s l cfg platform variant false
  have hreal : plan.dryRun = false := rfl
  obtain ⟨result, printed, hrun, hdone⟩ := BootstrapPlan.run_escalated A hr hreal w₁
  have hanswer := congrArg Prod.fst hrun.ran
  rw [← hsite₁] at hanswer
  obtain ⟨-, hresult, hprinted⟩ := Event.ran.inj hanswer
  have hcommand : (A.run (reinvocation cfg.privilege.helper s.executable s.args) w.toSite).1 =
    (result, printed) := Prod.ext hresult hprinted
  simp only [hl, hc] at hwork
  rw [← hsite, hp] at hbuild
  have hwhole : work A s i w = ((plan.run A s.privilege w₁).1.map .ofOutcome,
      (plan.run A s.privilege w₁).2) := by
    rw [hwork, perform, htask]
    exact hbuild
  rw [hcommand, hwhole]
  refine ⟨⟨_, rfl⟩, by rw [htask]; rfl, ?_, plan, ?_⟩
  · rw [World.output_of_logged ((hw.trans hw₁).trans hrun).toLogged]
    simp [Log.outputText]
  · rw [hdone]
    cases result <;> rfl

/-- What a run has written on standard output is what its commands wrote, if they were processes,
and then what it prints itself. -/
theorem finish_out (filter : Log.Filter) (i : Invocation) (r : Except Failure Reply)
    (w : World σ) :
    (finish filter i r w).printed.out = (if i.task.isReal then w.output else "") ++
      match r with
      | .ok reply => reply.printed i.json
      | .error e => (e.printed i.json).out := by
  have hbefore : (Log.transcript filter i.task.isReal w.journal).out =
      if i.task.isReal then w.output else "" := by
    cases i.task.isReal with
    | true => rfl
    | false =>
      have hnothing (e : Event) : Log.outputText false e = "" := by cases e <;> rfl
      have hall (journal : List Event) : String.join (journal.map (Log.outputText false)) = "" := by
        induction journal with
        | nil => rfl
        | cons e rest ih => rw [List.map_cons, String.join_cons, hnothing, ih, String.empty_append]
      exact hall w.journal
  rw [← hbefore]
  cases r <;> rfl

theorem processStatus_ne_zero (e : Failure) : e.processStatus ≠ 0 := by
  have hprocess := processStatus_eq e
  omega

/-- A run that replies itself, or fails, prints one envelope, which says whether it succeeded. -/
theorem finish_reports (hj : i.json = true) {r : Except Failure Reply} (hr : r ≠ .ok .delegated)
    (filter : Log.Filter) (w : World σ) :
    ∃ own, Envelope (decide ((finish filter i r w).status = 0)) own ∧
      (finish filter i r w).printed.out = (if i.task.isReal then w.output else "") ++ own := by
  rw [finish_out, hj]
  cases r with
  | error e =>
    refine ⟨_, ?_, rfl⟩
    rw [show (finish filter i (.error e) w).status = e.processStatus from rfl,
      decide_eq_false (processStatus_ne_zero e)]
    exact .failure e.code e.message
  | ok reply =>
    refine ⟨_, ?_, rfl⟩
    rw [show (finish filter i (.ok reply) w).status = 0 from rfl]
    cases reply with
    | delegated => exact absurd rfl hr
    | build report => exact .success report.toJson
    | stubs report => exact .success report.toJson
    | exports vars => exact .success (.array (vars.map Variable.toJson))
    | health report => exact .success report.toJson

theorem envelope_of_own {x : Site σ}
    (hi : Invocation.parse (s.environment.value? Invocation.hostRootVariable) s.args = .ok i)
    (hj : i.json = true) (hA : A.toRunner.QuietFor s) (h : reinvocation? s i x.fs = none) :
    Envelope (decide ((runBy A s x).status = 0)) (runBy A s x).printed.out := by
  rw [runBy_of_parse hi]
  have hquiet : (if i.task.isReal then A else planners).toRunner.QuietFor s := by
    split
    · exact hA
    · exact fun _ _ _ => rfl
  generalize (if i.task.isReal then A else planners) = B at hquiet
  obtain ⟨hreplied, hout⟩ := work_own B { toSite := x } h
  obtain ⟨own, henvelope, hprinted⟩ :=
    finish_reports hj hreplied (logFilter s i) (work B s i { toSite := x }).2
  have hnothing : (work B s i { toSite := x }).2.output = "" := hout hquiet
  rw [hnothing, ite_self, String.empty_append] at hprinted
  rw [runWith, hprinted]
  exact henvelope

theorem reinvocation?_of_privileged {fs : FileSystem} (h : s.privilege.decide ≠ .reinvoke) :
    reinvocation? s i fs = none := by
  unfold reinvocation?
  split
  · split
    · rw [if_neg h]
    · rfl
  · rfl

/-- A child reads the same invocation, and does not hand over again, so it writes one envelope. -/
theorem TakesOver.envelope {c : Command} {x : Site σ} {f : Finish} (h : TakesOver s c x f)
    (hc : s.IsReinvocation c)
    (hi : Invocation.parse (s.environment.value? Invocation.hostRootVariable) s.args = .ok i)
    (hj : i.json = true) : Envelope (decide (f.status = 0)) f.printed.out := by
  cases h with
  | @run child B args environment quiet =>
    have henv : child.environment = s.environment ++ [(escalatedVariable, "1")] := by
      rw [environment, hc.env]
    have hroot : child.environment.value? Invocation.hostRootVariable =
        s.environment.value? Invocation.hostRootVariable := by
      have hne : (escalatedVariable = Invocation.hostRootVariable) = False := by decide
      simp [henv, Environment.value?, hne]
    have hprivileged : child.privilege.decide ≠ .reinvoke := by
      have holds : child.environment.Holds (reinvocation [] s.executable s.args).env := by
        rw [henv, env_reinvocation]
        exact Environment.holds_on_top _ _
      exact decide_ne_reinvoke holds child.isRoot
    refine envelope_of_own ?_ hj quiet (reinvocation?_of_privileged hprivileged)
    rw [hroot, args]
    exact hi

/-- A run that hands over adds nothing to what its child wrote if that succeeded, and its own report
of the failure otherwise. -/
theorem handed_over_reports (A : Agents σ) {c : Command} {x : Site σ}
    (hi : Invocation.parse (s.environment.value? Invocation.hostRootVariable) s.args = .ok i)
    (hj : i.json = true) (hre : reinvocation? s i x.fs = some c) :
    s.IsReinvocation c ∧
      ((A.run c x).1.1 = .ok () →
        (runBy A s x).status = 0 ∧ (runBy A s x).printed.out = (A.run c x).1.2.out) ∧
      ∀ e, (A.run c x).1.1 = .error e → (runBy A s x).status ≠ 0 ∧
        ∃ own, Envelope false own ∧ (runBy A s x).printed.out = (A.run c x).1.2.out ++ own := by
  obtain ⟨hc, hreal, hout, plan, hresult⟩ := work_handed_over A { toSite := x } hre
  have hrun : runBy A s x = finish (logFilter s i) i (work A s i { toSite := x }).1
      (work A s i { toSite := x }).2 := by
    rw [runBy_of_parse hi, hreal]
    rfl
  have hwritten : (if i.task.isReal then (work A s i { toSite := x }).2.output else "") =
      (A.run c x).1.2.out := by
    rw [hreal, hout]
    exact String.empty_append
  refine ⟨hc, fun hok => ?_, fun e he => ?_⟩
  · have hdone : (work A s i { toSite := x }).1 = .ok .delegated := by
      rw [hresult, hok]
      rfl
    rw [hrun, finish_out, hwritten, hdone, hj]
    exact ⟨rfl, String.append_empty⟩
  · have hfailed : (work A s i { toSite := x }).1 = .error (plan.asEscalationFailure e) := by
      rw [hresult, he]
      rfl
    have hstatus : (runBy A s x).status ≠ 0 := by
      rw [hrun, hfailed]
      exact processStatus_ne_zero _
    have hreplied : (work A s i { toSite := x }).1 ≠ .ok .delegated := by
      rw [hfailed]
      nofun
    obtain ⟨own, henvelope, hprinted⟩ :=
      finish_reports hj hreplied (logFilter s i) (work A s i { toSite := x }).2
    rw [← hrun, decide_eq_false hstatus] at henvelope
    rw [← hrun, hwritten] at hprinted
    exact ⟨hstatus, own, henvelope, hprinted⟩

section

variable {child : Command → Site σ → Option Finish} {c : Command} {x : Site σ} {f : Finish}

theorem unstarted_reports (hA : StartsChildren A s child)
    (hi : Invocation.parse (s.environment.value? Invocation.hostRootVariable) s.args = .ok i)
    (hj : i.json = true) (hre : reinvocation? s i x.fs = some c) (hchild : child c x = none) :
    Envelopes [decide ((runBy A s x).status = 0)] (runBy A s x).printed.out := by
  obtain ⟨hc, -, failing⟩ := handed_over_reports A hi hj hre
  obtain ⟨⟨e, he⟩, hnothing⟩ := hA.unstarted hc hchild
  obtain ⟨hstatus, own, henvelope, hprinted⟩ := failing e he
  rw [hprinted, hnothing, String.empty_append, decide_eq_false hstatus]
  exact .one henvelope

theorem succeeding_child_reports (hA : StartsChildren A s child)
    (hi : Invocation.parse (s.environment.value? Invocation.hostRootVariable) s.args = .ok i)
    (hj : i.json = true) (hre : reinvocation? s i x.fs = some c) (hchild : child c x = some f)
    (hf : f.status = 0) :
    Envelopes [decide ((runBy A s x).status = 0)] (runBy A s x).printed.out := by
  obtain ⟨hc, succeeding, -⟩ := handed_over_reports A hi hj hre
  obtain ⟨takes, hended, hout⟩ := hA.started hc hchild
  have henvelope := takes.envelope hc hi hj
  have hok : (A.run c x).1.1 = .ok () := by
    rw [hended, hf]
    rfl
  obtain ⟨hstatus, hprinted⟩ := succeeding hok
  rw [hprinted, hout, decide_eq_true hstatus, ← decide_eq_true hf]
  exact .one henvelope

theorem failing_child_reports (hA : StartsChildren A s child)
    (hi : Invocation.parse (s.environment.value? Invocation.hostRootVariable) s.args = .ok i)
    (hj : i.json = true) (hre : reinvocation? s i x.fs = some c) (hchild : child c x = some f)
    (hf : f.status ≠ 0) :
    (runBy A s x).status ≠ 0 ∧ Envelopes [false, false] (runBy A s x).printed.out := by
  obtain ⟨hc, -, failing⟩ := handed_over_reports A hi hj hre
  obtain ⟨takes, hended, hout⟩ := hA.started hc hchild
  have henvelope := takes.envelope hc hi hj
  rw [decide_eq_false hf] at henvelope
  have hunsuccessful : (Host.Ending.exited f.status).isSuccess = false := by
    simpa [Host.Ending.isSuccess] using hf
  have he : (A.run c x).1.1 = .error (.ofFault (.childFailed c.program f.status)) := by
    rw [hended, Host.resultOf, hunsuccessful]
    rfl
  obtain ⟨hstatus, own, henvelope', hprinted⟩ := failing _ he
  rw [hprinted, hout]
  exact ⟨hstatus, .two henvelope henvelope'⟩

end

def childUnder (helper : List String) (s : Surroundings) : Surroundings :=
  { s with
    environment := s.environment ++ (reinvocation helper s.executable s.args).env
    isRoot := true }

def finishUnder (helper : List String) (s : Surroundings) (B : Agents σ) (c : Command)
    (x : Site σ) : Option Finish :=
  if c = reinvocation helper s.executable s.args then some (runBy B (childUnder helper s) x)
  else none

def helperOnly (helper : List String) (s : Surroundings) (B : Agents σ) : Agents σ where
  run c x :=
    match finishUnder helper s B c x with
    | some f =>
      ((Host.resultOf c.program (.exited f.status), f.printed), { x with fs := f.fs })
    | none =>
      ((.error ((Failure.ofIo .noEntry).withContext ("failed to spawn " ++ c.program)), {}), x)
  probe _ x := (false, x)
  fetch := (Fetcher.idle : Fetcher σ).fetch

theorem helperOnly_startsChildren (helper : List String) (s : Surroundings) {B : Agents σ}
    (hB : B.toRunner.QuietFor (childUnder helper s)) :
    StartsChildren (helperOnly helper s B) s (finishUnder helper s B) where
  quiet := by
    intro c hc x
    have hnone : finishUnder helper s B c x = none := if_neg fun heq => hc ⟨helper, heq⟩
    simp only [helperOnly, hnone]
  started := by
    intro c x f _ hf
    refine ⟨?_, by simp only [helperOnly, hf], by simp only [helperOnly, hf]⟩
    unfold finishUnder at hf
    split at hf
    · rename_i heq
      cases hf
      subst heq
      exact .run rfl rfl hB
    · cases hf
  unstarted := by
    intro c x _ hf
    simp only [helperOnly, hf]
    exact ⟨⟨_, rfl⟩, trivial⟩

/-- A build in `/w` that has not the privileges for it. -/
def unprivilegedBuild : Surroundings where
  executable := ⟨"/usr/bin/bastion-dev"⟩
  args := ["--root", "/w", "--json", "build"]

def unprivilegedInvocation : Invocation where
  json := true
  root := ⟨"/w"⟩
  task := .build none false

def furnishedWorkspace : Site Unit where
  fs := {
    entries := [(["w"], .directory), (["w", "libtorch"], .directory), (["etc"], .directory),
      (["etc", "debian_version"], .file .empty false)] }
  agent := ()

def failingAt (failing : Option (String × Int)) : Agents Unit :=
  { Runner.plan false failing, Fetcher.idle with }

theorem failingAt_quiet (failing : Option (String × Int)) (c : Command) :
    (failingAt failing).toRunner.Quiet c := by
  intro x
  unfold failingAt Runner.plan
  dsimp only
  split
  · split <;> rfl
  · rfl

/-- One envelope for each run that does not fail in its child. Where a reinvocation runs the tool
and no other command writes on standard output, all that a run and its child write there is one
envelope, which says whether the run succeeded, unless the run handed over to a child that failed.
In that case both of them report the failure. -/
theorem one_envelope_unless_child_fails {child : Command → Site σ → Option Finish}
    (hA : StartsChildren A s child)
    (hi : Invocation.parse (s.environment.value? Invocation.hostRootVariable) s.args = .ok i)
    (hj : i.json = true) (x : Site σ) :
    let run := runBy A s x
    let childFailed := ∃ c f, reinvocation? s i x.fs = some c ∧ child c x = some f ∧ f.status ≠ 0
    (Envelopes [decide (run.status = 0)] run.printed.out ↔ ¬ childFailed) ∧
      (childFailed → run.status ≠ 0 ∧ Envelopes [false, false] run.printed.out) := by
  intro run childFailed
  have two : childFailed → run.status ≠ 0 ∧ Envelopes [false, false] run.printed.out := by
    rintro ⟨c, f, hre, hchild, hf⟩
    exact failing_child_reports hA hi hj hre hchild hf
  refine ⟨⟨fun one hfailed => ?_, fun hnot => ?_⟩, two⟩
  · nomatch (List.cons.inj (one.unique (two hfailed).2)).2
  · cases hre : reinvocation? s i x.fs with
    | none => exact .one (envelope_of_own hi hj hA.quiet hre)
    | some c =>
      cases hchild : child c x with
      | none => exact unstarted_reports hA hi hj hre hchild
      | some f =>
        by_cases hf : f.status = 0
        · exact succeeding_child_reports hA hi hj hre hchild hf
        · exact absurd ⟨c, f, hre, hchild, hf⟩ hnot

/-- A build that succeeds in the child that `sudo` starts: the child's envelope is all there is. -/
theorem delegated_build_reported_once :
    let s := unprivilegedBuild
    let helper := ["sudo", "-E"]
    let B := failingAt none
    let x := furnishedWorkspace
    StartsChildren (helperOnly helper s B) s (finishUnder helper s B) ∧
      Invocation.parse (s.environment.value? Invocation.hostRootVariable) s.args =
        .ok unprivilegedInvocation ∧
      (reinvocation? s unprivilegedInvocation x.fs).isSome = true ∧
      (runBy (helperOnly helper s B) s x).status = 0 ∧
      Envelopes [true] (runBy (helperOnly helper s B) s x).printed.out := by
  intro s helper B x
  have hA : StartsChildren (helperOnly helper s B) s (finishUnder helper s B) :=
    helperOnly_startsChildren helper s fun c _ => failingAt_quiet none c
  have hi : Invocation.parse (s.environment.value? Invocation.hostRootVariable) s.args =
      .ok unprivilegedInvocation := by
    decide +kernel
  have hchild : (runBy B (childUnder helper s) x).status = 0 := by decide +kernel
  have hstatus : (runBy (helperOnly helper s B) s x).status = 0 := by decide +kernel
  obtain ⟨hone, -⟩ := one_envelope_unless_child_fails hA hi rfl x
  refine ⟨hA, hi, by decide +kernel, hstatus, ?_⟩
  rw [← decide_eq_true hstatus]
  refine hone.mpr ?_
  rintro ⟨c, f, -, hf, hne⟩
  unfold finishUnder at hf
  split at hf
  · cases hf
    exact hne hchild
  · cases hf

/-- A build whose installation fails in the child: there are two envelopes on standard output, the
child's and that of its parent. -/
theorem failed_child_reported_twice :
    let s := unprivilegedBuild
    let helper := ["sudo", "-E"]
    let B := failingAt (some ("apt-get", 100))
    let run := runBy (helperOnly helper s B) s furnishedWorkspace
    StartsChildren (helperOnly helper s B) s (finishUnder helper s B) ∧
      Invocation.parse (s.environment.value? Invocation.hostRootVariable) s.args =
        .ok unprivilegedInvocation ∧
      unprivilegedInvocation.json = true ∧ run.status = 100 ∧
      Envelopes [false, false] run.printed.out ∧ ∀ ok, ¬ Envelopes [ok] run.printed.out := by
  intro s helper B run
  have htwo : Envelopes [false, false] run.printed.out := by
    have child := Envelope.failure "PACKAGE_INSTALL"
      "apt-get failed to install packages (exit status 100)"
    have parent := Envelope.failure "CHILD_FAILED" "sudo exited with status 100"
    refine cast (congrArg (Envelopes [false, false]) ?_) (.two child parent)
    decide +kernel
  refine ⟨helperOnly_startsChildren helper s fun c _ => failingAt_quiet _ c, by decide +kernel, rfl,
    by decide +kernel, htwo, ?_⟩
  intro ok hone
  nomatch (List.cons.inj (hone.unique htwo)).2

end Tool
end Provision
