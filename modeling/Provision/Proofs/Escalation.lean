import Provision.Proofs.StagedRun

namespace Provision

variable {σ : Type}

namespace Environment

/-- The variables are set to these values, whatever else is set. -/
def Holds (env vars : Environment) : Prop := ∀ x ∈ vars, env.value? x.1 = some x.2

theorem holds_on_top (other : Environment) (x : String × String) : (other ++ [x]).Holds [x] := by
  intro y hy
  cases List.mem_singleton.mp hy
  simp [value?]

theorem isSet_of_holds {env vars : Environment} {name value : String} (h : env.Holds vars)
    (hmem : (name, value) ∈ vars) (hne : value ≠ "") : env.isSet name = true := by
  rw [isSet, h _ hmem]
  simpa using hne

end Environment

/-- The child gets the helper's words, the executable and all the arguments of its parent. -/
theorem words_reinvocation (helper : List String) (executable : Path) (args : List String) :
    (reinvocation helper executable args).words = helper ++ [executable.text] ++ args := by
  cases helper <;> rfl

theorem env_reinvocation (helper : List String) (executable : Path) (args : List String) :
    (reinvocation helper executable args).env = [(escalatedVariable, "1")] := by
  cases helper <;> rfl

theorem cwd_reinvocation (helper : List String) (executable : Path) (args : List String) :
    (reinvocation helper executable args).cwd = none := by
  cases helper <;> rfl

theorem decide_ne_reinvoke {env : Environment} {helper : List String} {executable : Path}
    {args : List String} (h : env.Holds (reinvocation helper executable args).env)
    (isRoot : Bool) : (Privilege.ofEnvironment isRoot env).decide ≠ .reinvoke := by
  have hset : env.isSet escalatedVariable = true := by
    rw [env_reinvocation] at h
    exact Environment.isSet_of_holds h (List.mem_singleton_self _) (by simp)
  unfold Privilege.decide Privilege.ofEnvironment
  rw [hset]
  dsimp only
  split
  · simp
  · split <;> simp

structure Reinvokes (parent child : Surroundings) : Prop where
  decided : parent.privilege.decide = .reinvoke
  passed : ∃ helper,
    child.environment.Holds (reinvocation helper parent.executable parent.args).env

inductive ReinvokesIn : Nat → Surroundings → Surroundings → Prop
  | start (p : Surroundings) : ReinvokesIn 0 p p
  | next {n : Nat} {p q r : Surroundings} (h : ReinvokesIn n p q) (hr : Reinvokes q r) :
    ReinvokesIn (n + 1) p r

theorem Reinvokes.last {p q r : Surroundings} (h : Reinvokes p q) : ¬ Reinvokes q r := by
  obtain ⟨helper, hq⟩ := h.passed
  exact fun h' => decide_ne_reinvoke hq q.isRoot h'.decided

theorem ReinvokesIn.le_one {n : Nat} {p q : Surroundings} (h : ReinvokesIn n p q) : n ≤ 1 := by
  cases h with
  | start => exact Nat.zero_le 1
  | next h hr =>
    cases h with
    | start => exact Nat.le_refl 1
    | next _ hr' => exact absurd hr hr'.last

namespace BootstrapPlan

variable {A : Agents σ} {plan : BootstrapPlan} {w : World σ}

/-- A run that hands over asks for the reinvocation and for nothing else, and makes no change of its
own. -/
theorem run_escalated (A : Agents σ) {privilege : Privilege} (hr : privilege.decide = .reinvoke)
    (hd : plan.dryRun = false) (w : World σ) :
    ∃ result printed,
      w.Continues A [.ran plan.reinvoke result printed] [] (plan.run A privilege w).2 ∧
      (plan.run A privilege w).1 =
        (result.map fun _ => .delegated).mapError plan.asEscalationFailure := by
  let w₁ := (Work.note .bootstrap .info "not running as root, re-invoking with elevated privileges"
    [("command", plan.reinvoke.display)] w).2
  let w₂ := (Work.run A.toRunner plan.reinvoke w₁).2
  have hw := (Work.continues_note A w .bootstrap .info _ _).trans
    (Work.continues_run A w₁ plan.reinvoke)
  have hown : Work.run A.toRunner plan.reinvoke w₁ =
    ((A.run plan.reinvoke w₁.toSite).1.1, w₂) := rfl
  have hrun : plan.run A privilege w = (((Work.run A.toRunner plan.reinvoke).mapFailure
      plan.asEscalationFailure) >>= fun _ => pure .delegated) w₁ := by
    rw [run, if_pos ⟨hr, hd⟩]
    rfl
  have hmap := Work.mapFailure_apply hown plan.asEscalationFailure
  rw [hrun]
  cases hres : (A.run plan.reinvoke w₁.toSite).1.1 with
  | ok u =>
    rw [hres] at hw hmap
    rw [Work.bind_of_ok hmap]
    exact ⟨_, _, hw, rfl⟩
  | error e =>
    rw [hres] at hw hmap
    rw [Work.bind_of_error hmap]
    exact ⟨_, _, hw, rfl⟩

/-- Whatever a run asks for is the reinvocation or belongs to one of its stages. -/
theorem run_asks (A : Agents σ) (plan : BootstrapPlan) (privilege : Privilege) (w : World σ) :
    ∃ calls, (plan.run A privilege w).2.calls = w.calls ++ calls ∧
      ∀ e ∈ calls, e.request? = some (.run plan.reinvoke) ∨
        ∃ g ∈ plan.stagesOf A w.toSite calls, e.request? = some (plan.request g) := by
  by_cases h : privilege.decide = .reinvoke ∧ plan.dryRun = false
  · obtain ⟨r, printed, hw, -⟩ := run_escalated A h.1 h.2 w
    refine ⟨_, hw.calls_eq, fun e he => .inl ?_⟩
    rw [List.mem_singleton.mp he]
    rfl
  · have hown : privilege.decide = .reinvoke → plan.dryRun = true := by
      intro hr
      rw [← Bool.not_eq_false]
      exact fun hd => h ⟨hr, hd⟩
    obtain ⟨w₀, calls, prepared, phase⟩ := perform_phase A plan privilege.decide w
    refine ⟨calls, ?_, fun e he => .inr (phase.exists_stage he)⟩
    rw [(run_performed A plan hown w).2, phase.logged.calls_eq, prepared.calls_eq]

theorem run_stage_env {missing : List String} {present : Bool} {g : Stage} {c : Command}
    (hg : g ∈ plan.stages missing present) (hc : plan.request g = .run c) :
    c.env = [] ∨ c = plan.buildCommand := by
  cases g with
  | probe package => simp [request] at hc
  | fetch => simp [request] at hc
  | unzip =>
    simp only [request, Request.run.injEq] at hc
    subst hc
    exact .inl rfl
  | build =>
    simp only [request, Request.run.injEq] at hc
    subst hc
    exact .inr rfl
  | install missing =>
    simp only [request, Request.run.injEq] at hc
    subst hc
    cases plan.platform <;> exact .inl rfl
  | refresh c' =>
    simp only [request, Request.run.injEq] at hc
    subst hc
    have hmem : c' ∈ plan.platform.profile.refresh.toList := by
      unfold stages packageStages installStages archiveStages at hg
      split at hg <;> split at hg <;> simp_all
    left
    cases hp : plan.platform with
    | debian =>
      rw [hp] at hmem
      cases List.mem_singleton.mp hmem
      rfl
    | rhel =>
      rw [hp] at hmem
      cases hmem

/-- The steps of a run that does its own work: the reinvocation if one was decided, and then the
commands that were run. -/
theorem run_steps (A : Agents σ) (plan : BootstrapPlan) {privilege : Privilege}
    (h : privilege.decide = .reinvoke → plan.dryRun = true) (w : World σ) :
    ∃ calls, (plan.run A privilege w).2.calls = w.calls ++ calls ∧
      (∀ c ∈ calls.filterMap Event.command?, c.env = [] ∨ c = plan.buildCommand) ∧
      ∀ report, (plan.run A privilege w).1 = .ok (.completed report) →
        report.steps = (if privilege.decide = .reinvoke then [plan.reinvoke] else []) ++
          calls.filterMap Event.command? := by
  obtain ⟨hresult, hworld⟩ := run_performed A plan h w
  obtain ⟨w₀, calls, prepared, phase⟩ := perform_phase A plan privilege.decide w
  have log := phase.logged
  refine ⟨calls, ?_, ?_, ?_⟩
  · rw [hworld, log.calls_eq, prepared.calls_eq]
  · intro c hc
    obtain ⟨e, he, hcommand⟩ := List.mem_filterMap.mp hc
    obtain ⟨g, hg, hreq⟩ := phase.exists_stage he
    cases e with
    | ran c' r printed =>
      cases hcommand
      exact run_stage_env hg (Option.some.inj hreq).symm
    | _ => cases hcommand
  · intro report hreport
    rw [hresult] at hreport
    cases hp : plan.perform A privilege.decide w with
    | mk r w' =>
      rw [hp] at hreport log
      cases r with
      | error e => cases hreport
      | ok report' =>
        cases hreport
        rw [perform_report hp, log.steps_eq, prepared.steps_eq]

theorem buildCommand_ne_reinvoke (s : Surroundings) (l : Layout) (c : Config)
    (platform : Platform) (variant : Option Variant) (dryRun : Bool) :
    (Tool.buildPlan s l c platform variant dryRun).buildCommand ≠
      (Tool.buildPlan s l c platform variant dryRun).reinvoke := by
  intro h
  have hcwd := congrArg Command.cwd h
  rw [show (Tool.buildPlan s l c platform variant dryRun).reinvoke.cwd = none from
    cwd_reinvocation _ _ _] at hcwd
  cases hcwd

/-- A dry run never makes the reinvocation, and reports it first exactly when it was decided, as long
as it is not the build command too. -/
theorem dry_run_reinvocation (A : Agents σ) (plan : BootstrapPlan) (privilege : Privilege)
    (w : World σ) (henv : plan.reinvoke.env ≠ []) (hd : plan.dryRun = true) :
    ∃ calls, (plan.run A privilege w).2.calls = w.calls ++ calls ∧
      (plan.buildCommand ≠ plan.reinvoke →
        ∀ result printed, .ran plan.reinvoke result printed ∉ calls) ∧
      ∀ report, (plan.run A privilege w).1 = .ok (.completed report) →
        report.steps = (if privilege.decide = .reinvoke then [plan.reinvoke] else []) ++
          calls.filterMap Event.command? ∧
        (plan.buildCommand ≠ plan.reinvoke →
          (report.steps.head? = some plan.reinvoke ↔ privilege.decide = .reinvoke)) := by
  obtain ⟨calls, hcalls, hcommands, hsteps⟩ := run_steps A plan (fun _ => hd) w
  have hnot (hne : plan.buildCommand ≠ plan.reinvoke) :
      plan.reinvoke ∉ calls.filterMap Event.command? := by
    intro hmem
    rcases hcommands plan.reinvoke hmem with hnil | hbuild
    · exact henv hnil
    · exact hne hbuild.symm
  refine ⟨calls, hcalls, ?_, fun report hreport => ⟨hsteps report hreport, fun hne => ?_⟩⟩
  · intro hne result printed hmem
    exact hnot hne (List.mem_filterMap.mpr ⟨_, hmem, rfl⟩)
  · rw [hsteps report hreport]
    by_cases hr : privilege.decide = .reinvoke
    · simp [hr]
    · simp only [hr, if_false, List.nil_append, iff_false]
      exact fun hhead => hnot hne (List.mem_of_mem_head? hhead)

/-- Escalation happens at most once and is faithful. The reinvocation hands the parent's arguments
over and marks its child, so that no process in a chain of them but the first decides for another.
A run that decides for it makes this one call. A dry run reports it and never makes it, as long as
it is not the build command too, which it is in no plan of the tool. -/
theorem escalation_once (A : Agents σ) (base : BootstrapPlan) (privilege : Privilege) (w : World σ)
    (helper : List String) (executable : Path) (args : List String) :
    let command := reinvocation helper executable args
    let plan := { base with reinvoke := command }
    let run := plan.run A privilege w
    command.words = helper ++ [executable.text] ++ args ∧
    (∀ (env : Environment) (isRoot : Bool), env.Holds command.env →
      (Privilege.ofEnvironment isRoot env).decide ≠ .reinvoke) ∧
    (∀ other : Environment, (other ++ command.env).Holds command.env) ∧
    (∀ n p q, ReinvokesIn n p q → n ≤ 1) ∧
    (privilege.decide = .reinvoke → plan.dryRun = false → ∃ result printed,
      w.Continues A [.ran command result printed] [] run.2 ∧
      run.1 = (result.map fun _ => .delegated).mapError plan.asEscalationFailure) ∧
    (plan.dryRun = true → ∃ calls, run.2.calls = w.calls ++ calls ∧
      (plan.buildCommand ≠ command → ∀ result printed, .ran command result printed ∉ calls) ∧
      ∀ report, run.1 = .ok (.completed report) →
        report.steps = (if privilege.decide = .reinvoke then [command] else []) ++
          calls.filterMap Event.command? ∧
        (plan.buildCommand ≠ command →
          (report.steps.head? = some command ↔ privilege.decide = .reinvoke))) ∧
    ∀ s l c platform variant dryRun, (Tool.buildPlan s l c platform variant dryRun).buildCommand ≠
      (Tool.buildPlan s l c platform variant dryRun).reinvoke := by
  intro command plan run
  have henv : command.env = [(escalatedVariable, "1")] := env_reinvocation helper executable args
  refine ⟨words_reinvocation _ _ _, fun env isRoot h => decide_ne_reinvoke h isRoot, ?_,
    fun n p q h => h.le_one, fun hr hd => run_escalated A hr hd w, fun hd => ?_,
    buildCommand_ne_reinvoke⟩
  · intro other
    rw [henv]
    exact Environment.holds_on_top other _
  · refine dry_run_reinvocation A plan privilege w ?_ hd
    rw [show plan.reinvoke.env = _ from henv]
    simp

end BootstrapPlan
end Provision
