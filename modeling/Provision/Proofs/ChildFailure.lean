import Provision.Proofs.ChecksumGate
import Provision.Proofs.StubRun

namespace Provision

variable {σ α β : Type}

namespace Event

def failure? : Event → Option Failure
  | ran _ (.error e) _ => some e
  | _ => none

end Event

/-- Calls among which no command fails, or only the last does; the work then fails too, with
something that stands in the relation `R` to the command's failure. -/
inductive EndsAtFailure (R : Failure → Failure → Prop) : List Event → Except Failure α → Prop
  | unfailing {calls : List Event} {r : Except Failure α}
    (h : ∀ event ∈ calls, event.failure? = none) : EndsAtFailure R calls r
  | failing {before : List Event} {event : Event} {e e' : Failure}
    (h : ∀ event ∈ before, event.failure? = none) (he : event.failure? = some e) (hR : R e e') :
    EndsAtFailure R (before ++ [event]) (.error e')

namespace EndsAtFailure

variable {R R' : Failure → Failure → Prop} {before calls : List Event} {r : Except Failure α}

theorem nothing (r : Except Failure α) : EndsAtFailure R [] r :=
  .unfailing (by simp)

theorem single {c : Command} {e e' : Failure} {printed : Printed} (hR : R e e') :
    EndsAtFailure R [.ran c (.error e) printed] (.error e' : Except Failure α) := by
  rw [← List.nil_append [_]]
  exact .failing (by simp) rfl hR

theorem append (hb : ∀ event ∈ before, event.failure? = none) (h : EndsAtFailure R calls r) :
    EndsAtFailure R (before ++ calls) r := by
  cases h with
  | unfailing h =>
    refine .unfailing fun event hevent => ?_
    rcases List.mem_append.mp hevent with hevent | hevent
    · exact hb event hevent
    · exact h event hevent
  | failing h he hR =>
    rw [← List.append_assoc]
    refine .failing (fun event hevent => ?_) he hR
    rcases List.mem_append.mp hevent with hevent | hevent
    · exact hb event hevent
    · exact h event hevent

theorem cons {event : Event} (he : event.failure? = none) (h : EndsAtFailure R calls r) :
    EndsAtFailure R (event :: calls) r :=
  append (by simpa using he : ∀ event' ∈ [event], event'.failure? = none) h

theorem of_ok {a : α} (h : EndsAtFailure R calls (.ok a)) :
    ∀ event ∈ calls, event.failure? = none := by
  cases h with
  | unfailing h => exact h

theorem of_error {e : Failure} (h : EndsAtFailure R calls (.error e : Except Failure α)) :
    EndsAtFailure R calls (.error e : Except Failure β) := by
  cases h with
  | unfailing h => exact .unfailing h
  | failing h he hR => exact .failing h he hR

theorem mono (hR : ∀ e e', R e e' → R' e e') (h : EndsAtFailure R calls r) :
    EndsAtFailure R' calls r := by
  cases h with
  | unfailing h => exact .unfailing h
  | failing h he h' => exact .failing h he (hR _ _ h')

theorem last {event : Event} {after : List Event} {e : Failure} (h : EndsAtFailure R calls r)
    (hsplit : calls = before ++ event :: after) (he : event.failure? = some e) :
    after = [] ∧ ∃ e', r = .error e' ∧ R e e' := by
  cases h with
  | unfailing h =>
    have hnone := h event (by rw [hsplit]; simp)
    rw [he] at hnone
    cases hnone
  | @failing front last e₁ e' h hlast hR =>
    rcases List.eq_nil_or_concat after with rfl | ⟨middle, x, rfl⟩
    · obtain ⟨rfl, hevent⟩ := List.append_inj' hsplit rfl
      cases hevent
      rw [he] at hlast
      cases hlast
      exact ⟨rfl, e', rfl, hR⟩
    · -- the failing command would stand before the last call, where none fails
      rw [List.concat_eq_append, ← List.cons_append, ← List.append_assoc] at hsplit
      obtain ⟨rfl, -⟩ := List.append_inj' hsplit rfl
      have hnone := h event (by simp)
      rw [he] at hnone
      cases hnone

end EndsAtFailure

namespace Work

/-- Work that heeds the failures of commands: from any world on, the first command that fails is the
last call, and the work fails with something that stands in the relation `R` to that failure. -/
def Heeds (R : Failure → Failure → Prop) (x : Work σ α) : Prop :=
  ∀ w, ∃ calls, (x w).2.calls = w.calls ++ calls ∧ EndsAtFailure R calls (x w).1

variable {R R' : Failure → Failure → Prop} {x : Work σ α}

theorem Heeds.of_silent (h : ∀ w, (x w).2.calls = w.calls) : x.Heeds R := by
  intro w
  refine ⟨[], ?_, .nothing _⟩
  rw [h, List.append_nil]

theorem Heeds.pure (a : α) : (Pure.pure a : Work σ α).Heeds R :=
  .of_silent fun _ => rfl

theorem Heeds.bind {k : α → Work σ β} (hx : x.Heeds R) (hk : ∀ a, (k a).Heeds R) :
    (x >>= k).Heeds R := by
  intro w
  obtain ⟨before, hbefore, ends⟩ := hx w
  rw [bind_apply]
  cases hr : x w with
  | mk r w₁ =>
    rw [hr] at hbefore ends
    cases r with
    | error e => exact ⟨before, hbefore, ends.of_error⟩
    | ok a =>
      obtain ⟨calls, hcalls, ends'⟩ := hk a w₁
      refine ⟨before ++ calls, ?_, ends'.append ends.of_ok⟩
      rw [hcalls, hbefore, List.append_assoc]

theorem Heeds.mapFailure {f : Failure → Failure} (h : x.Heeds R)
    (hf : ∀ e e', R e e' → R' e (f e')) : (x.mapFailure f).Heeds R' := by
  intro w
  obtain ⟨calls, hcalls, ends⟩ := h w
  unfold Work.mapFailure
  cases hr : x w with
  | mk r w₁ =>
    rw [hr] at hcalls ends
    refine ⟨calls, ?_, ?_⟩
    · cases r <;> exact hcalls
    · cases ends with
      | unfailing h => exact .unfailing h
      | failing h he hR => exact .failing h he (hf _ _ hR)

theorem Heeds.mono (h : x.Heeds R) (hR : ∀ e e', R e e' → R' e e') : x.Heeds R' := by
  intro w
  obtain ⟨calls, hcalls, ends⟩ := h w
  exact ⟨calls, hcalls, ends.mono hR⟩

end Work

def Stage.installs : Stage → Bool
  | .refresh _ | .install _ => true
  | _ => false

namespace BootstrapPlan

variable {A : Agents σ} {plan : BootstrapPlan}

def Issues (plan : BootstrapPlan) (c : Command) : (installs : Bool) → Prop
  | true => plan.platform.profile.refresh = some c ∨
    ∃ missing, c = plan.platform.profile.installOf missing
  | false => c = plan.reinvoke ∨ c = plan.archiveRequest.unzip ∨ c = plan.buildCommand

end BootstrapPlan

section

variable {e : Failure} {program : String} {status : Int}

theorem asInstallFailure_child (profile : PlatformProfile)
    (h : e.fault? = some (.childFailed program status)) :
    asInstallFailure profile e = .ofFault (.packageInstall profile.manager status) := by
  unfold asInstallFailure
  rw [h]

theorem asInstallFailure_other (profile : PlatformProfile)
    (h : ∀ program status, e.fault? ≠ some (.childFailed program status)) :
    asInstallFailure profile e = e := by
  unfold asInstallFailure
  split
  · rename_i program status hchild
    exact absurd hchild (h program status)
  · rfl

end

namespace BootstrapPlan

end BootstrapPlan

section

variable (A : Agents σ) (R : Failure → Failure → Prop)

end

namespace StubRequest

end StubRequest

namespace Tool

/-- The status that a process ends with is that of its failure, kept between 1 and 255. -/
theorem processStatus_eq (e : Failure) :
    (e.processStatus : Int) = min (max e.exitStatus 1) 255 := by
  unfold Failure.processStatus
  omega

end Tool

end Provision
