import Provision.Work

namespace Provision

variable {σ α β : Type}

instance Except.decEq {ε : Type} [DecidableEq ε] [DecidableEq α] : DecidableEq (Except ε α)
  | .ok a, .ok b => decidable_of_iff (a = b) (by simp)
  | .error a, .error b => decidable_of_iff (a = b) (by simp)
  | .ok _, .error _ => .isFalse (by simp)
  | .error _, .ok _ => .isFalse (by simp)

/-- What can be asked of agents. -/
inductive Request
  | probe (c : Command)
  | run (c : Command)
  | fetch (url : String) (target : Path)
deriving DecidableEq

namespace Event

def request? : Event → Option Request
  | noted _ => none
  | probed c _ => some (.probe c)
  | ran c _ _ => some (.run c)
  | fetched url target _ => some (.fetch url target)

end Event

namespace Agents

/-- Asks at a site: the call with its answer, and the site that it leaves. -/
def answer (A : Agents σ) (s : Site σ) : Request → Event × Site σ
  | .probe c => (.probed c (A.probe c s).1, (A.probe c s).2)
  | .run c => (.ran c (A.run c s).1.1 (A.run c s).1.2, (A.run c s).2)
  | .fetch url target => (.fetched url target (A.fetch url target s).1, (A.fetch url target s).2)

theorem request_answer (A : Agents σ) (s : Site σ) (q : Request) :
    (A.answer s q).1.request? = some q := by
  cases q <;> rfl

theorem request_of_answer {A : Agents σ} {s t : Site σ} {q : Request} {e : Event}
    (h : A.answer s q = (e, t)) : e.request? = some q := by
  rw [← request_answer A s q, h]

def visit (A : Agents σ) (s : Site σ) (e : Event) : Site σ :=
  match e.request? with
  | some q => (A.answer s q).2
  | none => s

/-- The site that calls lead to, as long as nobody but the agents makes changes. -/
def after (A : Agents σ) (s : Site σ) (calls : List Event) : Site σ := calls.foldl A.visit s

/-- Calls that agents answered one after the other, each at the site that the one before it left. -/
inductive Served (A : Agents σ) : Site σ → List Event → Site σ → Prop
  | nothing (s : Site σ) : Served A s [] s
  | asked {s t u : Site σ} {q : Request} {e : Event} {calls : List Event}
    (h : A.answer s q = (e, t)) (rest : Served A t calls u) : Served A s (e :: calls) u

namespace Served

variable {A : Agents σ} {s t u : Site σ} {before calls : List Event}

theorem append (h : A.Served s before t) (h' : A.Served t calls u) :
    A.Served s (before ++ calls) u := by
  induction h with
  | nothing s => exact h'
  | asked hq _ ih => exact .asked hq (ih h')

theorem split (h : A.Served s (before ++ calls) u) :
    ∃ t, A.Served s before t ∧ A.Served t calls u := by
  induction before generalizing s with
  | nil => exact ⟨s, .nothing s, h⟩
  | cons e before ih =>
    cases h with
    | asked hq rest =>
      obtain ⟨t, first, last⟩ := ih rest
      exact ⟨t, .asked hq first, last⟩

theorem single {q : Request} {e : Event} (h : A.answer s q = (e, t)) : A.Served s [e] t :=
  .asked h (.nothing t)

theorem answer {q : Request} {e : Event} (h : A.Served s [e] t) (he : e.request? = some q) :
    A.answer s q = (e, t) := by
  cases h with
  | @asked _ u _ q' _ _ hq rest =>
    cases rest
    have hq' := request_of_answer hq
    rw [he] at hq'
    cases hq'
    exact hq

theorem after (h : A.Served s calls t) : A.after s calls = t := by
  induction h with
  | nothing s => rfl
  | @asked s t u q e calls hq _ ih =>
    have he := request_of_answer hq
    rw [← ih]
    simp only [Agents.after, List.foldl_cons, visit, he, hq]

end Served

end Agents

namespace World

/-- What was asked, and which commands were entered in the list of steps, on the way from `w` to
`w'`. -/
structure Logged (w : World σ) (calls : List Event) (steps : List Command) (w' : World σ) :
    Prop where
  calls_eq : w'.calls = w.calls ++ calls
  steps_eq : w'.steps = w.steps ++ steps

/-- Going on from `w` to `w'` with no other change than the agents'. -/
structure Continues (A : Agents σ) (w : World σ) (calls : List Event) (steps : List Command)
    (w' : World σ) : Prop extends Logged w calls steps w' where
  served : A.Served w.toSite calls w'.toSite

variable {A : Agents σ} {w w' w'' : World σ} {before calls : List Event}
  {first steps : List Command}

theorem Logged.refl (w : World σ) : w.Logged [] [] w :=
  ⟨(List.append_nil _).symm, (List.append_nil _).symm⟩

theorem Logged.trans (h : w.Logged before first w') (h' : w'.Logged calls steps w'') :
    w.Logged (before ++ calls) (first ++ steps) w'' where
  calls_eq := by rw [h'.calls_eq, h.calls_eq, List.append_assoc]
  steps_eq := by rw [h'.steps_eq, h.steps_eq, List.append_assoc]

theorem Continues.refl (A : Agents σ) (w : World σ) : w.Continues A [] [] w where
  toLogged := .refl w
  served := .nothing _

theorem Continues.trans (h : w.Continues A before first w')
    (h' : w'.Continues A calls steps w'') :
    w.Continues A (before ++ calls) (first ++ steps) w'' where
  toLogged := h.toLogged.trans h'.toLogged
  served := h.served.append h'.served

theorem Continues.fetched {url : String} {target : Path} {r : Except Fault Unit}
    (h : w.Continues A [.fetched url target r] steps w') :
    A.answer w.toSite (.fetch url target) = (.fetched url target r, w'.toSite) :=
  h.served.answer rfl

theorem Continues.ran {c : Command} {r : Except Failure Unit} {printed : Printed}
    (h : w.Continues A [.ran c r printed] steps w') :
    A.answer w.toSite (.run c) = (.ran c r printed, w'.toSite) :=
  h.served.answer rfl

theorem Continues.after (h : w.Continues A calls steps w') : A.after w.toSite calls = w'.toSite :=
  h.served.after

end World

namespace Work

variable {A : Agents σ} {w w' : World σ}

theorem bind_of_ok {x : Work σ α} {a : α} (h : x w = (.ok a, w')) (f : α → Work σ β) :
    (x >>= f) w = f a w' := by
  rw [bind_apply, h]

theorem bind_of_error {x : Work σ α} {e : Failure} (h : x w = (.error e, w'))
    (f : α → Work σ β) : (x >>= f) w = (.error e, w') := by
  rw [bind_apply, h]

theorem bind_eq_ok {x : Work σ α} {f : α → Work σ β} {b : β} (h : (x >>= f) w = (.ok b, w')) :
    ∃ a w₁, x w = (.ok a, w₁) ∧ f a w₁ = (.ok b, w') := by
  rw [bind_apply] at h
  split at h
  · rename_i a w₁ hx
    exact ⟨a, w₁, hx, h⟩
  · cases h

theorem mapFailure_apply {x : Work σ α} {r : Except Failure α} (h : x w = (r, w'))
    (f : Failure → Failure) : x.mapFailure f w = (r.mapError f, w') := by
  rw [mapFailure, h]
  cases r <;> rfl

theorem mapFailure_world (x : Work σ α) (f : Failure → Failure) (w : World σ) :
    (x.mapFailure f w).2 = (x w).2 := by
  unfold mapFailure
  rcases x w with ⟨e | a, w'⟩ <;> rfl

theorem changeMany_apply (f : FileSystem → Except IoError Unit × FileSystem) (w : World σ) :
    changeMany f w = ((f w.fs).1.mapError .ofIo, { w with fs := (f w.fs).2 }) := by
  unfold changeMany
  rcases f w.fs with ⟨e | u, fs⟩ <;> rfl

@[simp] theorem calls_record_noted (w : World σ) (n : Log.Note) :
    (record w (.noted n)).calls = w.calls := by
  simp [record, World.calls, Event.isCall]

theorem calls_record {e : Event} (h : e.isCall = true) (w : World σ) :
    (record w e).calls = w.calls ++ [e] := by
  simp [record, World.calls, h]

theorem continues_note (A : Agents σ) (w : World σ) (area : Log.Area) (level : Log.Level)
    (message : String) (fields : List (String × String)) :
    w.Continues A [] [] (note area level message fields w).2 where
  served := .nothing _
  calls_eq := by simp [note]
  steps_eq := (List.append_nil _).symm

theorem continues_enter (A : Agents σ) (w : World σ) (c : Command) :
    w.Continues A [] [c] (enter c w).2 where
  served := .nothing _
  calls_eq := (List.append_nil _).symm
  steps_eq := rfl

theorem continues_run (A : Agents σ) (w : World σ) (c : Command) :
    w.Continues A [.ran c (A.run c w.toSite).1.1 (A.run c w.toSite).1.2] []
      (run A.toRunner c w).2 where
  served := .single (q := .run c) rfl
  calls_eq := calls_record rfl _
  steps_eq := (List.append_nil _).symm

theorem continues_probe (A : Agents σ) (w : World σ) (c : Command) :
    w.Continues A [.probed c (A.probe c w.toSite).1] [] (probe A.toRunner c w).2 where
  served := .single (q := .probe c) rfl
  calls_eq := calls_record rfl _
  steps_eq := (List.append_nil _).symm

theorem continues_fetch (A : Agents σ) (w : World σ) (url : String) (target : Path) :
    w.Continues A [.fetched url target (A.fetch url target w.toSite).1] []
      (fetch A.toFetcher url target w).2 where
  served := .single (q := .fetch url target) rfl
  calls_eq := calls_record rfl _
  steps_eq := (List.append_nil _).symm

end Work
end Provision
