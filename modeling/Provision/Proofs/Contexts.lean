import Provision.Tool

namespace Provision

def Tool.failing {σ : Type} (code : String) (status : Int) (message : String)
    (filter : Log.Filter) (i : Invocation) (w : World σ) : Finish :=
  let before := Log.transcript filter i.task.isReal w.journal
  let envelope : Json := .object [
    ("ok", .bool false),
    ("error", .object [("code", .string code), ("message", .string message)])]
  let printed : Printed :=
    if i.json then { before with out := before.out ++ (envelope.pretty ++ "\n") }
    else { before with err := before.err ++ ("error: " ++ message ++ "\n") }
  ⟨(min (max status 1) 255).toNat, printed, w.fs⟩

namespace Failure

variable {e : Failure} {c : Cause} {found : Option Fault} {code : String} {status : Int}
  {texts : List String}

theorem chain_withContext (e : Failure) (context : String) :
    (e.withContext context).chain = .context context :: e.chain := rfl

/-- By induction on the contexts: each becomes the outermost layer when it is added. -/
theorem chain_withContexts (e : Failure) (contexts : List String) :
    (e.withContexts contexts).chain = contexts.reverse.map .context ++ e.chain := by
  induction contexts generalizing e with
  | nil => rfl
  | cons context rest ih =>
    have hadded : e.withContexts (context :: rest) = (e.withContext context).withContexts rest :=
      rfl
    rw [hadded, ih, chain_withContext, List.reverse_cons, List.map_append, List.append_assoc]
    rfl

/-- A search passes over contexts, whatever they say. -/
theorem search_contexts (contexts : List String) (layers : List Layer) :
    (contexts.map Layer.context ++ layers).findSome? Layer.fault? =
      layers.findSome? Layer.fault? := by
  have hnone : (contexts.map Layer.context).findSome? Layer.fault? = none := by
    simp [List.findSome?_eq_none_iff, Layer.fault?]
  rw [List.findSome?_append, hnone, Option.none_or]

theorem fault?_withContexts (e : Failure) (contexts : List String) :
    (e.withContexts contexts).fault? = e.fault? := by
  rw [fault?, chain_withContexts, search_contexts, fault?]

theorem texts_withContexts (e : Failure) (contexts : List String) :
    (e.withContexts contexts).texts = contexts.reverse ++ e.texts := by
  have htext : Layer.text ∘ Layer.context = id := rfl
  rw [Failure.texts, chain_withContexts, List.map_append, List.map_map, htext, List.map_id,
    Failure.texts]

structure Reports (e : Failure) (found : Option Fault) (code : String) (status : Int)
    (texts : List String) : Prop where
  fault : e.fault? = found
  code_eq : e.code = code
  status_eq : e.exitStatus = status
  texts_eq : e.texts = texts
  finish : ∀ {σ : Type} (filter : Log.Filter) (i : Invocation) (w : World σ),
    Tool.finish filter i (.error e) w =
      Tool.failing code status (String.intercalate ": " texts) filter i w

theorem reports_self (e : Failure) : Reports e e.fault? e.code e.exitStatus e.texts := by
  refine ⟨rfl, rfl, rfl, rfl, fun filter i w => ?_⟩
  unfold Tool.finish Tool.failing Failure.printed
  cases i.json with
  | true => simp [processStatus, toJson, message]
  | false => simp [processStatus, message]

/-- Contexts come before the texts, the last added first, and change nothing else. -/
theorem Reports.withContexts (h : Reports e found code status texts) (contexts : List String) :
    Reports (e.withContexts contexts) found code status (contexts.reverse ++ texts) := by
  obtain ⟨rfl, rfl, rfl, rfl, -⟩ := h
  have hfault := fault?_withContexts e contexts
  have hcode : (e.withContexts contexts).code = e.code := by
    rw [Failure.code, hfault, Failure.code]
  have hstatus : (e.withContexts contexts).exitStatus = e.exitStatus := by
    rw [exitStatus, hfault, exitStatus]
  have reports := reports_self (e.withContexts contexts)
  rw [hfault, hcode, hstatus, texts_withContexts] at reports
  exact reports

theorem reports_fault (f : Fault) :
    Reports (.ofFault f) (some f) f.code f.exitStatus [f.message] :=
  reports_self (.ofFault f)

theorem reports_plain (h : ∀ f, c ≠ .fault f) : Reports ⟨c, []⟩ none "ERROR" 1 [c.message] := by
  cases c with
  | fault f => exact absurd rfl (h f)
  | io cause => exact reports_self (.ofIo cause)
  | other text => exact reports_self ⟨.other text, []⟩

/-- Contexts do not change what a failure is. A fault is found under any of them, and its code and
status are reported; under a failure that has no fault none is found, and it is reported as an error
like any other, even if a context reads like a fault's message. -/
theorem contexts_keep_classification (contexts : List String) :
    (∀ f : Fault, Reports ((ofFault f).withContexts contexts) (some f) f.code f.exitStatus
      (contexts.reverse ++ [f.message])) ∧
    ∀ c : Cause, (∀ f, c ≠ .fault f) →
      Reports (withContexts ⟨c, []⟩ contexts) none "ERROR" 1 (contexts.reverse ++ [c.message]) :=
  ⟨fun f => (reports_fault f).withContexts contexts,
    fun _ hplain => (reports_plain hplain).withContexts contexts⟩

/-- A full disk is no failed command, though the context says so. -/
theorem contexts_keep_classification_lookalike :
    let lookalike := (Fault.childFailed "cargo" 101).message
    let e := withContexts ⟨.other "disk full", []⟩ [lookalike, "building"]
    (∀ f, Cause.other "disk full" ≠ .fault f) ∧
      Reports e none "ERROR" 1 ["building", lookalike, "disk full"] := by
  intro lookalike e
  have hplain : ∀ f, Cause.other "disk full" ≠ .fault f := fun f hf => by cases hf
  exact ⟨hplain, (contexts_keep_classification [lookalike, "building"]).2 _ hplain⟩

end Failure
end Provision
