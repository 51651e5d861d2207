import Provision.Proofs.Detours
import Provision.Proofs.Readiness

namespace Provision
namespace StubRequest

variable {σ : Type} {A : Agents σ} {req : StubRequest} {fs fs' : FileSystem} {files : List String}
  {e : Failure} {w w' : World σ}

theorem refused_cons {file : String} : req.Refused fs (file :: files) e ↔
    if fs.hasFile (req.input file) then
      if req.compiler = [] then e = emptyCompiler else req.Refused fs files e
    else e = .ofFault (.missingProto (req.input file)) := by
  constructor
  · intro h
    cases h with
    | missing before split found compiler absent =>
      cases before with
      | nil =>
        cases split
        rw [if_neg (by simp [absent])]
      | cons f before =>
        cases split
        have hc : req.compiler ≠ [] := by
          rcases compiler with h | h
          · cases h
          · exact h
        rw [if_pos (found file List.mem_cons_self), if_neg hc]
        exact .missing before rfl (fun f hf => found f (List.mem_cons_of_mem _ hf)) (.inr hc) absent
    | wordless split found compiler =>
      cases split
      rw [if_pos found, if_pos compiler]
  · intro h
    split at h
    · rename_i hfile
      split at h
      · rename_i hc
        subst h
        exact .wordless rfl hfile hc
      · rename_i hc
        exact h.cons hfile hc
    · rename_i hfile
      subst h
      exact .missing [] rfl (by simp) (.inl rfl) (by simpa using hfile)

theorem not_refused_nil : ¬ req.Refused fs [] e := by
  rintro (⟨before, split⟩ | ⟨split⟩)
  · simp at split
  · cases split

/-- A file among those of a request is only found by a detour, and the request is refused without
it. -/
def Detours (req : StubRequest) (fs fs' : FileSystem) (files : List String) (e : Failure) : Prop :=
  ∃ file ∈ files, fs.Detour fs' (req.input file) ∧ e = .ofFault (.missingProto (req.input file))

theorem Detours.cons {file : String} (h : req.Detours fs fs' files e) :
    req.Detours fs fs' (file :: files) e := by
  obtain ⟨f, hf, hdetour⟩ := h
  exact ⟨f, List.mem_cons_of_mem _ hf, hdetour⟩

/-- With more directories a request is refused as before, unless a file is found by a detour. -/
theorem Refused.grown (h : fs.Grown fs') (hr : req.Refused fs files e) :
    req.Refused fs' files e ∨ req.Detours fs fs' files e := by
  induction files with
  | nil => exact absurd hr not_refused_nil
  | cons file files ih =>
    rw [refused_cons] at hr
    cases hfile : fs.hasFile (req.input file) with
    | true =>
      rw [if_pos hfile] at hr
      rw [refused_cons, if_pos (h.toWithin.hasFile hfile)]
      split at hr
      · rename_i hc
        exact .inl (by rw [if_pos hc]; exact hr)
      · rename_i hc
        rw [if_neg hc]
        exact (ih hr).imp_right .cons
    | false =>
      rw [if_neg (by simp [hfile])] at hr
      cases hfile' : fs'.hasFile (req.input file) with
      | true => exact .inr ⟨file, List.mem_cons_self, h.detour_iff.mpr ⟨hfile', hfile⟩, hr⟩
      | false =>
        rw [refused_cons, if_neg (by simp [hfile'])]
        exact .inl hr

/-- With fewer directories a request is refused as well, and in the same way unless a file is
missed that is found by a detour. -/
theorem Refused.of_grown (h : fs.Grown fs') (hr : req.Refused fs' files e) :
    req.Refused fs files e ∨ ∃ e', req.Detours fs fs' files e' ∧ req.Refused fs files e' := by
  induction files with
  | nil => exact absurd hr not_refused_nil
  | cons file files ih =>
    rw [refused_cons] at hr
    cases hfile : fs.hasFile (req.input file) with
    | true =>
      rw [if_pos (h.toWithin.hasFile hfile)] at hr
      split at hr
      · rename_i hc
        exact .inl (by rw [refused_cons, if_pos hfile, if_pos hc]; exact hr)
      · rename_i hc
        have lift {e : Failure} (hr : req.Refused fs files e) : req.Refused fs (file :: files) e :=
          hr.cons hfile hc
        rcases ih hr with hr | ⟨e', hdetour, hr⟩
        · exact .inl (lift hr)
        · exact .inr ⟨e', hdetour.cons, lift hr⟩
    | false =>
      have missed : req.Refused fs (file :: files) (.ofFault (.missingProto (req.input file))) := by
        rw [refused_cons, if_neg (by simp [hfile])]
      cases hfile' : fs'.hasFile (req.input file) with
      | true =>
        exact .inr ⟨_, ⟨file, List.mem_cons_self, h.detour_iff.mpr ⟨hfile', hfile⟩, rfl⟩, missed⟩
      | false =>
        rw [if_neg (by simp [hfile'])] at hr
        exact .inl (hr ▸ missed)

/-- A file that is found is not what a request is refused for. -/
theorem Detours.not_refused (h : req.Detours fs fs' files e) : ¬ req.Refused fs' files e := by
  obtain ⟨file, _, ⟨hfile, _⟩, rfl⟩ := h
  intro hr
  generalize he : Failure.ofFault (.missingProto (req.input file)) = e at hr
  cases hr with
  | @missing _ _ other _ _ _ absent =>
    have hsame : req.input file = req.input other := by simpa [Failure.ofFault] using he
    rw [hsame, absent] at hfile
    cases hfile
  | wordless => simp [Failure.ofFault, emptyCompiler] at he

theorem plan_eq_error (outDir : Path) :
    req.plan fs outDir files = .error e ↔ req.Refused fs files e := by
  induction files with
  | nil => exact ⟨fun h => absurd h (by simp [plan]), fun h => absurd h not_refused_nil⟩
  | cons file files ih =>
    rw [refused_cons, plan]
    split
    · by_cases hc : req.compiler = []
      · rw [if_pos hc, invocation_of_wordless outDir file hc]
        simp [eq_comm]
      · obtain ⟨c, -, hinvocation⟩ := invocation_of_words outDir file hc
        rw [if_neg hc, hinvocation, ← ih]
        cases req.plan fs outDir files <;> simp [Except.map]
    · simp [eq_comm]

structure FailsUnasked {α : Type} (w : World σ) (run : Except Failure α × World σ) (e : Failure) :
    Prop where
  failed : run.1 = .error e
  unasked : run.2.calls = w.calls

/-- Once its output directory is known, a request fails before the first command exactly with what
it is refused with. -/
theorem failsUnasked_iff {outDir : Path} (h : req.prepare w = (.ok outDir, w'))
    (hcalls : w'.calls = w.calls) :
    FailsUnasked w (req.generate A.toRunner w) e ↔ req.Refused w'.fs req.files e := by
  rw [← plan_eq_error outDir]
  cases hplan : req.plan w'.fs outDir req.files with
  | error refusal =>
    rw [generate_of_refused h hplan, Except.error.injEq]
    refine ⟨fun hf => Except.error.inj hf.failed, ?_⟩
    rintro rfl
    exact ⟨rfl, hcalls⟩
  | ok commands =>
    refine ⟨fun hf => ?_, fun he => absurd he (by simp)⟩
    obtain ⟨calls, continued, inTurn⟩ := generate_of_planned (A := A) h hplan
    have hnone : calls = [] := by simpa [hf.unasked, hcalls] using continued.calls_eq
    rw [hf.failed] at inTurn
    generalize hr : Except.error e = r at inTurn
    cases inTurn with
    | through => cases hr
    | upTo => simp at hnone

/-- A request that is not refused comes to one command for each file. -/
theorem generate_of_free {outDir : Path} (h : req.prepare w = (.ok outDir, w'))
    (free : ∀ e, ¬ req.Refused w'.fs req.files e) :
    ∃ commands calls,
      commands.map some = req.files.map (fun file => Command.ofWords? (req.words outDir file)) ∧
      w'.Continues A calls [] (req.generate A.toRunner w).2 ∧
      InTurn commands ⟨outDir, commands, req.dryRun⟩ calls (req.generate A.toRunner w).1 := by
  rcases req.plan_spec w'.fs outDir req.files with ⟨e, -, refused⟩ | ⟨commands, hplan, -, hwords⟩
  · exact absurd refused (free e)
  · obtain ⟨calls, continued, inTurn⟩ := generate_of_planned (A := A) h hplan
    exact ⟨commands, calls, hwords, continued, inTurn⟩

/-- What a request is refused with does not depend on whether it is a dry run. -/
theorem refused_dryRun (dryRun : Bool) :
    { req with dryRun := dryRun }.Refused fs files e ↔ req.Refused fs files e := by
  constructor <;> rintro (⟨before, split, found, compiler, absent⟩ | ⟨split, found, compiler⟩)
  · exact .missing before split found compiler absent
  · exact .wordless split found compiler
  · exact @Refused.missing { req with dryRun := dryRun } _ _ before _ _ split found compiler absent
  · exact .wordless split found compiler

theorem plan_failsUnasked :
    FailsUnasked w ({ req with dryRun := true }.generate A.toRunner w) e ↔
      req.Refused w.fs req.files e :=
  (failsUnasked_iff (prepare_of_dry rfl) rfl).trans (refused_dryRun true)

theorem prepare_of_real {out : Path} (hd : req.dryRun = false)
    (hmade : (w.fs.makeDirectories req.outDir).1 = .ok ())
    (hreal : (w.fs.makeDirectories req.outDir).2.realPath req.outDir = .ok out) :
    req.prepare w = (.ok out, { w with fs := (w.fs.makeDirectories req.outDir).2 }) := by
  rw [prepare_of_made hd hmade, hreal]
  rfl

/-- A real run is refused for the files that are there once its output directory is made. -/
theorem run_failsUnasked {out : Path} (hmade : (w.fs.makeDirectories req.outDir).1 = .ok ())
    (hreal : (w.fs.makeDirectories req.outDir).2.realPath req.outDir = .ok out) :
    FailsUnasked w ({ req with dryRun := false }.generate A.toRunner w) e ↔
      req.Refused (w.fs.makeDirectories req.outDir).2 req.files e :=
  have prepared : { req with dryRun := false }.prepare w =
      (.ok out, { w with fs := (w.fs.makeDirectories req.outDir).2 }) :=
    prepare_of_real rfl hmade hreal
  (failsUnasked_iff prepared rfl).trans (refused_dryRun false)

theorem Refused.kinds (h : req.Refused fs files e) :
    e = emptyCompiler ∨ ∃ file ∈ files, e = .ofFault (.missingProto (req.input file)) := by
  cases h with
  | missing before split => exact .inr ⟨_, by simp [split], rfl⟩
  | wordless => exact .inl rfl

/-- A planned run beside the real one, when the output directory can be made. What the real run
fails with before its first command, the plan fails with as well, unless it had missed a file that
the real run finds by a detour; and with what the plan fails with, the real run fails too, unless
that file is found by one. When nothing is missed the commands are the same but for the name of the
output directory. -/
theorem plan_agrees_with_run {τ : Type} (A : Agents σ) (B : Agents τ) (req : StubRequest)
    (w : World σ) (v : World τ) (hfs : v.fs = w.fs) {out : Path}
    (hmade : (w.fs.makeDirectories req.outDir).1 = .ok ())
    (hreal : (w.fs.makeDirectories req.outDir).2.realPath req.outDir = .ok out) :
    let made := (w.fs.makeDirectories req.outDir).2
    let plan := { req with dryRun := true }.generate A.toRunner w
    let run := { req with dryRun := false }.generate B.toRunner v
    (∀ e, FailsUnasked w plan e ∨ FailsUnasked v run e →
      e = emptyCompiler ∨ ∃ file ∈ req.files, e = .ofFault (.missingProto (req.input file))) ∧
    (∀ e, FailsUnasked w plan e →
      (FailsUnasked v run e ↔ ¬ req.Detours w.fs made req.files e)) ∧
    (∀ e, FailsUnasked v run e → FailsUnasked w plan e ∨
      ∃ e', req.Detours w.fs made req.files e' ∧ FailsUnasked w plan e') ∧
    ((∀ e, ¬ FailsUnasked w plan e) →
      ∃ planned commands asked calls,
        planned.map some =
          req.files.map (fun file => Command.ofWords? (req.words req.outDir file)) ∧
        commands.map some = req.files.map (fun file => Command.ofWords? (req.words out file)) ∧
        (out = req.outDir → planned = commands) ∧
        w.Continues A asked [] plan.2 ∧
        InTurn planned ⟨req.outDir, planned, true⟩ asked plan.1 ∧
        World.Continues B { v with fs := made } calls [] run.2 ∧
        InTurn commands ⟨out, commands, false⟩ calls run.1) := by
  intro made plan run
  have grown : w.fs.Grown made := (w.fs.makeDirectories_settled req.outDir).grown
  have running : { req with dryRun := false }.prepare v = (.ok out, { v with fs := made }) := by
    have prepared : { req with dryRun := false }.prepare v =
        (.ok out, { v with fs := (v.fs.makeDirectories req.outDir).2 }) :=
      prepare_of_real rfl (hfs ▸ hmade) (hfs ▸ hreal)
    rw [prepared, hfs]
  have hplan {e : Failure} : FailsUnasked w plan e ↔ req.Refused w.fs req.files e :=
    plan_failsUnasked
  have hrun {e : Failure} : FailsUnasked v run e ↔ req.Refused made req.files e :=
    (failsUnasked_iff running rfl).trans (refused_dryRun false)
  refine ⟨?_, ?_, ?_, ?_⟩
  · rintro e (h | h)
    · exact (hplan.mp h).kinds
    · exact (hrun.mp h).kinds
  · intro e h
    rw [hrun]
    refine ⟨fun hr hdetour => hdetour.not_refused hr, fun hnot => ?_⟩
    exact ((hplan.mp h).grown grown).resolve_right hnot
  · intro e h
    rcases (hrun.mp h).of_grown grown with hr | ⟨e', hdetour, hr⟩
    · exact .inl (hplan.mpr hr)
    · exact .inr ⟨e', hdetour, hplan.mpr hr⟩
  · intro hfree
    have free (e : Failure) : ¬ req.Refused w.fs req.files e := fun hr => hfree e (hplan.mpr hr)
    -- directories that were made refuse nothing that was not refused without them
    have free' (e : Failure) : ¬ req.Refused made req.files e := by
      intro hr
      rcases hr.of_grown grown with hr | ⟨e', -, hr⟩
      · exact free e hr
      · exact free e' hr
    obtain ⟨planned, asked, hplanned, askedFor, plannedInTurn⟩ :=
      generate_of_free (A := A) (prepare_of_dry (w := w) rfl) fun e hr =>
        free e ((refused_dryRun true).mp hr)
    obtain ⟨commands, calls, hcommands, continued, inTurn⟩ :=
      generate_of_free (A := B) running fun e hr =>
        free' e ((refused_dryRun false).mp hr)
    refine ⟨planned, commands, asked, calls, hplanned, hcommands, ?_, askedFor, plannedInTurn,
      continued, inTurn⟩
    rintro rfl
    exact (List.map_inj_right fun _ _ h => Option.some.inj h).mp (hplanned.trans hcommands.symm)

/-- An output directory that is given by a roundabout path: the plan names it as given, and the
command that is run names it by its own path. -/
theorem roundabout_directory_planned :
    let req : StubRequest :=
      { compiler := ["protoc"], protoDir := ⟨"/p"⟩, files := ["a.proto"], outDir := ⟨"/gen/./py"⟩ }
    let A : Agents Script := .scripted .empty
    let w : World Script :=
      { fs := Change.applyAll {} [.file ⟨"/p/a.proto"⟩ .empty false], agent := {} }
    let made := w.fs.makeDirectories req.outDir
    made.1 = .ok () ∧ made.2.realPath req.outDir = .ok ⟨"/gen/py"⟩ ∧
      ∃ (planned commands : List Command) (calls : List Event),
        planned.map some = [Command.ofWords? ["protoc", "--proto_path=/p",
          "--python_out=/gen/./py", "--grpc_python_out=/gen/./py", "/p/a.proto"]] ∧
        commands.map some = [Command.ofWords? ["protoc", "--proto_path=/p",
          "--python_out=/gen/py", "--grpc_python_out=/gen/py", "/p/a.proto"]] ∧
        InTurn commands ⟨⟨"/gen/py"⟩, commands, false⟩ calls
          ({ req with dryRun := false }.generate A.toRunner w).1 := by
  intro req A w made
  have hmade : made.1 = .ok () := by decide +kernel
  have hreal : made.2.realPath req.outDir = .ok ⟨"/gen/py"⟩ := by decide +kernel
  have found : w.fs.hasFile (req.input "a.proto") = true := by decide +kernel
  have free : ∀ e, ¬ FailsUnasked w ({ req with dryRun := true }.generate A.toRunner w) e := by
    intro e h
    have hfiles : req.files = ["a.proto"] := rfl
    have hcompiler : req.compiler ≠ [] := by decide
    rw [plan_failsUnasked, hfiles, refused_cons, if_pos found, if_neg hcompiler] at h
    exact not_refused_nil h
  obtain ⟨planned, commands, -, calls, hplanned, hcommands, -, -, -, -, inTurn⟩ :=
    (plan_agrees_with_run A A req w w rfl hmade hreal).2.2.2 free
  refine ⟨hmade, hreal, planned, commands, calls, hplanned.trans ?_, hcommands.trans ?_, inTurn⟩
  · decide +kernel
  · decide +kernel

/-- The output directory is in a directory that has to be made first. A file that is named by way
of that directory is only found by the real run. -/
theorem made_directory_leads_to_file :
    let l : Layout := ⟨⟨"/w"⟩⟩
    let c : Config := { protos := { protoDir := "client/../protos" } }
    let req := Tool.stubRequest l c none false
    let A : Agents Script := .scripted .empty
    let w : World Script :=
      { fs := Change.applyAll {} [.file ⟨"/w/protos/remote_torch.proto"⟩ .empty false]
        agent := {} }
    let made := w.fs.makeDirectories req.outDir
    let e : Failure := .ofFault (.missingProto (req.input "remote_torch.proto"))
    made.1 = .ok () ∧ made.2.realPath req.outDir = .ok req.outDir ∧
      FailsUnasked w ({ req with dryRun := true }.generate A.toRunner w) e ∧
      ¬ FailsUnasked w ({ req with dryRun := false }.generate A.toRunner w) e := by
  intro l c req A w made e
  have hmade : made.1 = .ok () := by decide +kernel
  have hreal : made.2.realPath req.outDir = .ok req.outDir := by decide +kernel
  have absent : w.fs.hasFile (req.input "remote_torch.proto") = false := by decide +kernel
  have found : made.2.hasFile (req.input "remote_torch.proto") = true := by decide +kernel
  refine ⟨hmade, hreal, ?_, ?_⟩
  · exact plan_failsUnasked.mpr (.missing [] rfl (by simp) (.inl rfl) absent)
  · rw [run_failsUnasked hmade hreal]
    intro refused
    have hfiles : req.files = ["remote_torch.proto"] := rfl
    have hcompiler : req.compiler ≠ [] := by decide
    rw [hfiles, refused_cons, if_pos found, if_neg hcompiler] at refused
    exact not_refused_nil refused

end StubRequest

end Provision
