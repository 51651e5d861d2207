import Provision.Proofs.Calls
import Provision.Proofs.Directories
import Provision.Scene
import Provision.Stubs

namespace Provision
namespace StubRequest

variable {σ α : Type} {A : Agents σ} {req : StubRequest} {fs : FileSystem} {w w' : World σ}

def words (req : StubRequest) (outDir : Path) (file : String) : List String :=
  req.compiler ++ ((req.protoDir :: req.includes).map (fun dir => "--proto_path=" ++ dir.text) ++
    ["--python_out=" ++ outDir.text, "--grpc_python_out=" ++ outDir.text, (req.input file).text])

theorem invocation_of_wordless (outDir : Path) (file : String) (h : req.compiler = []) :
    req.invocation outDir file = .error emptyCompiler := by
  unfold invocation stubInvocation
  rw [h]
  rfl

theorem invocation_of_words (outDir : Path) (file : String) (h : req.compiler ≠ []) :
    ∃ c, Command.ofWords? (req.words outDir file) = some c ∧
      req.invocation outDir file = .ok c := by
  unfold invocation stubInvocation words
  cases hc : req.compiler with
  | nil => exact absurd hc h
  | cons program args => exact ⟨_, rfl, rfl⟩

def Obstructed (req : StubRequest) (fs : FileSystem) (files : List String) : Prop :=
  (∃ file ∈ files, fs.hasFile (req.input file) = false) ∨ (files ≠ [] ∧ req.compiler = [])

/-- What a request is refused with: the first of its files that is not there, unless a file before
that has already shown that there is no compiler. -/
inductive Refused (req : StubRequest) (fs : FileSystem) (files : List String) : Failure → Prop
  | missing (before : List String) {after : List String} {file : String} (split : files = before ++ file :: after)
    (found : ∀ f ∈ before, fs.hasFile (req.input f) = true)
    (compiler : before = [] ∨ req.compiler ≠ [])
    (absent : fs.hasFile (req.input file) = false) :
    Refused req fs files (.ofFault (.missingProto (req.input file)))
  | wordless {file : String} {after : List String} (split : files = file :: after)
    (found : fs.hasFile (req.input file) = true) (compiler : req.compiler = []) :
    Refused req fs files emptyCompiler

theorem Refused.obstructed {files : List String} {e : Failure} (h : req.Refused fs files e) :
    req.Obstructed fs files := by
  cases h with
  | @missing before after file split _ _ absent =>
    subst split
    exact .inl ⟨file, by simp, absent⟩
  | wordless split _ compiler =>
    subst split
    exact .inr ⟨by simp, compiler⟩

theorem Refused.cons {file : String} {files : List String} {e : Failure}
    (found : fs.hasFile (req.input file) = true) (compiler : req.compiler ≠ [])
    (h : req.Refused fs files e) : req.Refused fs (file :: files) e := by
  cases h with
  | @missing before after missing split hbefore _ absent =>
    subst split
    refine .missing (file :: before) rfl ?_ (.inr compiler) absent
    intro f hf
    rcases List.mem_cons.mp hf with rfl | hf
    · exact found
    · exact hbefore f hf
  | wordless _ _ hnone => exact absurd hnone compiler

/-- A plan fails with what the request is refused with, or has one command for each file. -/
theorem plan_spec (req : StubRequest) (fs : FileSystem) (outDir : Path) (files : List String) :
    (∃ e, req.plan fs outDir files = .error e ∧ req.Refused fs files e) ∨
      ∃ commands, req.plan fs outDir files = .ok commands ∧ ¬ req.Obstructed fs files ∧
        commands.map some = files.map (fun file => Command.ofWords? (req.words outDir file)) := by
  induction files with
  | nil => exact .inr ⟨[], rfl, by simp [Obstructed], rfl⟩
  | cons file files ih =>
    cases hfile : fs.hasFile (req.input file) with
    | false =>
      refine .inl ⟨_, ?_, .missing [] rfl (by simp) (.inl rfl) hfile⟩
      simp [plan, hfile]
    | true =>
      by_cases hc : req.compiler = []
      · refine .inl ⟨emptyCompiler, ?_, .wordless rfl hfile hc⟩
        simp [plan, hfile, invocation_of_wordless outDir file hc]
      · obtain ⟨c, hwords, hinvocation⟩ := invocation_of_words outDir file hc
        rcases ih with ⟨e, hplan, refused⟩ | ⟨commands, hplan, hfree, hcommands⟩
        · refine .inl ⟨e, ?_, refused.cons hfile hc⟩
          simp [plan, hfile, hinvocation, hplan, Except.map]
        · refine .inr ⟨c :: commands, ?_, ?_, ?_⟩
          · simp [plan, hfile, hinvocation, hplan, Except.map]
          · rintro (⟨f, hf, habsent⟩ | ⟨_, hnone⟩)
            · rcases List.mem_cons.mp hf with rfl | hf
              · rw [hfile] at habsent
                cases habsent
              · exact hfree (.inl ⟨f, hf, habsent⟩)
            · exact hc hnone
          · rw [List.map_cons, List.map_cons, hcommands, hwords]

/-- How commands end that are run one after the other: each was run and none failed, or they were
run up to the first that failed, and that failure is the result. -/
inductive InTurn (commands : List Command) (a : α) : List Event → Except Failure α → Prop
  | through {calls : List Event}
    (asked : calls.map Event.request? = commands.map (some ∘ .run))
    (unfailing : ∀ e ∈ calls, e.hasFailed = false) : InTurn commands a calls (.ok a)
  | upTo (done : List Command) {rest : List Command} {c : Command} {calls : List Event} {e : Failure}
    {printed : Printed} (split : commands = done ++ c :: rest)
    (asked : calls.map Event.request? = done.map (some ∘ .run))
    (unfailing : ∀ e ∈ calls, e.hasFailed = false) :
    InTurn commands a (calls ++ [.ran c (.error e) printed]) (.error e)

theorem InTurn.cons {commands : List Command} {calls : List Event} {a : α} {r : Except Failure α}
    {c : Command} {u : Unit} {printed : Printed} (h : InTurn commands a calls r) :
    InTurn (c :: commands) a (.ran c (.ok u) printed :: calls) r := by
  have unfailing {before : List Event} (h : ∀ e ∈ before, e.hasFailed = false) :
      ∀ e ∈ Event.ran c (.ok u) printed :: before, e.hasFailed = false := by
    intro e he
    rcases List.mem_cons.mp he with rfl | he
    · rfl
    · exact h e he
  cases h with
  | through asked hcalls =>
    refine .through ?_ (unfailing hcalls)
    rw [List.map_cons, List.map_cons, asked]
    rfl
  | @upTo done rest c' before e printed' split asked hcalls =>
    subst split
    rw [← List.cons_append]
    refine .upTo (c :: done) rfl ?_ (unfailing hcalls)
    rw [List.map_cons, List.map_cons, asked]
    rfl

theorem runAll_inTurn (A : Agents σ) (commands : List Command) (w : World σ) :
    ∃ calls, w.Continues A calls [] (runAll A.toRunner commands w).2 ∧
      InTurn commands () calls (runAll A.toRunner commands w).1 := by
  induction commands generalizing w with
  | nil => exact ⟨[], .refl A w, .through rfl (by simp)⟩
  | cons c commands ih =>
    let w₁ := (Work.note .stubs .info "generating stubs" [("command", c.display)] w).2
    have hstep : runAll A.toRunner (c :: commands) w =
        (Work.run A.toRunner c >>= fun _ => runAll A.toRunner commands) w₁ := rfl
    have noted : w.Continues A [] [] w₁ := Work.continues_note A w .stubs .info _ _
    have first := noted.trans (Work.continues_run A w₁ c)
    have hrun : Work.run A.toRunner c w₁ =
        ((A.run c w₁.toSite).1.1, (Work.run A.toRunner c w₁).2) := rfl
    rw [hstep]
    cases hr : (A.run c w₁.toSite).1.1 with
    | error e =>
      rw [hr] at hrun first
      rw [Work.bind_of_error hrun]
      exact ⟨_, first, .upTo [] rfl rfl (by simp)⟩
    | ok u =>
      rw [hr] at hrun first
      rw [Work.bind_of_ok hrun]
      obtain ⟨calls, rest, inTurn⟩ := ih (Work.run A.toRunner c w₁).2
      exact ⟨_, first.trans rest, inTurn.cons⟩

theorem generate_of_unprepared {e : Failure} (h : req.prepare w = (.error e, w')) :
    req.generate A.toRunner w = (.error e, w') :=
  Work.bind_of_error h _

theorem generate_of_refused {outDir : Path} {e : Failure} (h : req.prepare w = (.ok outDir, w'))
    (hplan : req.plan w'.fs outDir req.files = .error e) :
    req.generate A.toRunner w = (.error e, w') := by
  unfold generate
  rw [Work.bind_of_ok h, Work.bind_of_ok (by rw [Work.ask, hplan])]
  rfl

/-- Once all commands are known, they are run in turn, and the report lists them. -/
theorem generate_of_planned {outDir : Path} {commands : List Command}
    (h : req.prepare w = (.ok outDir, w'))
    (hplan : req.plan w'.fs outDir req.files = .ok commands) :
    ∃ calls, w'.Continues A calls [] (req.generate A.toRunner w).2 ∧
      InTurn commands ⟨outDir, commands, req.dryRun⟩ calls (req.generate A.toRunner w).1 := by
  have hgenerate : req.generate A.toRunner w = (runAll A.toRunner commands >>= fun _ =>
      pure ⟨outDir, commands, req.dryRun⟩) w' := by
    unfold generate
    rw [Work.bind_of_ok h, Work.bind_of_ok (by rw [Work.ask, hplan])]
    rfl
  rw [hgenerate, Work.bind_apply]
  obtain ⟨calls, continued, inTurn⟩ := runAll_inTurn A commands w'
  refine ⟨calls, ?_⟩
  cases hr : runAll A.toRunner commands w' with
  | mk r w₂ =>
    rw [hr] at continued inTurn
    refine ⟨?_, ?_⟩
    · cases r <;> exact continued
    · cases inTurn with
      | through asked unfailing => exact .through asked unfailing
      | upTo done split asked unfailing => exact .upTo done split asked unfailing

theorem prepare_of_unmade {e : IoError} (hd : req.dryRun = false)
    (h : (w.fs.makeDirectories req.outDir).1 = .error e) :
    req.prepare w = (.error ((Failure.ofIo e).withContext ("failed to create " ++ req.outDir.text)),
      { w with fs := (w.fs.makeDirectories req.outDir).2 }) := by
  have hmake := Work.changeMany_apply (·.makeDirectories req.outDir) w
  rw [h] at hmake
  unfold prepare
  rw [hd]
  exact Work.bind_of_error (Work.mapFailure_apply hmake _) _

theorem prepare_of_made (hd : req.dryRun = false)
    (h : (w.fs.makeDirectories req.outDir).1 = .ok ()) :
    req.prepare w =
      ((((w.fs.makeDirectories req.outDir).2.realPath req.outDir).mapError .ofIo),
        { w with fs := (w.fs.makeDirectories req.outDir).2 }) := by
  have hmake := Work.changeMany_apply (·.makeDirectories req.outDir) w
  rw [h] at hmake
  unfold prepare
  rw [hd, if_neg Bool.false_ne_true, Work.bind_of_ok (Work.mapFailure_apply hmake _)]
  cases hreal : (w.fs.makeDirectories req.outDir).2.realPath req.outDir with
  | error e => exact (Work.bind_of_ok (by rw [Work.ask, hreal]) _).trans rfl
  | ok out => exact (Work.bind_of_ok (by rw [Work.ask, hreal]) _).trans rfl

theorem prepare_calls (req : StubRequest) (w : World σ) : (req.prepare w).2.calls = w.calls := by
  cases hd : req.dryRun with
  | true => rw [prepare, if_pos hd, Work.pure_apply]
  | false =>
    cases hmade : (w.fs.makeDirectories req.outDir).1 with
    | error e =>
      rw [prepare_of_unmade hd hmade]
      rfl
    | ok u =>
      rw [prepare_of_made hd hmade]
      rfl

/-- The whole course of a request that is not a dry run. -/
theorem generate_checks_first (A : Agents σ) (req : StubRequest) (w : World σ)
    (hd : req.dryRun = false) :
    let made := w.fs.makeDirectories req.outDir
    let ready : World σ := { w with fs := made.2 }
    let result := req.generate A.toRunner w
    w.fs.Grown made.2 ∧
      ((∃ e, made.1 = .error e ∧ result =
          (.error ((Failure.ofIo e).withContext ("failed to create " ++ req.outDir.text)), ready)) ∨
        (∃ e, made.1 = .ok () ∧ made.2.realPath req.outDir = .error e ∧
          result = (.error (.ofIo e), ready)) ∨
        ∃ l out, made.1 = .ok () ∧ made.2.find req.outDir = .ok (l, .directory) ∧
          (w.fs.Grounded (w.fs.startOf req.outDir.text) → made.2.Grounded l) ∧
          made.2.realPath req.outDir = .ok out ∧
          (req.Obstructed made.2 req.files →
            ∃ e, req.Refused made.2 req.files e ∧ result = (.error e, ready)) ∧
          (¬ req.Obstructed made.2 req.files →
            ∃ commands calls,
              commands.map some =
                req.files.map (fun file => Command.ofWords? (req.words out file)) ∧
              ready.Continues A calls [] result.2 ∧
              InTurn commands ⟨out, commands, false⟩ calls result.1)) := by
  intro made ready result
  have settled := w.fs.makeDirectories_settled req.outDir
  refine ⟨settled.grown, ?_⟩
  cases hmade : made.1 with
  | error e =>
    exact .inl ⟨e, rfl, generate_of_unprepared (prepare_of_unmade hd hmade)⟩
  | ok u =>
    right
    have prepared := prepare_of_made hd hmade
    cases hreal : made.2.realPath req.outDir with
    | error e =>
      rw [hreal] at prepared
      exact .inl ⟨e, rfl, rfl, generate_of_unprepared prepared⟩
    | ok out =>
      rw [hreal] at prepared
      obtain ⟨l, hfind, grounded⟩ := FileSystem.made_leads hmade hreal
      refine .inr ⟨l, out, rfl, hfind, grounded, rfl, ?_⟩
      rcases req.plan_spec made.2 out req.files with
        ⟨e, hplan, refused⟩ | ⟨commands, hplan, free, hcommands⟩
      · exact ⟨fun _ => ⟨e, refused, generate_of_refused prepared hplan⟩,
          fun hfree => absurd refused.obstructed hfree⟩
      · obtain ⟨calls, continued, inTurn⟩ := generate_of_planned prepared hplan
        rw [hd] at inTurn
        exact ⟨fun h => absurd h free, fun _ => ⟨commands, calls, hcommands, continued, inTurn⟩⟩

/-- Three files, and a compiler that fails on the second: the output directory is there, and the
third file is not compiled. -/
theorem failing_compiler_stops :
    let req : StubRequest :=
      { compiler := ["protoc"], protoDir := ⟨"/p"⟩, includes := [⟨"/i"⟩]
        files := ["a.proto", "../p/b.proto", "a.proto"], outDir := ⟨"/gen/py"⟩ }
    let A : Agents Script := .scripted .empty
    let w : World Script :=
      { fs := Change.applyAll {} [.file ⟨"/p/a.proto"⟩ .empty false,
          .file ⟨"/p/b.proto"⟩ .empty false]
        agent := { rules := [{ startsWith := "protoc", once := true },
          { startsWith := "protoc", ending := .status 2 }] } }
    let made := w.fs.makeDirectories req.outDir
    req.dryRun = false ∧ ¬ req.Obstructed made.2 req.files ∧
      ∃ out commands calls, made.2.realPath req.outDir = .ok out ∧
        World.Continues A { w with fs := made.2 } calls [] (req.generate A.toRunner w).2 ∧
        InTurn commands ⟨out, commands, false⟩ calls (req.generate A.toRunner w).1 ∧
        commands.length = 3 ∧ calls.length = 2 := by
  intro req A w made
  have hmade : made.1 = .ok () := by decide +kernel
  have hreal : made.2.realPath req.outDir = .ok ⟨"/gen/py"⟩ := by decide +kernel
  have hfound : ∀ file ∈ req.files, made.2.hasFile (req.input file) = true := by decide +kernel
  have hcalls : (req.generate A.toRunner w).2.calls.length = 2 := by decide +kernel
  have hfree : ¬ req.Obstructed made.2 req.files := by
    rintro (⟨file, hfile, habsent⟩ | ⟨-, hnone⟩)
    · rw [hfound file hfile] at habsent
      cases habsent
    · cases hnone
  refine ⟨rfl, hfree, ?_⟩
  rcases (generate_checks_first A req w rfl).2 with ⟨e, he, -⟩ | ⟨e, -, he, -⟩ | h
  · rw [hmade] at he
    cases he
  · rw [hreal] at he
    cases he
  · obtain ⟨l, out, -, -, -, hout, -, hrun⟩ := h
    obtain ⟨commands, calls, hcommands, continued, inTurn⟩ := hrun hfree
    refine ⟨out, commands, calls, hout, continued, inTurn, ?_, ?_⟩
    · simpa [req] using congrArg List.length hcommands
    · rw [continued.calls_eq] at hcalls
      exact hcalls

end StubRequest
end Provision
