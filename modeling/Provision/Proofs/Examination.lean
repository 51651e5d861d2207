import Provision.Proofs.Readiness

namespace Provision

variable {σ : Type}

theorem DoctorReport.overall_eq_ok_iff (r : DoctorReport) :
    r.overall = "ok" ↔ r.isReady = true := by
  refine ⟨isReady_of_overall, fun h => ?_⟩
  rw [overall, if_pos h]

theorem DoctorReport.overall_of_not_ready {r : DoctorReport} (h : ¬ r.isReady = true) :
    r.overall = "needs_attention" := by
  rw [overall, if_neg h]

namespace Doctor

/-- The questions of an examination, in order. A manager is asked for only with its platform, and a
compiler only where there are words for it. -/
def questions (platform : Option Platform) (c : Config) : List Command :=
  (platform.toList.map fun p => { program := p.profile.manager, args := ["--version"] }) ++
    [{ program := "unzip", args := ["-v"] },
      { program := c.build.program, args := ["--version"] }] ++
    match c.protos.compiler with
    | [] => []
    | program :: args => [{ program, args := args ++ ["--version"] }]

/-- What becomes of the tools that are asked for: a call for each that is known, and a check for
every one. -/
inductive Asked : List (String × Option Command) → List Event → List Check → Prop
  | nothing : Asked [] [] []
  | skipped {name : String} {tools : List (String × Option Command)} {calls : List Event}
    {checks : List Check} (rest : Asked tools calls checks) :
    Asked ((name, none) :: tools) calls (⟨name, .skipped⟩ :: checks)
  | answered {name : String} {c : Command} {answer : Bool}
    {tools : List (String × Option Command)} {calls : List Event} {checks : List Check}
    (rest : Asked tools calls checks) :
    Asked ((name, some c) :: tools) (.probed c answer :: calls)
      (⟨name, if answer then .ok else .missing⟩ :: checks)

section

variable {tools : List (String × Option Command)} {calls : List Event} {checks : List Check}

theorem Asked.names (h : Asked tools calls checks) :
    checks.map Check.name = tools.map Prod.fst := by
  induction h with
  | nothing => rfl
  | skipped _ ih => rw [List.map_cons, List.map_cons, ih]
  | answered _ ih => rw [List.map_cons, List.map_cons, ih]

theorem Asked.requests (h : Asked tools calls checks) :
    calls.map Event.request? = (tools.filterMap Prod.snd).map (some ∘ .probe) := by
  induction h with
  | nothing => rfl
  | skipped _ ih => exact ih
  | answered _ ih =>
    rw [List.map_cons, ih]
    rfl

theorem Asked.fine_iff (h : Asked tools calls checks) :
    checks.all (·.status.isFine) = true ↔ ∀ e ∈ calls, ∃ c, e = .probed c true := by
  induction h with
  | nothing => simp
  | skipped _ ih => simpa [CheckStatus.isFine] using ih
  | @answered name c answer tools calls checks _ ih =>
    rw [List.all_cons, Bool.and_eq_true, ih, List.forall_mem_cons]
    refine and_congr_left fun _ => ?_
    cases answer <;> simp [CheckStatus.isFine]

end

theorem checkTools_asked (A : Agents σ) (tools : List (String × Option Command)) (w : World σ) :
    ∃ calls checks w', checkTools A.toRunner tools w = (.ok checks, w') ∧
      w.Continues A calls [] w' ∧ Asked tools calls checks := by
  induction tools generalizing w with
  | nil => exact ⟨[], [], w, rfl, .refl A w, .nothing⟩
  | cons tool tools ih =>
    obtain ⟨name, question⟩ := tool
    cases question with
    | none =>
      obtain ⟨calls, checks, w', hrest, continued, asked⟩ := ih w
      refine ⟨calls, _, w', ?_, continued, .skipped asked⟩
      rw [checkTools, Work.bind_of_ok hrest]
      rfl
    | some c =>
      let w₁ := (Work.probe A.toRunner c w).2
      have hprobe : Work.probe A.toRunner c w = (.ok (A.probe c w.toSite).1, w₁) := rfl
      obtain ⟨calls, checks, w', hrest, continued, asked⟩ := ih w₁
      refine ⟨_, _, w', ?_, (Work.continues_probe A w c).trans continued, .answered asked⟩
      rw [checkTools, Work.bind_of_ok hprobe, Work.bind_of_ok hrest]
      rfl

theorem questions_eq (platform : Option Platform) (c : Config) :
    (toolProbes platform c).filterMap Prod.snd = questions platform c := by
  unfold toolProbes questions
  cases platform <;> cases c.protos.compiler <;> rfl

/-- All that a fine verdict stands for: a platform, an answer to every question, and something at
each path that a build or a stub run starts from. -/
structure Fit (platform : Option Platform) (calls : List Event) (fs : FileSystem) (l : Layout)
    (c : Config) : Prop where
  platform : platform.isSome = true
  answers : ∀ e ∈ calls, ∃ question, e = .probed question true
  server : fs.has (l.serverDir c) = true
  archive : fs.has (l.archiveDir c) = true
  definitions : ∀ file ∈ c.protos.files, fs.has ((l.protoDir c).join ⟨file⟩) = true

theorem paths_fine_iff {fs : FileSystem} {l : Layout} {c : Config} :
    ((neededPaths l c).map (pathCheck fs)).all (·.status.isFine) = true ↔
      fs.has (l.serverDir c) = true ∧ fs.has (l.archiveDir c) = true ∧
        ∀ file ∈ c.protos.files, fs.has ((l.protoDir c).join ⟨file⟩) = true := by
  have hcheck (need : String × Path) :
      (pathCheck fs need).status.isFine = true ↔ fs.has need.2 = true := by
    cases h : fs.has need.2 <;> simp [pathCheck, h, CheckStatus.isFine]
  simp [neededPaths, hcheck]

/-- The checks of an examination are fine just if the host and the workspace are fit. -/
theorem fit_iff {platform : Option Platform} {calls : List Event} {tools : List Check}
    {fs : FileSystem} {l : Layout} {c : Config}
    (asked : Asked (toolProbes platform c) calls tools) :
    DoctorReport.isReady
        ⟨platform, platformCheck platform :: (tools ++ (neededPaths l c).map (pathCheck fs))⟩ =
      true ↔ Fit platform calls fs l c := by
  have hplatform : (platformCheck platform).status.isFine = platform.isSome := by
    cases platform <;> rfl
  rw [DoctorReport.isReady, List.all_cons, List.all_append, Bool.and_eq_true, Bool.and_eq_true,
    hplatform, asked.fine_iff, paths_fine_iff]
  constructor
  · rintro ⟨supported, answers, server, archive, definitions⟩
    exact ⟨supported, answers, server, archive, definitions⟩
  · rintro ⟨supported, answers, server, archive, definitions⟩
    exact ⟨supported, answers, server, archive, definitions⟩

/-- The whole examination. It asks its questions in order, each once, and nothing else; it has a
check for the platform, for each of the four tools, and for each path, those of the definition files
in the order of the settings; and its verdict is fine exactly when host and workspace are fit. -/
theorem verdict_exact (A : Agents σ) (hostRoot : Path) (l : Layout) (c : Config) (w : World σ) :
    let platform := Platform.detect? w.fs hostRoot
    ∃ report calls tools w', examine A.toRunner hostRoot l c w = (.ok report, w') ∧
      w.Continues A calls [] w' ∧
      calls.map Event.request? = (questions platform c).map (some ∘ .probe) ∧
      report.platform = platform ∧
      report.checks.map Check.name =
        ["platform", "package_manager", "unzip", "build_tool", "proto_compiler", "server_dir",
          "archive"] ++ c.protos.files.map ("proto:" ++ ·) ∧
      Asked (toolProbes platform c) calls tools ∧
      report.checks =
        platformCheck platform :: (tools ++ (neededPaths l c).map (pathCheck w'.fs)) ∧
      (report.overall = "ok" ↔ Fit platform calls w'.fs l c) ∧
      (¬ Fit platform calls w'.fs l c → report.overall = "needs_attention") := by
  intro platform
  obtain ⟨w₁, noted, hfound⟩ := findPlatform?_continues A hostRoot w
  obtain ⟨calls, tools, w', htools, continued, asked⟩ :=
    checkTools_asked A (toolProbes platform c) w₁
  let report : DoctorReport :=
    ⟨platform, platformCheck platform :: (tools ++ (neededPaths l c).map (pathCheck w'.fs))⟩
  have hexamine : examine A.toRunner hostRoot l c w = (.ok report, w') := by
    rw [examine, Work.bind_of_ok hfound, Work.bind_of_ok htools]
    rfl
  have hready : report.isReady = true ↔ Fit platform calls w'.fs l c := fit_iff asked
  refine ⟨report, calls, tools, w', hexamine, noted.trans continued, ?_, rfl, ?_, asked, rfl,
    ?_, ?_⟩
  · rw [asked.requests, questions_eq]
  · simp [report, asked.names, toolProbes, neededPaths, platformCheck, pathCheck, Function.comp_def]
  · rw [report.overall_eq_ok_iff, hready]
  · exact fun hunfit => report.overall_of_not_ready fun h => hunfit (hready.mp h)

end Doctor
end Provision
