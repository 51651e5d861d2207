import Mathlib.Data.String.Basic
import Provision.Proofs.ChecksumGate
import Provision.Proofs.Parents
import Provision.Proofs.PlannedRun
import Provision.Proofs.StubRun

namespace Provision

variable {σ : Type}

theorem exists_ran_of_command {e : Event} {c : Command} (h : e.command? = some c) :
    ∃ r printed, e = .ran c r printed := by
  cases e with
  | ran command r printed =>
    cases h
    exact ⟨r, printed, rfl⟩
  | noted => cases h
  | probed => cases h
  | fetched => cases h

theorem Work.world_of_map {α β : Type} (x : Work σ α) (f : α → β) (w : World σ) :
    ((x >>= fun a => pure (f a)) w).2 = (x w).2 := by
  rw [bind_apply]
  cases x w with
  | mk r w' => cases r <;> rfl

namespace Layout

variable {l : Layout} {c : Config}

def unpackInto (l : Layout) (c : Config) : Path := (l.archiveDir c).parent?.getD ⟨"."⟩

/-- The archive directory is the root, but written with more than a path may have, so that it is
not found. -/
structure Overlong (l : Layout) (c : Config) : Prop where
  parentless : (l.archiveDir c).parent? = none
  long : FileSystem.pathLimit < (l.archiveDir c).text.utf8ByteSize

/-- The archive's directory and its zip lie in the directory that the zip is unpacked in. -/
theorem parent?_archive {name : String} (hl : l.root.isAbsolute = true)
    (hn : (l.archiveDir c).fileName? = some name) :
    (l.archiveDir c).parent? = some (l.unpackInto c) ∧
      (l.archiveZip c).parent? = some (l.unpackInto c) := by
  have habsolute := isAbsolute_archiveDir c hl
  obtain ⟨init, back, -, named⟩ := Path.rooted_of_fileName habsolute hn
  have hzip : (name ++ ".zip").toList = name.toList ++ ['.', 'z', 'i', 'p'] := String.toList_append
  have hclean : '/' ∉ (name ++ ".zip").toList := by
    have hpiece : name.toList ∈ Path.segments (l.archiveDir c).chars := by
      rw [named.pieces]
      simp
    have hname : '/' ∉ name.toList := Path.slash_not_mem hpiece
    simp [hzip, hname]
  have hblank : Path.isBlank (name ++ ".zip").toList = false := by
    rw [hzip]
    cases name.toList <;> simp [Path.isBlank]
  obtain ⟨q, hq, hparent⟩ := Path.parent?_withFileName habsolute hn hclean hblank
  have hdir : l.unpackInto c = q := by rw [unpackInto, hq, Option.getD_some]
  rw [hdir]
  refine ⟨hq, ?_⟩
  unfold archiveZip
  simp only [hn, Option.getD_some]
  exact hparent

/-- An archive is unpacked in a directory from the root, unless its own is too long to be found. -/
theorem unpackInto_rooted {fs : FileSystem} (hl : l.root.isAbsolute = true)
    (absent : fs.has (l.archiveDir c) = false) :
    (l.unpackInto c).isAbsolute = true ∨ l.unpackInto c = ⟨"."⟩ ∧ l.Overlong c := by
  have habsolute := isAbsolute_archiveDir c hl
  unfold unpackInto
  cases hparent : (l.archiveDir c).parent? with
  | some q => exact .inl (Path.isAbsolute_parent habsolute hparent)
  | none =>
    refine .inr ⟨rfl, hparent, Nat.lt_of_not_le fun hlen => ?_⟩
    rw [fs.has_of_parentless habsolute hparent hlen] at absent
    cases absent

end Layout

namespace BootstrapPlan

variable {plan : BootstrapPlan} {missing : List String} {present : Bool}

theorem refresh_of_mem_stages {c : Command} (h : .refresh c ∈ plan.stages missing present) :
    plan.platform.profile.refresh = some c := by
  have hinstall : .refresh c ∈ plan.installStages missing := by
    cases present <;> simpa [stages, packageStages, archiveStages] using h
  unfold installStages at hinstall
  split at hinstall
  · cases hinstall
  · simpa using hinstall

/-- An archive is unpacked only where it was not found. -/
theorem absent_of_mem_stages (h : .unzip ∈ plan.stages missing present) : present = false := by
  cases present with
  | false => rfl
  | true =>
    have hpackages := plan.unzip_not_mem_packageStages missing
    simp [stages, archiveStages, hpackages] at h

/-- A dry run whose archive is never found unpacks it, if no command fails. -/
theorem dry_run_unzips {A : Agents σ} (hd : plan.dryRun = true)
    (hruns : ∀ c s, (A.run c s).1.1 = .ok ())
    (habsent : ∀ fs : FileSystem, fs.has plan.archiveDir = false) (escalation : Escalation)
    (w : World σ) : ∃ r printed,
      .ran plan.archiveRequest.unzip r printed ∈ (plan.perform A escalation w).2.calls := by
  obtain ⟨report, w', hperform⟩ := perform_of_dry hd hruns escalation w
  obtain ⟨calls, t, hcalls, passes, -⟩ := perform_completed hperform
  rw [stagesOf, habsent] at passes
  have hstage : .unzip ∈ plan.stages (missingAmong plan.packages calls) false := by
    simp [stages, archiveStages]
  have hreq := List.mem_map_of_mem (f := some ∘ plan.request) hstage
  rw [← passes.requests] at hreq
  obtain ⟨e, he, hask⟩ := List.mem_map.mp hreq
  obtain ⟨r, printed, rfl⟩ := exists_ran_of_command (command_of_request hask)
  rw [hperform, hcalls]
  exact ⟨r, printed, List.mem_append_right _ he⟩

end BootstrapPlan

namespace StubRequest

theorem InTurn.mem_of_ran {α : Type} {commands : List Command} {a : α} {calls : List Event}
    {result : Except Failure α} {c : Command} {r : Except Failure Unit} {printed : Printed}
    (h : InTurn commands a calls result) (hmem : .ran c r printed ∈ calls) : c ∈ commands := by
  have of_asked {before : List Event} {done : List Command}
      (asked : before.map Event.request? = done.map (some ∘ .run))
      (hmem : .ran c r printed ∈ before) : c ∈ done := by
    have hreq := List.mem_map_of_mem (f := Event.request?) hmem
    rw [asked] at hreq
    obtain ⟨c', hc', heq⟩ := List.mem_map.mp hreq
    cases heq
    exact hc'
  cases h with
  | through asked => exact of_asked asked hmem
  | upTo done split asked =>
    rw [split]
    rcases List.mem_append.mp hmem with hmem | hmem
    · exact List.mem_append_left _ (of_asked asked hmem)
    · cases List.mem_singleton.mp hmem
      simp

end StubRequest

namespace Tool

/-- The commands that runs in a workspace come to, each with the paths that stand alone in it: those
that are a word of their own, and the directory to run in. -/
inductive Issued (s : Surroundings) (l : Layout) (c : Config) : Command → List Path → Prop
  | reinvoked : Issued s l c (reinvocation c.privilege.helper s.executable s.args) []
  | refreshed {command : Command} (platform : Platform)
    (refresh : platform.profile.refresh = some command) : Issued s l c command []
  | installed (platform : Platform) (packages : List String) :
    Issued s l c (platform.profile.installing packages) []
  | unpacked {fs : FileSystem} (absent : fs.has (l.archiveDir c) = false) :
    Issued s l c (.unpacking (l.archiveZip c) (l.unpackInto c))
      [l.archiveZip c, l.unpackInto c]
  | built (vars : List (String × String)) :
    Issued s l c ⟨c.build.program, c.build.args, some (l.serverDir c), vars⟩ [l.serverDir c]
  | compiled {command : Command} {compiler : Option String} {dryRun : Bool} {outDir : Path}
    {file : String} (listed : file ∈ c.protos.files)
    (words : Command.ofWords? ((stubRequest l c compiler dryRun).words outDir file) =
      some command) :
    Issued s l c command [(l.protoDir c).join ⟨file⟩]

variable {A : Agents σ} {s : Surroundings} {i : Invocation} {l : Layout} {c : Config}
  {command : Command} {paths : List Path}

/-- A path that stands alone starts at the root. The exception is where the zip of an archive is
unpacked that was not found because its directory is too long. -/
theorem Issued.rooted (hl : l.root.isAbsolute = true) (h : Issued s l c command paths) :
    ∀ p ∈ paths, p.isAbsolute = true ∨
      p = ⟨"."⟩ ∧ command = .unpacking (l.archiveZip c) p ∧ l.Overlong c := by
  cases h with
  | reinvoked => simp
  | refreshed => simp
  | installed => simp
  | unpacked absent =>
    intro p hp
    rcases List.mem_pair.mp hp with rfl | rfl
    · exact .inl (Layout.isAbsolute_archiveZip c hl)
    · rcases Layout.unpackInto_rooted hl absent with hrooted | ⟨hhere, overlong⟩
      · exact .inl hrooted
      · exact .inr ⟨hhere, rfl, overlong⟩
  | built =>
    intro p hp
    rw [List.mem_singleton.mp hp]
    exact .inl (Path.isAbsolute_join _ hl)
  | compiled =>
    intro p hp
    rw [List.mem_singleton.mp hp]
    exact .inl (Path.isAbsolute_join _ (Path.isAbsolute_join _ hl))

def Issues (s : Surroundings) (l : Layout) (c : Config) (w w' : World σ) : Prop :=
  ∃ calls, w'.calls = w.calls ++ calls ∧ ∀ command r printed,
    .ran command r printed ∈ calls → ∃ paths, Issued s l c command paths

theorem Issues.of_calls {w w' : World σ} (h : w'.calls = w.calls) : Issues s l c w w' :=
  ⟨[], by rw [h, List.append_nil], by simp⟩

/-- A request of a stage of a build is one of the commands, if it is to run one. -/
theorem issued_of_stage {platform : Platform} {variant : Option Variant} {dryRun : Bool}
    {site : Site σ} {calls : List Event} {g : Stage}
    (hg : g ∈ (buildPlan s l c platform variant dryRun).stagesOf A site calls)
    (hreq : (buildPlan s l c platform variant dryRun).request g = .run command) :
    ∃ paths, Issued s l c command paths := by
  cases g with
  | probe => cases hreq
  | fetch => cases hreq
  | refresh =>
    cases hreq
    exact ⟨_, .refreshed platform (BootstrapPlan.refresh_of_mem_stages hg)⟩
  | install missing =>
    cases hreq
    exact ⟨_, .installed platform missing⟩
  | unzip =>
    cases hreq
    exact ⟨_, .unpacked (BootstrapPlan.absent_of_mem_stages hg)⟩
  | build =>
    cases hreq
    exact ⟨_, .built _⟩

theorem build_issues (A : Agents σ) (s : Surroundings) (hostRoot : Path) (l : Layout) (c : Config)
    (variant : Option Variant) (dryRun : Bool) (w : World σ) :
    Issues s l c w (build A s hostRoot l c variant dryRun w).2 := by
  obtain ⟨w₀, hw, hbuild⟩ := build_cases A s hostRoot l c variant dryRun w
  have hcalls₀ : w₀.calls = w.calls := by rw [hw.calls_eq, List.append_nil]
  cases hd : Platform.detect? w.fs hostRoot with
  | none =>
    rw [hd] at hbuild
    rw [show build A s hostRoot l c variant dryRun w = _ from hbuild]
    exact .of_calls hcalls₀
  | some platform =>
    rw [hd] at hbuild
    rw [show build A s hostRoot l c variant dryRun w = _ from hbuild]
    obtain ⟨calls, hcalls, asked⟩ :=
      BootstrapPlan.run_asks A (buildPlan s l c platform variant dryRun) s.privilege w₀
    refine ⟨calls, by rw [← hcalls₀]; exact hcalls, fun command r printed hmem => ?_⟩
    rcases asked _ hmem with hreq | ⟨g, hg, hreq⟩
    · cases hreq
      exact ⟨_, .reinvoked⟩
    · exact issued_of_stage hg (Option.some.inj hreq).symm

theorem generate_issues (A : Agents σ) (s : Surroundings) (l : Layout) (c : Config)
    (compiler : Option String) (dryRun : Bool) (w : World σ) :
    Issues s l c w ((stubRequest l c compiler dryRun).generate A.toRunner w).2 := by
  let req := stubRequest l c compiler dryRun
  have hprepare := req.prepare_calls w
  cases hp : req.prepare w with
  | mk r w₁ =>
    rw [hp] at hprepare
    cases r with
    | error e =>
      rw [StubRequest.generate_of_unprepared hp]
      exact .of_calls hprepare
    | ok outDir =>
      rcases req.plan_spec w₁.fs outDir req.files with
        ⟨e, hplan, -⟩ | ⟨commands, hplan, -, hcommands⟩
      · rw [StubRequest.generate_of_refused hp hplan]
        exact .of_calls hprepare
      · obtain ⟨calls, continued, inTurn⟩ := StubRequest.generate_of_planned (A := A) hp hplan
        refine ⟨calls, by rw [continued.calls_eq]; exact congrArg (· ++ calls) hprepare, ?_⟩
        intro command r printed hmem
        have hcommand := List.mem_map_of_mem (f := some) (inTurn.mem_of_ran hmem)
        rw [hcommands] at hcommand
        obtain ⟨file, hfile, hwords⟩ := List.mem_map.mp hcommand
        exact ⟨_, .compiled hfile hwords⟩

theorem perform_issues (A : Agents σ) (s : Surroundings) (i : Invocation) (l : Layout) (c : Config)
    (w : World σ) : Issues s l c w (perform A s i l c w).2 := by
  unfold perform
  cases i.task with
  | build variant dryRun => exact build_issues A s i.hostRoot l c variant dryRun w
  | env => exact .of_calls rfl
  | protos compiler dryRun =>
    dsimp only
    rw [Work.world_of_map]
    exact generate_issues A s l c compiler dryRun w
  | doctor =>
    dsimp only
    rw [Work.world_of_map]
    obtain ⟨calls, hcalls, -, only⟩ := Doctor.onlyAsks_examine A i.hostRoot l c w
    refine ⟨calls, hcalls, fun command r printed hmem => ?_⟩
    obtain ⟨q, hq, hprobe⟩ := only _ hmem
    cases hq
    cases hprobe

/-- No configured path can be taken for an option. A layout that was resolved has an absolute root.
Where the root is absolute, so is every path that stands alone in a command of any run, whatever the
settings are: the zip and the directory that it is unpacked in, the file to compile, the directory
of the build. The one exception is an archive directory that is the root, but written so long that
it is not found, whose zip is unpacked where the tool runs. An archive that has a name lies, like
its zip, in the directory that the zip is unpacked in. -/
theorem configured_paths_rooted :
    (∀ (fs : FileSystem) (root : Path) (l : Layout), Layout.resolve fs root = .ok l →
      l.root.isAbsolute = true) ∧
    ∀ l : Layout, l.root.isAbsolute = true → ∀ c : Config,
      (∀ name, (l.archiveDir c).fileName? = some name →
        (l.archiveDir c).parent? = some (l.unpackInto c) ∧
          (l.archiveZip c).parent? = some (l.unpackInto c)) ∧
      ∀ {σ : Type} (A : Agents σ) (s : Surroundings) (i : Invocation) (w : World σ),
        ∃ calls, (perform A s i l c w).2.calls = w.calls ++ calls ∧
          ∀ command r printed, .ran command r printed ∈ calls →
            ∃ paths, Issued s l c command paths ∧ ∀ p ∈ paths, p.text ≠ "" ∧
              (p.isAbsolute = true ∨
                p = ⟨"."⟩ ∧ command = .unpacking (l.archiveZip c) p ∧ l.Overlong c) := by
  refine ⟨fun fs root l h => Layout.isAbsolute_root h, fun l hl c => ?_⟩
  refine ⟨fun name hn => Layout.parent?_archive hl hn, fun A s i w => ?_⟩
  obtain ⟨calls, hcalls, issued⟩ := perform_issues A s i l c w
  refine ⟨calls, hcalls, fun command r printed hmem => ?_⟩
  obtain ⟨paths, h⟩ := issued command r printed hmem
  refine ⟨paths, h, fun p hp => ?_⟩
  have hrooted := h.rooted hl p hp
  refine ⟨?_, hrooted⟩
  rcases hrooted with hroot | ⟨rfl, -⟩
  · exact Path.text_ne_empty hroot
  · simp

def optionLike : Config where
  archive := { dir := "-d//." }
  build := { serverDir := "--all" }

/-- Settings whose names look like options: a dry build plans to unpack the zip in the workspace. -/
theorem option_like_paths_rooted :
    let l : Layout := ⟨⟨"/w"⟩⟩
    let i : Invocation := { root := ⟨"/w"⟩, task := .build none true }
    let unzip : Command := .unpacking ⟨"/w/-d.zip"⟩ ⟨"/w"⟩
    Layout.resolve emptyWorkspace.fs i.root = .ok l ∧ l.root.isAbsolute = true ∧
      (l.archiveDir optionLike).fileName? = some "-d" ∧
      (l.archiveDir optionLike).parent? = some ⟨"/w"⟩ ∧
      (l.archiveZip optionLike).parent? = some ⟨"/w"⟩ ∧
      (∃ r printed, .ran unzip r printed ∈
        (perform planners asRoot i l optionLike emptyWorkspace).2.calls) ∧
      ∃ paths, Issued asRoot l optionLike unzip paths ∧ ∀ p ∈ paths, p.text ≠ "" ∧
        (p.isAbsolute = true ∨ p = ⟨"."⟩ ∧
          unzip = .unpacking (l.archiveZip optionLike) p ∧ l.Overlong optionLike) := by
  intro l i unzip
  have hresolve : Layout.resolve emptyWorkspace.fs i.root = .ok l := by decide +kernel
  have hname : (l.archiveDir optionLike).fileName? = some "-d" := by decide +kernel
  have hinto : l.unpackInto optionLike = ⟨"/w"⟩ := by decide +kernel
  have hran : unzip ∈ (perform planners asRoot i l optionLike emptyWorkspace).2.calls.filterMap
      Event.command? := by
    decide +kernel
  have hl := configured_paths_rooted.1 _ _ _ hresolve
  obtain ⟨siblings, runs⟩ := configured_paths_rooted.2 l hl optionLike
  obtain ⟨hdir, hzip⟩ := siblings "-d" hname
  rw [hinto] at hdir hzip
  obtain ⟨calls, hcalls, issued⟩ := runs planners asRoot i emptyWorkspace
  obtain ⟨e, he, hcommand⟩ := List.mem_filterMap.mp hran
  obtain ⟨r, printed, rfl⟩ := exists_ran_of_command hcommand
  have hmem := he
  rw [hcalls] at hmem
  exact ⟨hresolve, hl, hname, hdir, hzip, ⟨r, printed, he⟩, issued unzip r printed hmem⟩

/-- An archive directory that is too long is not found on any host, and a dry build plans to unpack
its zip where the tool runs. -/
theorem overlong_unpacked_here {hostRoot : Path} {platform : Platform} {variant : Option Variant}
    {w : World σ} (h : l.Overlong c) (hplatform : Platform.detect? w.fs hostRoot = some platform) :
    ∃ r printed, .ran (.unpacking (l.archiveZip c) ⟨"."⟩) r printed ∈
      (build planners s hostRoot l c variant true w).2.calls := by
  have hinto : l.unpackInto c = ⟨"."⟩ := by
    rw [Layout.unpackInto, h.parentless]
    rfl
  let plan := buildPlan s l c platform variant true
  obtain ⟨w₀, -, hbuild⟩ := build_cases planners s hostRoot l c variant true w
  rw [hplatform] at hbuild
  have hrun : (build planners s hostRoot l c variant true w).2 =
      (plan.perform planners s.privilege.decide w₀).2 := by
    rw [show build planners s hostRoot l c variant true w = _ from hbuild]
    exact (BootstrapPlan.run_performed planners plan (fun _ => rfl) w₀).2
  rw [hrun, ← hinto]
  exact BootstrapPlan.dry_run_unzips rfl (fun _ _ => rfl) (fun fs => fs.not_has_of_long h.long) _ w₀

def slashes (n : Nat) : Path := Path.ofChars (List.replicate n '/')

theorem slashes_eq_rooted (n : Nat) : slashes (n + 1) = Path.rooted (List.replicate (n + 1) []) := by
  apply Path.eq_of_chars
  rw [Path.chars_rooted, slashes, Path.ofChars, Path.chars, String.toList_ofList,
    List.replicate_succ (n := n) (a := '/')]
  congr 1
  induction n with
  | zero => rfl
  | succ n ih =>
    rw [List.replicate_succ (a := '/'), ih]
    rfl

theorem utf8ByteSize_slashes (n : Nat) : (slashes n).text.utf8ByteSize = n := by
  rw [slashes, Path.ofChars, String.utf8ByteSize_ofList]
  induction n with
  | zero => rfl
  | succ n ih =>
    rw [List.replicate_succ, String.utf8Len_cons, ih]
    rfl

def slashedArchive : Config where
  archive := { dir := (slashes 5000).text }

theorem slashedArchive_overlong (l : Layout) : l.Overlong slashedArchive := by
  have hslashes : slashes 5000 = Path.rooted (List.replicate 5000 []) := slashes_eq_rooted 4999
  have hdir : l.archiveDir slashedArchive = slashes 5000 := by
    refine Path.join_of_absolute ?_
    rw [show (⟨slashedArchive.archive.dir⟩ : Path) = slashes 5000 from rfl, hslashes]
    exact Path.isAbsolute_rooted _
  constructor
  · rw [hdir, hslashes]
    refine Path.parent?_of_blank ?_ ?_
    · intro s hs
      rw [List.eq_of_mem_replicate hs]
      simp
    · intro s hs
      rw [List.eq_of_mem_replicate hs]
      rfl
  · rw [hdir, utf8ByteSize_slashes]
    decide

/-- The root is there, and yet a dry build of a workspace whose archive directory is the root plans
to unpack the zip where the tool runs. -/
theorem slashed_archive_unpacked_here :
    let l : Layout := ⟨⟨"/w"⟩⟩
    let i : Invocation := { root := ⟨"/w"⟩, task := .build none true }
    let here : Path := ⟨"."⟩
    Layout.resolve emptyWorkspace.fs i.root = .ok l ∧ l.root.isAbsolute = true ∧
      emptyWorkspace.fs.has ⟨"/"⟩ = true ∧ here.isAbsolute = false ∧
      ∃ r printed, .ran (.unpacking (l.archiveZip slashedArchive) here) r printed ∈
        (perform planners asRoot i l slashedArchive emptyWorkspace).2.calls := by
  intro l i here
  have hresolve : Layout.resolve emptyWorkspace.fs i.root = .ok l := by decide +kernel
  have hplatform : Platform.detect? emptyWorkspace.fs i.hostRoot = some .debian := by
    decide +kernel
  refine ⟨hresolve, by decide, by decide +kernel, by decide, ?_⟩
  exact overlong_unpacked_here (slashedArchive_overlong l) hplatform

end Tool
end Provision
