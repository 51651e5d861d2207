import Provision.Proofs.Reporting
import Provision.Proofs.Settings

namespace Provision

namespace Platform

/-- The first marker decides, whatever else there is. -/
theorem detect?_eq (fs : FileSystem) (hostRoot : Path) : detect? fs hostRoot =
    if fs.has (debian.markerUnder hostRoot) then some debian
    else if fs.has (rhel.markerUnder hostRoot) then some rhel else none := by
  simp only [detect?, all, isMarked, List.find?_cons, List.find?_nil]
  cases fs.has (debian.markerUnder hostRoot) <;> cases fs.has (rhel.markerUnder hostRoot) <;> rfl

end Platform

namespace Config

variable {fs : FileSystem} {p root : Path} {named : Option Path} {e : Failure}

/-- What is wrong with a file that settings are to be read from. -/
inductive Unusable (fs : FileSystem) (p : Path) : Failure → Prop
  | unreadable {cause : IoError} (bytes : fs.read p = .error cause) :
    Unusable fs p ⟨.io cause, ["failed to read config " ++ p.text]⟩
  | garbled {bytes : ByteArray} (content : fs.read p = .ok bytes)
    (text : String.fromUTF8? bytes = none) :
    Unusable fs p ⟨.io .notText, ["failed to read config " ++ p.text]⟩
  | meaningless {bytes : ByteArray} {text : String} (content : fs.read p = .ok bytes)
    (decoded : String.fromUTF8? bytes = some text) (settings : ofText? text = none) :
    Unusable fs p ⟨malformed, ["invalid config " ++ p.text]⟩

theorem readFrom_eq_error_iff : readFrom fs p = .error e ↔ Unusable fs p e := by
  constructor
  · intro h
    unfold readFrom at h
    cases hread : fs.read p with
    | error cause =>
      rw [hread] at h
      cases h
      exact .unreadable hread
    | ok bytes =>
      rw [hread] at h
      dsimp only at h
      cases htext : String.fromUTF8? bytes with
      | none =>
        rw [htext] at h
        cases h
        exact .garbled hread htext
      | some text =>
        rw [htext] at h
        dsimp only at h
        cases hsettings : ofText? text with
        | none =>
          rw [hsettings] at h
          cases h
          exact .meaningless hread htext hsettings
        | some c =>
          rw [hsettings] at h
          cases h
  · intro h
    unfold readFrom
    cases h with
    | unreadable hread =>
      rw [hread]
      rfl
    | garbled hread htext =>
      rw [hread]
      dsimp only
      rw [htext]
      rfl
    | meaningless hread htext hsettings =>
      rw [hread]
      dsimp only
      rw [htext]
      dsimp only
      rw [hsettings]

/-- Settings cannot be loaded just when there is a file for them and it is unusable. -/
theorem load_eq_error_iff : load fs root named = .error e ↔
    ∃ p, source? fs root named = some p ∧ Unusable fs p e := by
  cases hsource : source? fs root named with
  | none => simp [load, hsource]
  | some p => simp [load_of_source hsource, readFrom_eq_error_iff]

end Config

/-- What keeps a build from starting, with the code that it is reported by. Each presupposes that
what is looked at before it is in order. -/
inductive Obstacle (fs : FileSystem) (i : Invocation) : String → Failure → Prop
  | unrooted {e : IoError} (root : fs.find i.root = .error e) :
    Obstacle fs i "ERROR" ⟨.io e, ["project root not found: " ++ i.root.text]⟩
  | misconfigured {l : Layout} {p : Path} {e : Failure} (root : Layout.resolve fs i.root = .ok l)
    (source : Config.source? fs l.root i.config = some p) (unusable : Config.Unusable fs p e) :
    Obstacle fs i "ERROR" e
  | unsupported {l : Layout} {c : Config} (root : Layout.resolve fs i.root = .ok l)
    (settings : Config.load fs l.root i.config = .ok c)
    (debian : fs.has (i.hostRoot.join ⟨"etc/debian_version"⟩) = false)
    (rhel : fs.has (i.hostRoot.join ⟨"etc/redhat-release"⟩) = false) :
    Obstacle fs i "UNSUPPORTED_HOST" (.ofFault (.unsupportedHost i.hostRoot))

namespace Obstacle

variable {fs : FileSystem} {i : Invocation} {code : String} {e : Failure}

theorem code_eq (h : Obstacle fs i code e) : e.code = code := by
  cases h with
  | unrooted => rfl
  | misconfigured _ _ unusable => cases unusable <;> rfl
  | unsupported => rfl

theorem processStatus_eq (h : Obstacle fs i code e) : e.processStatus = 1 := by
  cases h with
  | unrooted => rfl
  | misconfigured _ _ unusable => cases unusable <;> rfl
  | unsupported => rfl

end Obstacle

namespace Tool

variable {σ : Type} {fs : FileSystem} {i : Invocation} {e : Failure}

def preflight (fs : FileSystem) (i : Invocation) : Except Failure (Layout × Config × Platform) :=
  match Layout.resolve fs i.root with
  | .error e => .error e
  | .ok l =>
    match Config.load fs l.root i.config with
    | .error e => .error e
    | .ok c =>
      match Platform.detect? fs i.hostRoot with
      | none => .error (.ofFault (.unsupportedHost i.hostRoot))
      | some platform => .ok (l, c, platform)

theorem resolve_eq_error_iff {root : Path} : Layout.resolve fs root = .error e ↔
    ∃ cause, fs.find root = .error cause ∧
      e = ⟨.io cause, ["project root not found: " ++ root.text]⟩ := by
  unfold Layout.resolve FileSystem.realPath
  cases fs.find root with
  | error cause => simp [Except.map, Failure.ofIo, Failure.withContext, eq_comm]
  | ok found => simp [Except.map]

/-- What is looked at fails with the first obstacle, and only with that. -/
theorem preflight_eq_error_iff : preflight fs i = .error e ↔ ∃ code, Obstacle fs i code e := by
  constructor
  · intro h
    unfold preflight at h
    cases hroot : Layout.resolve fs i.root with
    | error e' =>
      rw [hroot] at h
      cases h
      obtain ⟨cause, hfind, rfl⟩ := resolve_eq_error_iff.mp hroot
      exact ⟨_, .unrooted hfind⟩
    | ok l =>
      rw [hroot] at h
      dsimp only at h
      cases hload : Config.load fs l.root i.config with
      | error e' =>
        rw [hload] at h
        cases h
        obtain ⟨p, hsource, unusable⟩ := Config.load_eq_error_iff.mp hload
        exact ⟨_, .misconfigured hroot hsource unusable⟩
      | ok c =>
        rw [hload] at h
        dsimp only at h
        rw [Platform.detect?_eq] at h
        cases hdebian : fs.has (Platform.debian.markerUnder i.hostRoot) with
        | true =>
          rw [hdebian] at h
          cases h
        | false =>
          cases hrhel : fs.has (Platform.rhel.markerUnder i.hostRoot) with
          | true =>
            rw [hdebian, hrhel] at h
            cases h
          | false =>
            rw [hdebian, hrhel] at h
            cases h
            exact ⟨_, .unsupported hroot hload hdebian hrhel⟩
  · rintro ⟨code, h⟩
    unfold preflight
    cases h with
    | unrooted hfind => rw [resolve_eq_error_iff.mpr ⟨_, hfind, rfl⟩]
    | misconfigured hroot hsource unusable =>
      rw [hroot]
      dsimp only
      rw [Config.load_eq_error_iff.mpr ⟨_, hsource, unusable⟩]
    | unsupported hroot hload hdebian hrhel =>
      rw [hroot]
      dsimp only
      rw [hload]
      dsimp only
      rw [Platform.detect?_eq, show fs.has (Platform.debian.markerUnder i.hostRoot) = _ from hdebian,
        show fs.has (Platform.rhel.markerUnder i.hostRoot) = _ from hrhel]
      rfl

theorem preflight_eq_ok {l : Layout} {c : Config} {platform : Platform}
    (h : preflight fs i = .ok (l, c, platform)) :
    Layout.resolve fs i.root = .ok l ∧ Config.load fs l.root i.config = .ok c ∧
      Platform.detect? fs i.hostRoot = some platform := by
  unfold preflight at h
  cases hroot : Layout.resolve fs i.root with
  | error e =>
    rw [hroot] at h
    cases h
  | ok l' =>
    rw [hroot] at h
    dsimp only at h
    cases hload : Config.load fs l'.root i.config with
    | error e =>
      rw [hload] at h
      cases h
    | ok c' =>
      rw [hload] at h
      dsimp only at h
      cases hplatform : Platform.detect? fs i.hostRoot with
      | none =>
        rw [hplatform] at h
        cases h
      | some platform' =>
        rw [hplatform] at h
        cases h
        exact ⟨rfl, hload, rfl⟩

/-- A build fails with what it finds when it looks, or its run is that of its plan. -/
theorem work_build (A : Agents σ) (s : Surroundings) {variant : Option Variant} {dryRun : Bool}
    (ht : i.task = .build variant dryRun) (w : World σ) :
    ∃ w₀, w.Continues A [] [] w₀ ∧
      match preflight w.fs i with
      | .error e => work A s i w = (.error e, w₀)
      | .ok (l, c, platform) => work A s i w =
          (((buildPlan s l c platform variant dryRun).run A s.privilege w₀).1.map .ofOutcome,
            ((buildPlan s l c platform variant dryRun).run A s.privilege w₀).2) := by
  obtain ⟨w₁, hw, hwork⟩ := work_cases A s i w
  unfold preflight
  cases hroot : Layout.resolve w.fs i.root with
  | error e =>
    rw [hroot] at hwork
    exact ⟨w₁, hw, hwork⟩
  | ok l =>
    rw [hroot] at hwork
    dsimp only at hwork ⊢
    cases hload : Config.load w.fs l.root i.config with
    | error e =>
      rw [hload] at hwork
      exact ⟨w₁, hw, hwork⟩
    | ok c =>
      rw [hload] at hwork
      dsimp only at hwork ⊢
      obtain ⟨w₀, hw₀, hbuild⟩ := build_cases A s i.hostRoot l c variant dryRun w₁
      have hsite : w.toSite = w₁.toSite := hw.after
      rw [← hsite] at hbuild
      have hperform : work A s i w = build A s i.hostRoot l c variant dryRun w₁ := by
        rw [hwork, perform, ht]
      rw [hperform]
      refine ⟨w₀, hw.trans hw₀, ?_⟩
      cases hplatform : Platform.detect? w.fs i.hostRoot with
      | none =>
        rw [hplatform] at hbuild
        exact hbuild
      | some platform =>
        rw [hplatform] at hbuild
        exact hbuild

/-- An obstacle ends a build before it has asked or changed anything, whoever its agents are. -/
theorem work_obstructed {s : Surroundings} {variant : Option Variant} {dryRun : Bool}
    {code : String} {x : Site σ} (A : Agents σ) (ht : i.task = .build variant dryRun)
    (h : Obstacle x.fs i code e) :
    let after := work A s i { toSite := x }
    after.1 = .error e ∧ after.2.calls = [] ∧ after.2.toSite = x := by
  obtain ⟨w₀, hw, hwork⟩ := work_build A s ht { toSite := x }
  rw [show preflight x.fs i = .error e from preflight_eq_error_iff.mpr ⟨code, h⟩] at hwork
  intro after
  rw [show after = _ from hwork]
  exact ⟨rfl, hw.calls_eq, hw.after.symm⟩

theorem finish_error (filter : Log.Filter) (i : Invocation) (e : Failure) (w : World σ)
    (hw : w.calls = []) :
    let f := finish filter i (.error e) w
    f.status = e.processStatus ∧ f.fs = w.fs ∧ f.printed.out = (e.printed i.json).out ∧
      ∃ notes, f.printed.err = notes ++ (e.printed i.json).err := by
  have hquiet : w.output = "" := by
    rw [World.output_calls, hw]
    rfl
  intro f
  refine ⟨rfl, rfl, ?_, _, rfl⟩
  rw [finish_out, hquiet, ite_self]
  exact String.empty_append

/-- What a build looks at before it starts. Where the root cannot be found, or else the settings
cannot be loaded, or else the host has no marker, the run ends with that failure and status 1; no
agent has been asked for anything, so there was no reinvocation either, and the files are as they
were. Any other build is the run of its plan, which is one for Debian if Debian's marker is there. -/
theorem build_preflight {s : Surroundings} {i : Invocation} {variant : Option Variant}
    {dryRun : Bool}
    (hi : Invocation.parse (s.environment.value? Invocation.hostRootVariable) s.args = .ok i)
    (ht : i.task = .build variant dryRun) :
    (∀ (fs : FileSystem) (code : String) (e : Failure), Obstacle fs i code e →
      e.code = code ∧
      (∀ {σ : Type} (A : Agents σ) (x : Site σ), x.fs = fs →
        let after := work A s i { toSite := x }
        after.1 = .error e ∧ after.2.calls = [] ∧ after.2.toSite = x) ∧
      ∀ network, let f := Tool.run s network fs
        f.status = 1 ∧ f.fs = fs ∧ f.printed.out = (e.printed i.json).out ∧
          ∃ notes, f.printed.err = notes ++ (e.printed i.json).err) ∧
    ∀ fs : FileSystem, (∀ code e, ¬ Obstacle fs i code e) →
      ∃ l c platform, Layout.resolve fs i.root = .ok l ∧ Config.load fs l.root i.config = .ok c ∧
        let plan := buildPlan s l c platform variant dryRun
        (fs.has (i.hostRoot.join ⟨"etc/debian_version"⟩) = true →
          plan.platform.profile = .debian) ∧
        ∀ {σ : Type} (A : Agents σ) (x : Site σ), x.fs = fs →
          ∃ w₀ : World σ, w₀.calls = [] ∧ w₀.toSite = x ∧ work A s i { toSite := x } =
            ((plan.run A s.privilege w₀).1.map .ofOutcome, (plan.run A s.privilege w₀).2) := by
  constructor
  · intro fs code e h
    refine ⟨h.code_eq, ?_, fun network => ?_⟩
    · rintro σ A x rfl
      exact work_obstructed A ht h
    · rw [run_eq_runBy, runBy_of_parse hi]
      generalize (if i.task.isReal then doers s.environment network else planners) = A
      obtain ⟨hresult, hcalls, hsite⟩ := work_obstructed (s := s) (x := ⟨fs, ()⟩) A ht h
      have hfinish := finish_error (logFilter s i) i e _ hcalls
      rw [h.processStatus_eq, hsite, ← hresult] at hfinish
      exact hfinish
  · intro fs hclear
    cases hlook : preflight fs i with
    | error e =>
      obtain ⟨code, h⟩ := preflight_eq_error_iff.mp hlook
      exact absurd h (hclear code e)
    | ok found =>
      obtain ⟨l, c, platform⟩ := found
      obtain ⟨hroot, hload, hplatform⟩ := preflight_eq_ok hlook
      refine ⟨l, c, platform, hroot, hload, fun hdebian => ?_, ?_⟩
      · rw [Platform.detect?_eq, Platform.markerUnder, Platform.marker, hdebian] at hplatform
        cases hplatform
        rfl
      · rintro σ A x rfl
        obtain ⟨w₀, hw, hwork⟩ := work_build A s ht { toSite := x }
        rw [show preflight x.fs i = _ from hlook] at hwork
        exact ⟨w₀, hw.calls_eq, hw.after.symm, hwork⟩

/-- A build on a host of neither family, by a user who would have to ask for more privileges. Without
the workspace that is what the run fails with; with a workspace but without the named settings it
fails with those; and only with both does the host come to be asked about. -/
theorem unsupported_host_not_escalated :
    let s : Surroundings :=
      { executable := ⟨"/usr/bin/bastion-dev"⟩
        args := ["--root", "/w", "--config", "/w/own.toml", "--json", "build"] }
    let i : Invocation :=
      { json := true, root := ⟨"/w"⟩, config := some ⟨"/w/own.toml"⟩, task := .build none false }
    let unrooted : FileSystem := {}
    let unsettled : FileSystem := { entries := [(["w"], .directory)] }
    let complete : FileSystem :=
      { entries := [(["w"], .directory), (["w", "own.toml"], .file .empty false)] }
    let failsWith (fs : FileSystem) (code : String) (e : Failure) : Prop :=
      Obstacle fs i code e ∧ (Tool.run s .unreachable fs).status = 1 ∧
        (Tool.run s .unreachable fs).fs = fs ∧
        (Tool.run s .unreachable fs).printed.out = e.toJson.pretty ++ "\n"
    Invocation.parse (s.environment.value? Invocation.hostRootVariable) s.args = .ok i ∧
      i.task = .build none false ∧ s.privilege.decide = .reinvoke ∧
      failsWith unrooted "ERROR" ⟨.io .noEntry, ["project root not found: /w"]⟩ ∧
      failsWith unsettled "ERROR" ⟨.io .noEntry, ["failed to read config /w/own.toml"]⟩ ∧
      failsWith complete "UNSUPPORTED_HOST" (.ofFault (.unsupportedHost ⟨"/"⟩)) := by
  intro s i unrooted unsettled complete failsWith
  have hi : Invocation.parse (s.environment.value? Invocation.hostRootVariable) s.args = .ok i := by
    decide +kernel
  have failing {fs : FileSystem} {code : String} {e : Failure} (h : Obstacle fs i code e) :
      failsWith fs code e := by
    obtain ⟨-, -, hrun⟩ := (build_preflight hi rfl).1 fs code e h
    obtain ⟨hstatus, hfs, hout, -⟩ := hrun .unreachable
    exact ⟨h, hstatus, hfs, hout⟩
  have rooted : Layout.resolve unsettled ⟨"/w"⟩ = .ok ⟨⟨"/w"⟩⟩ := by decide +kernel
  have rooted' : Layout.resolve complete ⟨"/w"⟩ = .ok ⟨⟨"/w"⟩⟩ := by decide +kernel
  refine ⟨hi, rfl, by decide +kernel, failing ?_, failing ?_, failing ?_⟩
  · exact .unrooted (by decide +kernel)
  · exact .misconfigured rooted rfl (.unreadable (by decide +kernel))
  · exact .unsupported rooted' (c := {}) (by rfl) (by decide +kernel) (by decide +kernel)

end Tool
end Provision
