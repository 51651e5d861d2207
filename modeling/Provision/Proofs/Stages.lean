import Provision.Bootstrap
import Provision.Proofs.Calls
import Provision.Proofs.Removal

namespace Provision

variable {σ : Type}

namespace FileSystem

variable {fs : FileSystem} {p : Path} {expected : String}

theorem sha256_eq_error {e : IoError} :
    fs.sha256 p = .error e ↔ fs.read p = .error e := by
  unfold sha256
  cases fs.read p <;> simp [Except.map]

theorem sha256_eq_ok {actual : String} :
    fs.sha256 p = .ok actual ↔ ∃ content, fs.read p = .ok content ∧ Sha256.hex content = actual := by
  unfold sha256
  cases fs.read p <;> simp [Except.map]

/-- The zip can be read, and the digest of its bytes is the wanted one, blanks around that and the
case of letters aside. -/
def Verified (fs : FileSystem) (zip : Path) (expected : String) : Prop :=
  ∃ content, fs.read zip = .ok content ∧
    Text.equalIgnoringCase (Sha256.hex content) (Text.trim expected) = true

theorem verified_iff :
    fs.Verified p expected ↔
      ∃ actual, fs.sha256 p = .ok actual ∧ ArchiveRequest.accepts expected actual = true := by
  constructor
  · rintro ⟨content, hread, ha⟩
    exact ⟨_, sha256_eq_ok.mpr ⟨content, hread, rfl⟩, ha⟩
  · rintro ⟨_, hr, ha⟩
    obtain ⟨content, hread, rfl⟩ := sha256_eq_ok.mp hr
    exact ⟨content, hread, ha⟩

theorem not_verified_of_unreadable {e : IoError} (h : fs.read p = .error e) :
    ¬ fs.Verified p expected := by
  rintro ⟨content, hread, _⟩
  cases h.symm.trans hread

theorem not_verified_of_mismatch {content : ByteArray} (h : fs.read p = .ok content)
    (hd : Text.equalIgnoringCase (Sha256.hex content) (Text.trim expected) = false) :
    ¬ fs.Verified p expected := by
  rintro ⟨content', hread, hd'⟩
  cases h.symm.trans hread
  exact Bool.false_ne_true (hd.symm.trans hd')

/-- What is left when a zip was unpacked: not the zip, unless it cannot be removed. -/
def tidied (fs : FileSystem) (zip : Path) : FileSystem :=
  if fs.has zip then fs.dropFile zip else fs

end FileSystem

/-- The command that unpacks a zip into a directory. -/
def Command.unpacking (zip into : Path) : Command where
  program := "unzip"
  args := ["-q", "-o", zip.text, "-d", into.text]

namespace PlatformProfile

/-- The command that asks for a package: the words for that, and then the name. -/
def asking (profile : PlatformProfile) (package : String) : Command :=
  { profile.probe with args := profile.probe.args ++ [package] }

/-- The command that installs packages: the words for that, and then just the names. -/
def installing (profile : PlatformProfile) (packages : List String) : Command :=
  { profile.install with args := profile.install.args ++ packages }

theorem installOf_eq (profile : PlatformProfile) (packages : List String) :
    profile.installOf packages = profile.installing packages := rfl

end PlatformProfile

/-- What a bootstrap run asks for, request by request. -/
inductive Stage
  | probe (package : String)
  | refresh (c : Command)
  | install (missing : List String)
  | fetch
  | unzip
  | build

/-- The packages whose probes were answered in the negative, read off the calls of a run. -/
def missingAmong : List String → List Event → List String
  | package :: rest, .probed _ installed :: calls =>
    if installed then missingAmong rest calls else package :: missingAmong rest calls
  | _, _ => []

namespace BootstrapPlan

def packages (plan : BootstrapPlan) : List String := plan.platform.profile.packages

/-- The zip is unpacked into the directory above the archive's own. -/
def unpacking (plan : BootstrapPlan) : Command :=
  .unpacking plan.archiveZip (plan.archiveDir.parent?.getD ⟨"."⟩)

def building (plan : BootstrapPlan) : Command :=
  { plan.build with env := plan.build.env ++ plan.buildEnv }

def request (plan : BootstrapPlan) : Stage → Request
  | .probe package => .probe (plan.platform.profile.asking package)
  | .refresh c => .run c
  | .install missing => .run (plan.platform.profile.installing missing)
  | .fetch => .fetch plan.url plan.archiveZip
  | .unzip => .run plan.unpacking
  | .build => .run plan.building

def installStages (plan : BootstrapPlan) (missing : List String) : List Stage :=
  if missing = [] then []
  else (plan.platform.profile.refresh.toList.map .refresh) ++ [.install missing]

def packageStages (plan : BootstrapPlan) (missing : List String) : List Stage :=
  plan.packages.map .probe ++ plan.installStages missing

def archiveStages (plan : BootstrapPlan) (present : Bool) : List Stage :=
  if present then [] else (if plan.dryRun then [] else [.fetch]) ++ [.unzip]

def stages (plan : BootstrapPlan) (missing : List String) (present : Bool) : List Stage :=
  plan.packageStages missing ++ plan.archiveStages present ++ [.build]

/-- Why a stage fails: its call did, the download does not have the wanted digest, or the zip that
was unpacked cannot be removed. -/
inductive Fails (plan : BootstrapPlan) (fs : FileSystem) : Stage → Event → Prop
  | call {g : Stage} {e : Event} (h : e.hasFailed = true) : Fails plan fs g e
  | digest {e : Event} {expected : String} (hs : plan.sha256 = some expected)
    (hv : ¬ fs.Verified plan.archiveZip expected) : Fails plan fs .fetch e
  | zip {e : Event} {err : IoError} (hd : plan.dryRun = false)
    (hz : fs.has plan.archiveZip = true) (hr : fs.removeFile plan.archiveZip = .error err) :
    Fails plan fs .unzip e

/-- The site that the next stage finds: a zip that was unpacked is gone. -/
def tidied (plan : BootstrapPlan) : Stage → Site σ → Site σ
  | .unzip, s => if plan.dryRun then s else { s with fs := s.fs.tidied plan.archiveZip }
  | _, s => s

/-- The run goes through all the stages, none failing. -/
inductive Passes (A : Agents σ) (plan : BootstrapPlan) :
    Site σ → List Stage → List Event → Site σ → Prop
  | nothing (s : Site σ) : Passes A plan s [] [] s
  | stage {s t u : Site σ} {g : Stage} {e : Event} {gs : List Stage} {calls : List Event}
    (h : A.answer s (plan.request g) = (e, t)) (hf : ¬ plan.Fails t.fs g e)
    (rest : Passes A plan (plan.tidied g t) gs calls u) : Passes A plan s (g :: gs) (e :: calls) u

/-- The run stops at a stage that fails, after none before it did. -/
inductive Stops (A : Agents σ) (plan : BootstrapPlan) : Site σ → List Stage → List Event → Prop
  | here {s t : Site σ} {g : Stage} {e : Event} {gs : List Stage}
    (h : A.answer s (plan.request g) = (e, t)) (hf : plan.Fails t.fs g e) :
    Stops A plan s (g :: gs) [e]
  | later {s t : Site σ} {g : Stage} {e : Event} {gs : List Stage} {calls : List Event}
    (h : A.answer s (plan.request g) = (e, t)) (hf : ¬ plan.Fails t.fs g e)
    (rest : Stops A plan (plan.tidied g t) gs calls) : Stops A plan s (g :: gs) (e :: calls)

variable {A : Agents σ} {plan : BootstrapPlan} {s t u : Site σ} {gs more : List Stage}
  {before calls : List Event}

theorem not_fails {fs : FileSystem} {g : Stage} {e : Event} (h : e.hasFailed = false)
    (hg : g ≠ .fetch) (hu : g ≠ .unzip) : ¬ plan.Fails fs g e := by
  intro hf
  cases hf with
  | call h' => rw [h] at h'; cases h'
  | digest => exact hg rfl
  | zip => exact hu rfl

theorem tidied_of_ne {g : Stage} (hu : g ≠ .unzip) (s : Site σ) : plan.tidied g s = s := by
  cases g with
  | unzip => exact absurd rfl hu
  | _ => rfl

theorem exists_stage_of_requests {e : Event}
    (h : calls.map Event.request? <+: gs.map (some ∘ plan.request)) (he : e ∈ calls) :
    ∃ g ∈ gs, e.request? = some (plan.request g) := by
  have hmem := h.subset (List.mem_map_of_mem he)
  obtain ⟨g, hg, hreq⟩ := List.mem_map.mp hmem
  exact ⟨g, hg, hreq.symm⟩

namespace Passes

theorem append (h : Passes A plan s gs before t) (h' : Passes A plan t more calls u) :
    Passes A plan s (gs ++ more) (before ++ calls) u := by
  induction h with
  | nothing s => exact h'
  | stage hq hf _ ih => exact .stage hq hf (ih h')

/-- Every stage has made its request, and nothing else was asked. -/
theorem requests (h : Passes A plan s gs calls t) :
    calls.map Event.request? = gs.map (some ∘ plan.request) := by
  induction h with
  | nothing s => rfl
  | stage hq _ _ ih =>
    rw [List.map_cons, List.map_cons, ih, Agents.request_of_answer hq]
    rfl

theorem exists_stage (h : Passes A plan s gs calls t) {e : Event} (he : e ∈ calls) :
    ∃ g ∈ gs, e.request? = some (plan.request g) :=
  exists_stage_of_requests (h.requests ▸ List.prefix_rfl) he

theorem length_eq (h : Passes A plan s gs calls t) : calls.length = gs.length := by
  simpa using congrArg List.length h.requests

theorem served (h : Passes A plan s gs calls t) (hu : .unzip ∉ gs) : A.Served s calls t := by
  induction h with
  | nothing s => exact .nothing s
  | @stage s t u g e gs calls hq _ _ ih =>
    have hg : g ≠ .unzip := fun hg => hu (hg ▸ List.mem_cons_self)
    rw [tidied_of_ne hg] at ih
    exact .asked hq (ih fun hm => hu (List.mem_cons_of_mem g hm))

end Passes

namespace Stops

theorem append_right (h : Stops A plan s gs calls) : Stops A plan s (gs ++ more) calls := by
  induction h with
  | here hq hf => exact .here hq hf
  | later hq hf _ ih => exact .later hq hf ih

theorem requests (h : Stops A plan s gs calls) :
    calls.map Event.request? <+: gs.map (some ∘ plan.request) := by
  induction h with
  | @here s t g e gs hq _ =>
    exact ⟨gs.map (some ∘ plan.request), by simp [Agents.request_of_answer hq]⟩
  | later hq _ _ ih =>
    rw [List.map_cons, List.map_cons, Agents.request_of_answer hq]
    exact List.cons_prefix_cons.mpr ⟨rfl, ih⟩

theorem exists_stage (h : Stops A plan s gs calls) {e : Event} (he : e ∈ calls) :
    ∃ g ∈ gs, e.request? = some (plan.request g) :=
  exists_stage_of_requests h.requests he

/-- Stages other than the fetch and the unzip fail only with their calls. -/
theorem exists_failed (h : Stops A plan s gs calls) (hfetch : .fetch ∉ gs) (hunzip : .unzip ∉ gs) :
    ∃ e ∈ calls, e.hasFailed = true := by
  induction h with
  | @here s t g e gs _ hf =>
    cases hf with
    | call h => exact ⟨e, List.mem_singleton_self e, h⟩
    | digest => exact absurd List.mem_cons_self hfetch
    | zip => exact absurd List.mem_cons_self hunzip
  | @later s t g e gs calls _ _ _ ih =>
    obtain ⟨e', he', h⟩ := ih (fun hm => hfetch (List.mem_cons_of_mem g hm))
      (fun hm => hunzip (List.mem_cons_of_mem g hm))
    exact ⟨e', List.mem_cons_of_mem e he', h⟩

end Stops

theorem Passes.stops (h : Passes A plan s gs before t) (h' : Stops A plan t more calls) :
    Stops A plan s (gs ++ more) (before ++ calls) := by
  induction h with
  | nothing s => exact h'
  | stage hq hf _ ih => exact .later hq hf (ih h')

theorem Stops.not_passes (h : Stops A plan s gs calls) : ¬ Passes A plan s gs calls t := by
  induction h with
  | here hq hf =>
    intro hp
    cases hp with
    | stage hq' hf' _ =>
      rw [hq] at hq'
      cases hq'
      exact hf' hf
  | later hq _ _ ih =>
    intro hp
    cases hp with
    | stage hq' _ rest =>
      rw [hq] at hq'
      cases hq'
      exact ih rest

/-- How work does its stages: it succeeds when it goes through them all, fails when it stops at one,
and enters in the list of steps just the commands that it runs. -/
inductive Phase {α : Type} (A : Agents σ) (plan : BootstrapPlan) (w : World σ) (gs : List Stage)
    (calls : List Event) : Except Failure α → World σ → Prop
  | passed {a : α} {w' : World σ} (log : w.Logged calls (calls.filterMap Event.command?) w')
    (run : Passes A plan w.toSite gs calls w'.toSite) : Phase A plan w gs calls (.ok a) w'
  | stopped {e : Failure} {w' : World σ}
    (log : w.Logged calls (calls.filterMap Event.command?) w')
    (run : Stops A plan w.toSite gs calls) : Phase A plan w gs calls (.error e) w'

namespace Phase

variable {α β : Type} {w w₀ w' : World σ}

theorem logged {r : Except Failure α} (h : Phase A plan w gs calls r w') :
    w.Logged calls (calls.filterMap Event.command?) w' := by
  cases h with
  | passed log => exact log
  | stopped log => exact log

theorem exists_stage {r : Except Failure α} (h : Phase A plan w gs calls r w') {e : Event}
    (he : e ∈ calls) : ∃ g ∈ gs, e.request? = some (plan.request g) := by
  cases h with
  | passed _ run => exact run.exists_stage he
  | stopped _ run => exact run.exists_stage he

theorem nothing (A : Agents σ) (plan : BootstrapPlan) (w : World σ) (a : α) :
    Phase A plan w [] [] (.ok a) w :=
  .passed (.refl w) (.nothing _)

/-- What is noted before a phase is not part of it. -/
theorem after_noted {r : Except Failure α} (h : w.Continues A [] [] w₀)
    (h' : Phase A plan w₀ gs calls r w') : Phase A plan w gs calls r w' := by
  have hs : w.toSite = w₀.toSite := h.after
  cases h' with
  | passed log run => exact .passed (h.toLogged.trans log) (hs ▸ run)
  | stopped log run => exact .stopped (h.toLogged.trans log) (hs ▸ run)

/-- Phases follow one another: the stages of the second come after those of the first, however the
first ends. -/
theorem andThen {x : Work σ α} {f : α → Work σ β} {more : List Stage}
    (h : Phase A plan w gs before (x w).1 (x w).2)
    (hf : ∀ a, (x w).1 = .ok a →
      ∃ calls, Phase A plan (x w).2 more calls (f a (x w).2).1 (f a (x w).2).2) :
    ∃ calls, Phase A plan w (gs ++ more) (before ++ calls) ((x >>= f) w).1 ((x >>= f) w).2 := by
  rw [Work.bind_apply]
  cases hx : x w with
  | mk r w₁ =>
    rw [hx] at h hf
    cases h with
    | @passed a w₁ log run =>
      obtain ⟨calls, next⟩ := hf a rfl
      refine ⟨calls, ?_⟩
      dsimp only at next ⊢
      cases hr : f a w₁ with
      | mk r' w₂ =>
        rw [hr] at next
        cases next with
        | passed log' run' =>
          exact .passed (by rw [List.filterMap_append]; exact log.trans log') (run.append run')
        | stopped log' run' =>
          exact .stopped (by rw [List.filterMap_append]; exact log.trans log') (run.stops run')
    | stopped log run =>
      exact ⟨[], by rw [List.append_nil]; exact .stopped log run.append_right⟩

/-- A stage that enters a command in the list of steps and runs it. -/
theorem command {g : Stage} {c : Command} {r : Except Failure α} (w : World σ)
    (hg : plan.request g = .run c) (hfetch : g ≠ .fetch) (hunzip : g ≠ .unzip)
    (hok : ∀ a, r = .ok a → (A.run c w.toSite).1.1 = .ok ())
    (herr : ∀ e, r = .error e → ∃ e', (A.run c w.toSite).1.1 = .error e') :
    Phase A plan w [g] [.ran c (A.run c w.toSite).1.1 (A.run c w.toSite).1.2] r
      (Work.run A.toRunner c (Work.enter c w).2).2 := by
  have log := ((Work.continues_enter A w c).trans (Work.continues_run A _ c)).toLogged
  have hq : A.answer w.toSite (plan.request g) =
      (.ran c (A.run c w.toSite).1.1 (A.run c w.toSite).1.2, (A.run c w.toSite).2) := by
    rw [hg]
    rfl
  cases r with
  | ok a =>
    refine .passed log (.stage hq (not_fails ?_ hfetch hunzip) ?_)
    · rw [hok a rfl]
      rfl
    · rw [tidied_of_ne hunzip]
      exact .nothing _
  | error e =>
    obtain ⟨e', he'⟩ := herr e rfl
    refine .stopped log (.here hq (.call ?_))
    rw [he']
    rfl

end Phase
end BootstrapPlan
end Provision
