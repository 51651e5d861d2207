import Provision.Proofs.ArchivePhase
import Provision.Proofs.Files
import Provision.Proofs.Layout
import Provision.Download
import Provision.Scene

namespace Provision

variable {σ : Type}

namespace FileSystem

/-- The locations that writing a path can change: that of its last name, and the one that links lead
to from there. -/
def spots (fs : FileSystem) (p : Path) : List Location :=
  let own := match fs.slot p with
    | .ok s => s.location?.toList
    | .error _ => []
  let followed := match fs.lookup p true with
    | .ok (.present l) => [l]
    | .ok (.vacant d n) => [d ++ [n]]
    | .error _ => []
  own ++ followed

def without (fs : FileSystem) (ls : List Location) : FileSystem :=
  { fs with entries := fs.entries.filter (·.1 ∉ ls) }

theorem entry_without (fs : FileSystem) (ls : List Location) {l : Location} (hl : l ≠ []) :
    entry? (fs.without ls) l = if l ∈ ls then none else fs.entry? l := by
  rw [without, entry_filter fs (fun m => decide (m ∉ ls)) hl]
  by_cases h : l ∈ ls <;> simp [h]

theorem Within.without {fs fs' : FileSystem} (h : fs.Within fs') (ls : List Location) :
    (fs.without ls).Within (fs'.without ls) := by
  refine ⟨h.cwd, fun {l e} he => ?_⟩
  by_cases hl : l = []
  · subst hl
    exact he
  · rw [entry_without _ _ hl] at he ⊢
    split at he
    · cases he
    · rename_i hmem
      rw [if_neg hmem]
      exact h.entry he

theorem AgreesOutside.within {ls : List Location} {fs fs' : FileSystem}
    (h : AgreesOutside ls fs fs') : (fs'.without ls).Within fs := by
  refine ⟨h.cwd_eq, fun {l e} he => ?_⟩
  by_cases hl : l = []
  · subst hl
    exact he
  · rw [entry_without _ _ hl] at he
    split at he
    · cases he
    · rename_i hmem
      rw [← h.entry_eq l hmem]
      exact he

end FileSystem

/-- The locations of a download: those of its target, and of the temporary file beside it. -/
def FileSystem.downloadSpots (fs : FileSystem) (target : Path) : List Location :=
  fs.spots target ++ fs.spots (Download.partOf target)

/-- A fetcher that changes nothing but its target and the temporary file beside it. -/
def Fetcher.Confined (F : Fetcher σ) : Prop := ∀ (url : String) (target : Path) (s : Site σ),
  FileSystem.AgreesOutside (s.fs.downloadSpots target) s.fs (F.fetch url target s).2.fs

theorem FileSystem.write_agrees {fs fs' : FileSystem} {p : Path} {content : ByteArray}
    (h : fs.write p content = .ok fs') : AgreesOutside (fs.spots p) fs fs' := by
  unfold FileSystem.write modify at h
  split at h
  · cases h
  · rename_i d n hl
    cases h
    refine ⟨rfl, fun m hm => entry_put fs _ ?_⟩
    rintro rfl
    exact hm (by simp [spots, hl])
  · rename_i l hl
    split at h
    · cases h
      refine ⟨rfl, fun m hm => entry_put fs _ ?_⟩
      rintro rfl
      exact hm (by simp [spots, hl])
    · cases h

theorem Fetcher.constant_confined (content : ByteArray) :
    (Fetcher.constant content : Fetcher σ).Confined := by
  intro url target s
  unfold Fetcher.constant
  dsimp only
  split
  · rename_i fs h
    have agrees := FileSystem.write_agrees h
    exact ⟨agrees.cwd_eq, fun l hl =>
      agrees.entry_eq l fun hm => hl (List.mem_append_left _ hm)⟩
  · exact ⟨rfl, fun _ _ => rfl⟩

namespace ArchiveRequest

def Unzipped (req : ArchiveRequest) (w w' : World σ) (r : Except Failure Unit) : Prop :=
  ∃ calls printed, w'.calls = w.calls ++ calls ∧ .ran req.unzip r printed ∈ calls

/-- A failed run leaves the unpack directory behind. The failed command left there what cannot be
removed, or what the fetcher left leads there; and if it fetched a zip with another digest than the
wanted one, even without the zip. -/
inductive Lingers (A : Agents σ) (req : ArchiveRequest) (w : World σ) : Prop
  | unpacking {s t : Site σ} {e : Failure} {printed : Printed}
    (hq : A.answer w.toSite (.fetch req.url req.zipPath) =
      (.fetched req.url req.zipPath (.ok ()), s))
    (hv : ∀ expected, req.sha256 = some expected → s.fs.Verified req.zipPath expected)
    (hu : A.answer s (.run req.unzip) = (.ran req.unzip (.error e) printed, t))
    (hr : t.fs.Irremovable req.unpackDir)
    (hp : ((t.fs.emptied req.unpackDir).dropFile req.zipPath).has req.unpackDir = true) :
    Lingers A req w
  | unfetched {s : Site σ} {f : Fault}
    (hq : A.answer w.toSite (.fetch req.url req.zipPath) =
      (.fetched req.url req.zipPath (.error f), s))
    (hp : s.fs.has req.unpackDir = true) : Lingers A req w
  | unverified {s : Site σ} {expected : String}
    (hq : A.answer w.toSite (.fetch req.url req.zipPath) =
      (.fetched req.url req.zipPath (.ok ()), s))
    (hs : req.sha256 = some expected) (hv : ¬ s.fs.Verified req.zipPath expected)
    (hp : s.fs.has req.unpackDir = true)
    (hz : ∀ content, s.fs.read req.zipPath = .ok content →
      (s.fs.dropFile req.zipPath).has req.unpackDir = true) : Lingers A req w

variable {A : Agents σ} {req : ArchiveRequest} {w : World σ}

theorem unzipped_of_continues {w₁ w₂ : World σ} {before : List Event} {first steps : List Command}
    {r : Except Failure Unit} {printed : Printed} (hw : w.Continues A before first w₁)
    (hu : w₁.Continues A [.ran req.unzip r printed] steps w₂) : req.Unzipped w w₂ r :=
  ⟨_, printed, (hw.trans hu).calls_eq, by simp⟩

/-- Removing what cannot be removed leaves the path where it led, unless what was below it, or the
zip, was on the way. -/
theorem has_discarded_iff {p : Path} (ha : p.isAbsolute = true) (fs : FileSystem) (z : Path) :
    ((fs.removeTree p).2.dropFile z).has p = true ↔
      fs.Irremovable p ∧ ((fs.emptied p).dropFile z).has p = true := by
  have hw := (FileSystem.within_dropFile (fs.emptied p) z).trans (FileSystem.within_emptied fs p)
  by_cases hr : fs.Removable p
  · have hgone := (FileSystem.within_dropFile _ z).not_has (FileSystem.not_has_removeTree hr)
    simp only [hgone, Bool.false_eq_true, false_iff]
    rintro ⟨hi, hp⟩
    exact (FileSystem.not_removable_iff ha (hw.has hp)).mpr hi hr
  · rw [FileSystem.removeTree_of_not_removable hr]
    exact ⟨fun hp => ⟨(FileSystem.not_removable_iff ha (hw.has hp)).mp hr, hp⟩, fun h => h.2⟩

theorem lingers_unpacking_iff (ha : req.unpackDir.isAbsolute = true) {s t : Site σ} {e : Failure}
    {printed : Printed}
    (hq : A.answer w.toSite (.fetch req.url req.zipPath) =
      (.fetched req.url req.zipPath (.ok ()), s))
    (hv : ∀ expected, req.sha256 = some expected → s.fs.Verified req.zipPath expected)
    (hu : A.answer s (.run req.unzip) = (.ran req.unzip (.error e) printed, t)) :
    req.Lingers A w ↔
      ((t.fs.removeTree req.unpackDir).2.dropFile req.zipPath).has req.unpackDir = true := by
  rw [has_discarded_iff ha]
  constructor
  · intro h
    cases h with
    | unpacking hq' _ hu' hr hp =>
      cases hq.symm.trans hq'
      cases hu.symm.trans hu'
      exact ⟨hr, hp⟩
    | unfetched hq' => cases hq.symm.trans hq'
    | unverified hq' hs hv' =>
      cases hq.symm.trans hq'
      exact absurd (hv _ hs) hv'
  · rintro ⟨hr, hp⟩
    exact .unpacking hq hv hu hr hp

theorem lingers_unfetched_iff {s : Site σ} {f : Fault}
    (hq : A.answer w.toSite (.fetch req.url req.zipPath) =
      (.fetched req.url req.zipPath (.error f), s)) :
    req.Lingers A w ↔ s.fs.has req.unpackDir = true := by
  constructor
  · intro h
    cases h with
    | unfetched hq' hp =>
      cases hq.symm.trans hq'
      exact hp
    | unpacking hq' => cases hq.symm.trans hq'
    | unverified hq' => cases hq.symm.trans hq'
  · exact .unfetched hq

theorem lingers_unverified_iff {s : Site σ} {expected : String}
    (hq : A.answer w.toSite (.fetch req.url req.zipPath) =
      (.fetched req.url req.zipPath (.ok ()), s))
    (hs : req.sha256 = some expected) (hv : ¬ s.fs.Verified req.zipPath expected) :
    req.Lingers A w ↔ s.fs.has req.unpackDir = true ∧
      ∀ content, s.fs.read req.zipPath = .ok content →
        (s.fs.dropFile req.zipPath).has req.unpackDir = true := by
  constructor
  · intro h
    cases h with
    | unverified hq' _ _ hp hz =>
      cases hq.symm.trans hq'
      exact ⟨hp, hz⟩
    | unpacking hq' hv' =>
      cases hq.symm.trans hq'
      exact absurd (hv' _ hs) hv
    | unfetched hq' => cases hq.symm.trans hq'
  · rintro ⟨hp, hz⟩
    exact .unverified hq hs hv hp hz

/-- After a run that failed without unpacking anything the directory is there exactly if the run
left it behind. -/
theorem has_after_failure (ha : req.unpackDir.isAbsolute = true) (hd : req.dryRun = false)
    (hfail : ∃ e, (req.ensure A w).1 = .error e)
    (hu : ¬ req.Unzipped w (req.ensure A w).2 (.ok ())) :
    (req.ensure A w).2.fs.has req.unpackDir = true ↔ req.Lingers A w := by
  have course := ensure_course A req w
  obtain ⟨e, he⟩ := hfail
  rw [he] at course
  generalize (req.ensure A w).2 = w' at course hu ⊢
  cases course with
  | unplanned _ hdry =>
    rw [hd] at hdry
    cases hdry
  | unfetched _ _ hw => exact (lingers_unfetched_iff hw.fetched).symm
  | unreadable _ _ hs hw hr =>
    have hread := FileSystem.sha256_eq_error.mp hr
    rw [lingers_unverified_iff hw.fetched hs (FileSystem.not_verified_of_unreadable hread)]
    simp [hread]
  | mismatched _ _ hs hw hr hne =>
    obtain ⟨content, hread, rfl⟩ := FileSystem.sha256_eq_ok.mp hr
    rw [lingers_unverified_iff hw.fetched hs (FileSystem.not_verified_of_mismatch hread hne)]
    exact ⟨fun h => ⟨(FileSystem.within_dropFile _ _).has h, fun _ _ => h⟩,
      fun h => h.2 content hread⟩
  | broken _ _ hw hv hu' => exact (lingers_unpacking_iff ha hw.fetched hv hu'.ran).symm
  | stuck _ _ hw _ hu' =>
    -- the zip could not be removed, but the unzip had succeeded
    exact absurd (unzipped_of_continues hw hu') hu

/-- A run that found the directory missing and ends with it has unpacked something, or left it
behind. -/
theorem unzipped_or_lingers (ha : req.unpackDir.isAbsolute = true) (hd : req.dryRun = false)
    (hp : w.fs.has req.unpackDir = false)
    (hleft : (req.ensure A w).2.fs.has req.unpackDir = true) :
    req.Unzipped w (req.ensure A w).2 (.ok ()) ∨ req.Lingers A w := by
  by_cases hu : req.Unzipped w (req.ensure A w).2 (.ok ())
  · exact .inl hu
  · refine .inr ?_
    cases hr : (req.ensure A w).1 with
    | error e => exact (has_after_failure ha hd ⟨e, hr⟩ hu).mp hleft
    | ok status =>
      have course := ensure_course A req w
      rw [hr] at course
      generalize (req.ensure A w).2 = w' at course hu hleft
      cases course with
      | present hpresent =>
        rw [hp] at hpresent
        cases hpresent
      | planned _ hdry =>
        rw [hd] at hdry
        cases hdry
      | downloaded _ _ hw _ hu' =>
        exact absurd (unzipped_of_continues hw hu') hu

theorem ensure_present_iff :
    (req.ensure A w).1 = .ok .present ↔ w.fs.has req.unpackDir = true := by
  have course := ensure_course A req w
  generalize (req.ensure A w).1 = r at course ⊢
  generalize (req.ensure A w).2 = w' at course
  cases course <;> simp [*]

def ensureAll (req : ArchiveRequest) (As : List (Agents σ)) (w : World σ) : World σ :=
  As.foldl (fun w A => (req.ensure A w).2) w

/-- Runs that start without the directory and end with it include one that unpacked something, or
one that left it behind. -/
theorem exists_unzipped_or_lingers (ha : req.unpackDir.isAbsolute = true)
    (hd : req.dryRun = false) (As : List (Agents σ)) (hp : w.fs.has req.unpackDir = false)
    (hleft : (req.ensureAll As w).fs.has req.unpackDir = true) :
    ∃ before A after, As = before ++ A :: after ∧
      (req.Unzipped (req.ensureAll before w) (req.ensure A (req.ensureAll before w)).2 (.ok ()) ∨
        req.Lingers A (req.ensureAll before w)) := by
  induction As generalizing w with
  | nil =>
    rw [show req.ensureAll [] w = w from rfl, hp] at hleft
    cases hleft
  | cons A As ih =>
    cases hmid : (req.ensure A w).2.fs.has req.unpackDir with
    | true => exact ⟨[], A, As, rfl, unzipped_or_lingers ha hd hp hmid⟩
    | false =>
      obtain ⟨before, B, after, rfl, h⟩ := ih hmid hleft
      exact ⟨A :: before, B, after, rfl, h⟩

/-- When only a download went wrong, the directory can be there at most by way of the downloaded
files. -/
theorem not_has_without_download (hF : A.toFetcher.Confined) (hd : req.dryRun = false)
    (hfail : ∃ e, (req.ensure A w).1 = .error e)
    (hu : ∀ r, ¬ req.Unzipped w (req.ensure A w).2 r) :
    ((req.ensure A w).2.fs.without (w.fs.downloadSpots req.zipPath)).has req.unpackDir =
      false := by
  have hfetch := (hF req.url req.zipPath w.toSite).within
  have course := ensure_course A req w
  obtain ⟨e, he⟩ := hfail
  rw [he] at course
  generalize (req.ensure A w).2 = w' at course hu ⊢
  have hsite {r : Except Fault Unit} {w₁ : World σ}
      (hw : w.Continues A [.fetched req.url req.zipPath r] [] w₁) :
      (A.fetch req.url req.zipPath w.toSite).2 = w₁.toSite :=
    congrArg Prod.snd hw.fetched
  cases course with
  | unplanned _ hdry =>
    rw [hd] at hdry
    cases hdry
  | unfetched hp _ hw => exact (hsite hw ▸ hfetch).not_has hp
  | unreadable hp _ _ hw => exact (hsite hw ▸ hfetch).not_has hp
  | @mismatched w₁ expected actual hp _ _ hw =>
    have hdrop := (FileSystem.within_dropFile w₁.fs req.zipPath).without
      (w.fs.downloadSpots req.zipPath)
    exact (hdrop.trans (hsite hw ▸ hfetch)).not_has hp
  | broken _ _ hw _ hu' =>
    exact absurd (unzipped_of_continues hw hu') (hu _)
  | stuck _ _ hw _ hu' =>
    exact absurd (unzipped_of_continues hw hu') (hu _)

/-- What failed installations leave. A run that fails without unpacking anything leaves no unpack
directory, unless it lingers: the failed command left there what cannot be removed, or what was
fetched stands there as well. When the command was not run at all, a confined fetcher can only do
that by way of the downloaded files. So a later run finds the archive present only if an earlier one
unpacked something or lingered, and after one that lingered the next run does. -/
theorem failed_install_absent_iff {fs₀ : FileSystem} {root : Path} {l : Layout}
    (hl : Layout.resolve fs₀ root = .ok l) (c : Config) (req : ArchiveRequest)
    (hdir : req.unpackDir = l.archiveDir c) (hd : req.dryRun = false) :
    (∀ (A : Agents σ) (w : World σ), (∃ e, (req.ensure A w).1 = .error e) →
      ¬ req.Unzipped w (req.ensure A w).2 (.ok ()) →
        ((req.ensure A w).2.fs.has req.unpackDir = false ↔ ¬ req.Lingers A w)) ∧
    (∀ (A : Agents σ) (w : World σ), A.toFetcher.Confined →
      (∃ e, (req.ensure A w).1 = .error e) → (∀ r, ¬ req.Unzipped w (req.ensure A w).2 r) →
        ((req.ensure A w).2.fs.without (w.fs.downloadSpots req.zipPath)).has req.unpackDir =
          false) ∧
    (∀ (As : List (Agents σ)) (B : Agents σ) (w : World σ), w.fs.has req.unpackDir = false →
      (req.ensure B (req.ensureAll As w)).1 = .ok .present →
        ∃ before A after, As = before ++ A :: after ∧
          (req.Unzipped (req.ensureAll before w)
              (req.ensure A (req.ensureAll before w)).2 (.ok ()) ∨
            req.Lingers A (req.ensureAll before w))) ∧
    ∀ (A B : Agents σ) (w : World σ), (∃ e, (req.ensure A w).1 = .error e) →
      ¬ req.Unzipped w (req.ensure A w).2 (.ok ()) → req.Lingers A w →
        (req.ensure B (req.ensure A w).2).1 = .ok .present := by
  have ha : req.unpackDir.isAbsolute = true := by
    rw [hdir]
    exact Layout.isAbsolute_archiveDir c (Layout.isAbsolute_root hl)
  refine ⟨fun A w hfail hu => ?_, fun A w hF hfail hu => not_has_without_download hF hd hfail hu,
    fun As B w hp hpresent => ?_, fun A B w hfail hu hl => ?_⟩
  · rw [← has_after_failure ha hd hfail hu, Bool.not_eq_true]
  · exact exists_unzipped_or_lingers ha hd As hp (ensure_present_iff.mp hpresent)
  · exact ensure_present_iff.mpr ((has_after_failure ha hd hfail hu).mpr hl)

def defaultRequest : ArchiveRequest where
  url := ({} : Config).archive.url .cpu
  unpackDir := Layout.archiveDir ⟨⟨"/w"⟩⟩ {}
  zipPath := Layout.archiveZip ⟨⟨"/w"⟩⟩ {}

def failingUnzip (effects : List Change) : World Script where
  fs := { entries := [(["w"], .directory)] }
  agent := { rules := [{ startsWith := "unzip", effects, ending := .status 9 }] }

/-- A directory that a failing unzip leaves is removed. -/
theorem failing_unzip_directory_removed :
    let A : Agents Script := .scripted .empty
    let w := failingUnzip [.directory ⟨"/w/libtorch/lib"⟩]
    Layout.resolve w.fs ⟨"/w"⟩ = .ok ⟨⟨"/w"⟩⟩ ∧
      defaultRequest.unpackDir = Layout.archiveDir ⟨⟨"/w"⟩⟩ {} ∧ defaultRequest.dryRun = false ∧
      (defaultRequest.ensure A w).1 = .error (.ofFault (.childFailed "unzip" 9)) ∧
      ¬ defaultRequest.Unzipped w (defaultRequest.ensure A w).2 (.ok ()) ∧
      (defaultRequest.ensure A w).2.fs.has defaultRequest.unpackDir = false ∧
      ¬ defaultRequest.Lingers A w := by
  intro A w
  have hfail : (defaultRequest.ensure A w).1 = .error (.ofFault (.childFailed "unzip" 9)) := by
    decide +kernel
  have habsent : (defaultRequest.ensure A w).2.fs.has defaultRequest.unpackDir = false := by
    decide +kernel
  have hfailed : (defaultRequest.ensure A w).2.calls.all
      (fun e => e.command?.isNone || e.hasFailed) = true := by
    decide +kernel
  have hunzip : ¬ defaultRequest.Unzipped w (defaultRequest.ensure A w).2 (.ok ()) := by
    rintro ⟨calls, printed, hcalls, hmem⟩
    rw [hcalls] at hfailed
    have h := List.all_eq_true.mp hfailed _ (List.mem_append_right _ hmem)
    cases h
  have hroot : Layout.resolve w.fs ⟨"/w"⟩ = .ok ⟨⟨"/w"⟩⟩ := by decide +kernel
  have hiff := (failed_install_absent_iff hroot {} defaultRequest rfl rfl).1 A w ⟨_, hfail⟩ hunzip
  exact ⟨hroot, rfl, rfl, hfail, hunzip, habsent, hiff.mp habsent⟩

/-- A confined fetcher and a failing unzip that leaves a file where the directory should be: the
file stays, and passes for an installed archive next time. -/
theorem failing_unzip_file_passes :
    let A : Agents Script := .scripted .empty
    let w := failingUnzip [.file ⟨"/w/libtorch"⟩ .empty false]
    let w' := (defaultRequest.ensure A w).2
    A.toFetcher.Confined ∧ Layout.resolve w.fs ⟨"/w"⟩ = .ok ⟨⟨"/w"⟩⟩ ∧
      defaultRequest.dryRun = false ∧ w.fs.has defaultRequest.unpackDir = false ∧
      (defaultRequest.ensure A w).1 = .error (.ofFault (.childFailed "unzip" 9)) ∧
      w'.fs.has defaultRequest.unpackDir = true ∧
      (defaultRequest.ensure A w').1 = .ok .present := by
  refine ⟨Fetcher.constant_confined .empty, ?_⟩
  decide +kernel

end ArchiveRequest
end Provision
