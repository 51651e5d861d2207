import Provision.Proofs.FailedInstall
import Provision.Proofs.Unlinking

namespace Provision
namespace ArchiveRequest

variable {σ : Type} {A : Agents σ} {req : ArchiveRequest} {w w' : World σ} {calls : List Event}
  {left fs' : FileSystem} {r : Except Failure ArchiveStatus}

def Mismatched (req : ArchiveRequest) (calls : List Event) (left : FileSystem) : Prop :=
  calls = [.fetched req.url req.zipPath (.ok ())] ∧ ∃ expected content,
    req.sha256 = some expected ∧ left.read req.zipPath = .ok content ∧
      Text.equalIgnoringCase (Sha256.hex content) (Text.trim expected) = false

def UnzipFailed (req : ArchiveRequest) (calls : List Event) : Prop :=
  req.dryRun = false ∧ ∃ e printed, .ran req.unzip (.error e) printed ∈ calls

instance (req : ArchiveRequest) (calls : List Event) : Decidable (req.UnzipFailed calls) :=
  decidable_of_iff
    (req.dryRun = false ∧ ∃ e ∈ calls, e.command? = some req.unzip ∧ e.hasFailed = true) <| by
    refine and_congr_right fun _ => ⟨?_, ?_⟩
    · rintro ⟨e, hmem, hcommand, hfailed⟩
      cases e with
      | ran c r printed =>
        cases hcommand
        cases r with
        | ok u => cases hfailed
        | error e => exact ⟨e, printed, hmem⟩
      | _ => cases hcommand
    · rintro ⟨e, printed, hmem⟩
      exact ⟨_, hmem, rfl, rfl⟩

/-- What a failed unzip has removed: the tree at the unpack directory, and then the zip. -/
def Discarded (req : ArchiveRequest) (left : FileSystem) (l : Location) : Prop :=
  left.TreeAt req.unpackDir l ∨ (left.removeTree req.unpackDir).2.FileAt req.zipPath l

/-- What the phase makes of the files that its agents left. -/
structure CleansUp (req : ArchiveRequest) (calls : List Event) (left : FileSystem)
    (r : Except Failure ArchiveStatus) (fs' : FileSystem) : Prop where
  present : r = .ok .present → fs' = left
  planned : req.dryRun = true → fs' = left
  unfetched : ∀ f, .fetched req.url req.zipPath (.error f) ∈ calls → fs' = left
  mismatched : req.Mismatched calls left →
    left.Loses (left.FileAt req.zipPath) fs' ∧ ∀ l, ¬ fs'.FileAt req.zipPath l
  broken : req.UnzipFailed calls →
    left.Loses (req.Discarded left) fs' ∧ ∀ l, ¬ fs'.FileAt req.zipPath l
  downloaded : r = .ok .downloaded →
    left.Loses (fun l => left.has req.zipPath = true ∧ left.FileAt req.zipPath l) fs' ∧
      fs'.has req.zipPath = false
  other : r ≠ .ok .downloaded → ¬ req.Mismatched calls left → ¬ req.UnzipFailed calls → fs' = left

theorem CleansUp.untouched (hr : r ≠ .ok .downloaded) (hm : ¬ req.Mismatched calls left)
    (hu : ¬ req.UnzipFailed calls) : req.CleansUp calls left r left where
  present := fun _ => rfl
  planned := fun _ => rfl
  unfetched := fun _ _ => rfl
  mismatched := fun h => absurd h hm
  broken := fun h => absurd h hu
  downloaded := fun h => absurd h hr
  other := fun _ _ _ => rfl

/-- Of a zip that was unpacked its own entry goes; one that leads nowhere is left alone. -/
theorem loses_tidied (hz : req.zipPath.isAbsolute = true) :
    left.Loses (fun l => left.has req.zipPath = true ∧ left.FileAt req.zipPath l)
      (left.tidied req.zipPath) := by
  unfold FileSystem.tidied
  cases hhas : left.has req.zipPath with
  | true => exact (FileSystem.loses_dropFile hz).congr fun l => (and_iff_right rfl).symm
  | false => exact .nothing (by simp)

theorem not_has_tidied
    (h : left.has req.zipPath = true → ∃ fs, left.removeFile req.zipPath = .ok fs) :
    (left.tidied req.zipPath).has req.zipPath = false := by
  unfold FileSystem.tidied FileSystem.dropFile
  cases hhas : left.has req.zipPath with
  | true =>
    obtain ⟨fs, hfs⟩ := h hhas
    simp only [hfs, if_true]
    exact FileSystem.not_has_removeFile hfs
  | false => exact hhas

theorem Course.cleansUp (hz : req.zipPath.isAbsolute = true) (h : req.Course A w r w') :
    ∃ calls t, w'.calls = w.calls ++ calls ∧ A.Served w.toSite calls t ∧
      req.CleansUp calls t.fs r w'.fs := by
  have dry (hd : req.dryRun = true) (calls : List Event) : ¬ req.UnzipFailed calls := by
    rintro ⟨hreal, -⟩
    rw [hd] at hreal
    cases hreal
  cases h with
  | present _ hw =>
    exact ⟨_, _, hw.calls_eq, hw.served, .untouched (by simp) (by simp [Mismatched])
      (by simp [UnzipFailed])⟩
  | planned _ hd hw =>
    exact ⟨_, _, hw.calls_eq, hw.served, .untouched (by simp) (by simp [Mismatched]) (dry hd _)⟩
  | unplanned _ hd hw =>
    exact ⟨_, _, hw.calls_eq, hw.served, .untouched (by simp) (by simp [Mismatched]) (dry hd _)⟩
  | unfetched _ _ hw =>
    exact ⟨_, _, hw.calls_eq, hw.served, .untouched (by simp) (by simp [Mismatched])
      (by simp [UnzipFailed])⟩
  | unreadable _ _ _ hw hr =>
    have unread := FileSystem.sha256_eq_error.mp hr
    exact ⟨_, _, hw.calls_eq, hw.served, .untouched (by simp) (by simp [Mismatched, unread])
      (by simp [UnzipFailed])⟩
  | mismatched _ hd hs hw hr hbad =>
    obtain ⟨content, hread, rfl⟩ := FileSystem.sha256_eq_ok.mp hr
    have mismatch : req.Mismatched _ _ := ⟨rfl, _, content, hs, hread, hbad⟩
    exact ⟨_, _, hw.calls_eq, hw.served,
      { present := by simp
        planned := by simp [hd]
        unfetched := by simp
        mismatched := fun _ => ⟨FileSystem.loses_dropFile hz, fun _ =>
          FileSystem.not_fileAt_dropFile hz⟩
        broken := by simp [UnzipFailed]
        downloaded := by simp
        other := fun _ hm _ => absurd mismatch hm }⟩
  | @broken w₁ w₂ e printed _ hd hw _ hu =>
    have failed : req.UnzipFailed [.fetched req.url req.zipPath (.ok ()),
      .ran req.unzip (.error e) printed] := ⟨hd, e, printed, by simp⟩
    exact ⟨_, _, (hw.trans hu).calls_eq, (hw.trans hu).served,
      { present := by simp
        planned := by simp [hd]
        unfetched := by simp
        mismatched := by simp [Mismatched]
        broken := fun _ => ⟨(FileSystem.loses_removeTree _ _).trans (FileSystem.loses_dropFile hz),
          fun _ => FileSystem.not_fileAt_dropFile hz⟩
        downloaded := by simp
        other := fun _ _ hu => absurd failed hu }⟩
  | stuck _ _ hw _ hu =>
    exact ⟨_, _, (hw.trans hu).calls_eq, (hw.trans hu).served, .untouched (by simp)
      (by simp [Mismatched]) (by simp [UnzipFailed])⟩
  | downloaded _ hd hw _ hu hremovable =>
    exact ⟨_, _, (hw.trans hu).calls_eq, (hw.trans hu).served,
      { present := by simp
        planned := by simp [hd]
        unfetched := by simp
        mismatched := by simp [Mismatched]
        broken := by simp [UnzipFailed]
        downloaded := fun _ => ⟨loses_tidied hz, not_has_tidied hremovable⟩
        other := by simp }⟩

/-- The phase changes nothing but the zip and, after a failed unzip, the tree at the unpack
directory. A link in the place of that directory is removed and not followed, unless slashes or dots
come behind it in the path; then it stays, and what is below the directory that it leads to goes. -/
theorem cleanup_exact {fs₀ : FileSystem} {root : Path} {l : Layout}
    (hl : Layout.resolve fs₀ root = .ok l) (c : Config) (req : ArchiveRequest)
    (hdir : req.unpackDir = l.archiveDir c) (hzip : req.zipPath = l.archiveZip c) (A : Agents σ)
    (w : World σ) :
    ∃ calls t, (req.ensure A w).2.calls = w.calls ++ calls ∧ A.Served w.toSite calls t ∧
      req.CleansUp calls t.fs (req.ensure A w).1 (req.ensure A w).2.fs ∧
      ∀ m target, t.fs.findUnfollowed req.unpackDir.bare = .ok (m, .link target) →
        (req.unpackDir.bare = req.unpackDir → ∀ l, t.fs.TreeAt req.unpackDir l ↔ l = m) ∧
        (req.unpackDir.bare ≠ req.unpackDir → ∀ l, t.fs.TreeAt req.unpackDir l ↔
          ∃ d, t.fs.find req.unpackDir = .ok (d, .directory) ∧ FileSystem.below d l = true) := by
  have hroot := Layout.isAbsolute_root hl
  have hz : req.zipPath.isAbsolute = true := by
    rw [hzip]
    exact Layout.isAbsolute_archiveZip c hroot
  have ha : req.unpackDir.isAbsolute = true := by
    rw [hdir]
    exact Layout.isAbsolute_archiveDir c hroot
  obtain ⟨calls, t, hcalls, served, cleansUp⟩ := (ensure_course A req w).cleansUp hz
  refine ⟨calls, t, hcalls, served, cleansUp, fun m target hlink => ⟨fun hbare l => ?_,
    fun hbare l => FileSystem.treeAt_behind ha hbare hlink⟩⟩
  rw [hbare] at hlink
  exact FileSystem.treeAt_link hlink

/-- A failing unzip leaves a link in the place of the directory: the link is removed, and what it
points to is not touched. -/
theorem link_removed_alone :
    let A : Agents Script := .scripted .empty
    let w := failingUnzip [.file ⟨"/data/keep"⟩ .empty false, .link ⟨"/w/libtorch"⟩ "/data"]
    Layout.resolve w.fs ⟨"/w"⟩ = .ok ⟨⟨"/w"⟩⟩ ∧
      defaultRequest.unpackDir = Layout.archiveDir ⟨⟨"/w"⟩⟩ {} ∧
      defaultRequest.zipPath = Layout.archiveZip ⟨⟨"/w"⟩⟩ {} ∧
      ∃ calls t, A.Served w.toSite calls t ∧ defaultRequest.UnzipFailed calls ∧
        t.fs.LinkAt defaultRequest.unpackDir ∧
        t.fs.Loses (fun l => l = ["w", "libtorch"] ∨ l = ["w", "libtorch.zip"])
          (defaultRequest.ensure A w).2.fs := by
  intro A w
  have hroot : Layout.resolve w.fs ⟨"/w"⟩ = .ok ⟨⟨"/w"⟩⟩ := by decide +kernel
  obtain ⟨calls, t, hcalls, served, cleansUp, hlink⟩ :=
    cleanup_exact hroot {} defaultRequest rfl rfl A w
  have hcalls' : calls = (defaultRequest.ensure A w).2.calls := hcalls.symm
  obtain rfl : t = A.after w.toSite calls := served.after.symm
  have failed : defaultRequest.UnzipFailed calls := by
    rw [hcalls']
    decide +kernel
  have hdir : (A.after w.toSite calls).fs.findUnfollowed defaultRequest.unpackDir =
      .ok (["w", "libtorch"], .link "/data") := by
    rw [hcalls']
    decide +kernel
  have hzip : ((A.after w.toSite calls).fs.removeTree defaultRequest.unpackDir).2.findUnfollowed
      defaultRequest.zipPath = .ok (["w", "libtorch.zip"], .file .empty false) := by
    rw [hcalls']
    decide +kernel
  have hbare : defaultRequest.unpackDir.bare = defaultRequest.unpackDir := by decide +kernel
  refine ⟨hroot, rfl, rfl, calls, _, served, failed, ⟨_, _, hdir⟩, ?_⟩
  refine (cleansUp.broken failed).1.congr fun l => or_congr ?_ ?_
  · exact (hlink _ _ (hbare ▸ hdir)).1 hbare l
  · exact FileSystem.fileAt_of_unfollowed hzip (by simp)

/-- With a slash behind it the link stays and passes for an installed archive, and what it points to
is emptied. -/
theorem slashed_link_followed :
    let A : Agents Script := .scripted .empty
    let l : Layout := ⟨⟨"/w"⟩⟩
    let c : Config := { archive := { dir := "libtorch/" } }
    let req : ArchiveRequest :=
      { url := c.archive.url .cpu, unpackDir := l.archiveDir c, zipPath := l.archiveZip c }
    let w := failingUnzip [.file ⟨"/data/keep"⟩ .empty false, .link ⟨"/w/libtorch"⟩ "/data"]
    let w' := (req.ensure A w).2
    let left := (A.after w.toSite w'.calls).fs
    Layout.resolve w.fs l.root = .ok l ∧
      (req.ensure A w).1 = .error (.ofFault (.childFailed "unzip" 9)) ∧
      left.entry? ["w", "libtorch"] = some (.link "/data") ∧
      w'.fs.entry? ["w", "libtorch"] = some (.link "/data") ∧
      left.entry? ["data", "keep"] = some (.file .empty false) ∧
      w'.fs.entry? ["data", "keep"] = none ∧
      (req.ensure A w').1 = .ok .present := by
  decide +kernel

end ArchiveRequest
end Provision
