import Provision.Layout
import Provision.Proofs.Segments

namespace Provision

namespace Path

theorem isAbsolute_iff {p : Path} : p.isAbsolute = true ↔ ∃ cs, p.chars = '/' :: cs := by
  unfold isAbsolute
  cases p.chars <;> simp [eq_comm]

theorem isAbsolute_join {p : Path} (q : Path) (h : p.isAbsolute = true) :
    (p.join q).isAbsolute = true := by
  obtain ⟨cs, hcs⟩ := isAbsolute_iff.mp h
  have htext : p.text.toList = '/' :: cs := hcs
  unfold join
  split
  · rename_i hq
    simpa [hcs] using hq
  · split
    · simp [isAbsolute, chars, htext]
    · simp [isAbsolute, chars, htext]

theorem isAbsolute_parent {p q : Path} (h : p.isAbsolute = true) (hq : p.parent? = some q) :
    q.isAbsolute = true := by
  obtain ⟨cs, hcs⟩ := isAbsolute_iff.mp h
  unfold parent? at hq
  rw [hcs, split_rooted] at hq
  dsimp only at hq
  split at hq
  · simp at hq
  · cases hq
    unfold Split.join
    dsimp only
    cases trimBlankEnd _ with
    | nil => simp [isAbsolute, ofChars, chars]
    | cons s ss => simp [isAbsolute, ofChars, chars, unsegments]

theorem isAbsolute_withFileName {p : Path} (name : String) (h : p.isAbsolute = true) :
    (p.withFileName name).isAbsolute = true := by
  unfold withFileName
  split
  · rename_i hq
    exact isAbsolute_join _ (isAbsolute_parent h hq)
  · exact isAbsolute_join _ h

end Path

namespace FileSystem

theorem isAbsolute_pathOf (l : Location) : (pathOf l).isAbsolute = true := by
  unfold pathOf
  split
  · rfl
  · rename_i hl
    cases l with
    | nil => exact absurd rfl hl
    | cons n l => simp [Path.isAbsolute, Path.chars, String.toList_join]

end FileSystem

namespace Layout

theorem isAbsolute_root {fs : FileSystem} {root : Path} {l : Layout}
    (h : resolve fs root = .ok l) : l.root.isAbsolute = true := by
  unfold resolve FileSystem.realPath at h
  cases hf : fs.find root with
  | error e => simp [hf, Except.map] at h
  | ok x =>
    simp only [hf, Except.map, Except.ok.injEq] at h
    subst h
    exact FileSystem.isAbsolute_pathOf x.1

theorem isAbsolute_archiveDir {l : Layout} (c : Config) (h : l.root.isAbsolute = true) :
    (l.archiveDir c).isAbsolute = true :=
  Path.isAbsolute_join _ h

theorem isAbsolute_archiveZip {l : Layout} (c : Config) (h : l.root.isAbsolute = true) :
    (l.archiveZip c).isAbsolute = true :=
  Path.isAbsolute_withFileName _ (isAbsolute_archiveDir c h)

end Layout
end Provision
