import Provision.Proofs.Lookup

namespace Provision
namespace FileSystem

/-- A table in which entries are kept by their locations shows what is kept as it was. -/
theorem entry_filter (fs : FileSystem) (keep : Location → Bool) {m : Location} (hm : m ≠ []) :
    entry? { fs with entries := fs.entries.filter (fun e => keep e.1) } m =
      if keep m then fs.entry? m else none := by
  unfold entry?
  simp only [hm, if_false, List.find?_filter]
  split
  · rename_i hkeep
    congr 2
    funext e
    by_cases he : e.1 = m
    · simp [he, hkeep]
    · simp [he]
  · rename_i hgone
    rw [List.find?_eq_none.mpr]
    · rfl
    · rintro e - he
      simp only [decide_eq_true_eq] at he
      rw [he.2] at he
      exact hgone he.1

theorem within_filter (fs : FileSystem) (keep : Location → Bool) :
    Within { fs with entries := fs.entries.filter (fun e => keep e.1) } fs := by
  refine ⟨rfl, fun {m e} he => ?_⟩
  by_cases hm : m = []
  · subst hm
    exact he
  · rw [entry_filter fs keep hm] at he
    split at he
    · exact he
    · cases he

theorem entry_erase (fs : FileSystem) {l m : Location} (hl : l ≠ []) :
    entry? (fs.erase l) m = if m = l then none else fs.entry? m := by
  by_cases hm : m = []
  · subst hm
    unfold entry?
    simp [hl.symm]
  · rw [erase, entry_filter fs (fun m => decide (m ≠ l)) hm]
    by_cases h : m = l <;> simp [h]

theorem entry_eraseBelow (fs : FileSystem) (top m : Location) :
    entry? (fs.eraseBelow top) m = if below top m then none else fs.entry? m := by
  by_cases hm : m = []
  · subst hm
    unfold entry?
    simp [below]
  · rw [eraseBelow, entry_filter fs (fun m => !below top m) hm]
    cases below top m <;> rfl

theorem within_erase (fs : FileSystem) (l : Location) : (fs.erase l).Within fs :=
  within_filter fs (fun m => decide (m ≠ l))

theorem within_eraseBelow (fs : FileSystem) (top : Location) : (fs.eraseBelow top).Within fs :=
  within_filter fs (fun m => !below top m)

theorem below_self (l : Location) : below l l = false := by
  simp [below]

theorem isEmptyAt_eraseBelow (fs : FileSystem) (top : Location) :
    (fs.eraseBelow top).isEmptyAt top = true := by
  simp [isEmptyAt, eraseBelow]

/-- Removing a file takes away the one entry that the path's last name stands for. -/
theorem removeFile_eq_ok {fs fs' : FileSystem} {p : Path} :
    fs.removeFile p = .ok fs' ↔ ∃ s l e, fs.slot p = .ok s ∧ s.location? = some l ∧
      fs.entry? l = some e ∧ e ≠ .directory ∧ s.slashed = false ∧ fs' = fs.erase l := by
  unfold removeFile
  constructor
  · intro h
    split at h
    · cases h
    · split at h
      · cases h
      · split at h
        · cases h
        · cases h
        · split at h
          · cases h
          · cases h
            rename_i s hs _ l hl _ e hdir he hslash
            exact ⟨s, l, e, hs, hl, he, hdir, by simpa using hslash, rfl⟩
  · rintro ⟨s, l, e, hs, hl, he, hdir, hslash, rfl⟩
    cases e with
    | directory => exact absurd rfl hdir
    | file content executable => simp [hs, hl, he, hslash]
    | link target => simp [hs, hl, he, hslash]

theorem within_removeFile {fs fs' : FileSystem} {p : Path} (h : fs.removeFile p = .ok fs') :
    fs'.Within fs := by
  obtain ⟨s, l, e, _, hl, _, _, _, rfl⟩ := removeFile_eq_ok.mp h
  exact within_erase fs l

theorem not_has_removeFile {fs fs' : FileSystem} {p : Path} (h : fs.removeFile p = .ok fs') :
    fs'.has p = false := by
  have hw := within_removeFile h
  obtain ⟨s, l, e, hs, hl, _, _, _, rfl⟩ := removeFile_eq_ok.mp h
  exact not_has_of_gone hw hs hl (by rw [entry_erase fs (Slot.location_ne hl), if_pos rfl])

/-- A file that a rooted path leads to, or the link that led to it, can be removed. -/
theorem removeFile_of_file {fs : FileSystem} {p : Path} {l : Location} {content : ByteArray}
    {executable : Bool} (ha : isRooted p.text = true)
    (hf : fs.find p = .ok (l, .file content executable)) : ∃ fs', fs.removeFile p = .ok fs' := by
  obtain ⟨s, m, e, hs, hm, hslash, he, hdir⟩ := slot_of_file ha hf
  exact ⟨_, removeFile_eq_ok.mpr ⟨s, m, e, hs, hm, he, hdir, hslash, rfl⟩⟩

def dropFile (fs : FileSystem) (p : Path) : FileSystem :=
  match fs.removeFile p with
  | .ok fs' => fs'
  | .error _ => fs

theorem within_dropFile (fs : FileSystem) (p : Path) : (fs.dropFile p).Within fs := by
  unfold dropFile
  split
  · rename_i h
    exact within_removeFile h
  · exact Within.refl fs

theorem hasFile_of_not_has {fs : FileSystem} {p : Path} (h : fs.has p = false) :
    fs.hasFile p = false := by
  unfold has at h
  unfold hasFile
  cases hf : fs.find p with
  | error e => rfl
  | ok x =>
    rw [hf] at h
    cases h

/-- A file that can be read by a rooted path is gone once it was attempted to remove it. -/
theorem not_hasFile_dropFile {fs : FileSystem} {p : Path} {content : ByteArray}
    (ha : isRooted p.text = true) (hr : fs.read p = .ok content) :
    (fs.dropFile p).hasFile p = false := by
  unfold read at hr
  split at hr
  · cases hr
  · rename_i l content executable hf
    obtain ⟨fs', h⟩ := removeFile_of_file ha hf
    rw [dropFile, h]
    exact hasFile_of_not_has (not_has_removeFile h)
  · cases hr

/-- What a path names can be removed with all that is below it: a link, or a directory that the
path's own last name stands for. A file cannot, nor can a directory that is reached by a dot or
through a link. -/
inductive Removable (fs : FileSystem) (p : Path) : Prop
  | link {l : Location} {target : String} (h : fs.findUnfollowed p = .ok (l, .link target))
  | directory {l : Location} {s : Slot} (h : fs.findUnfollowed p = .ok (l, .directory))
    (hs : fs.slot p = .ok s) (hl : s.location? = some l)

/-- What is left once all below the directory that a path names is gone, and nothing else. -/
def emptied (fs : FileSystem) (p : Path) : FileSystem :=
  match fs.findUnfollowed p with
  | .ok (l, .directory) => fs.eraseBelow l
  | _ => fs

theorem within_emptied (fs : FileSystem) (p : Path) : (fs.emptied p).Within fs := by
  unfold emptied
  split
  · exact within_eraseBelow fs _
  · exact Within.refl fs

theorem findUnfollowed_cases {fs : FileSystem} {p : Path} {l : Location} {e : Entry}
    (h : fs.findUnfollowed p = .ok (l, e)) :
    fs.entry? l = some e ∧ ∃ s, fs.slot p = .ok s ∧
      (s.location? = some l ∨ fs.find p = .ok (l, e)) := by
  unfold findUnfollowed at h
  split at h
  · cases h
  · rename_i s hs
    split at h
    · rename_i m hm _
      split at h
      · rename_i he
        cases h
        exact ⟨he, s, hs, .inl hm⟩
      · cases h
    · exact ⟨(find_eq_ok.mp h).2, s, hs, .inr h⟩

theorem not_has_of_unfollowed {fs fs' : FileSystem} {p : Path} {l : Location} {e : Entry}
    (hw : fs'.Within fs) (h : fs.findUnfollowed p = .ok (l, e)) (hgone : fs'.entry? l = none) :
    fs'.has p = false := by
  obtain ⟨_, s, hs, hl | hf⟩ := findUnfollowed_cases h
  · exact not_has_of_gone hw hs hl hgone
  · cases hb : fs'.has p with
    | false => rfl
    | true =>
      obtain ⟨m, e', hm⟩ := has_iff.mp hb
      have same := hw.find hm
      rw [hf] at same
      cases same
      rw [(find_eq_ok.mp hm).2] at hgone
      cases hgone

theorem below_concat (d : Location) (n : String) : below (d ++ [n]) d = false := by
  cases h : below (d ++ [n]) d with
  | false => rfl
  | true =>
    simp only [below, Bool.and_eq_true, List.isPrefixOf_iff_prefix] at h
    have := h.1.length_le
    rw [List.length_append, List.length_singleton] at this
    omega

/-- A directory is removed when the path's last name stands for it and it is empty. -/
theorem removeDirectory_eq_ok {fs fs' : FileSystem} {p : Path} :
    fs.removeDirectory p = .ok fs' ↔ ∃ s l, fs.slot p = .ok s ∧ s.location? = some l ∧
      fs.entry? l = some .directory ∧ fs.isEmptyAt l = true ∧ fs' = fs.erase l := by
  unfold removeDirectory
  constructor
  · intro h
    split at h
    · cases h
    · rename_i s hs
      split at h
      · cases h
      · cases h
      · cases h
      · rename_i n hn
        dsimp only at h
        split at h
        · cases h
        · split at h <;> cases h
          exact ⟨s, _, hs, by simp [Slot.location?, hn], by assumption, by assumption, rfl⟩
        · cases h
  · rintro ⟨s, l, hs, hl, he, hempty, rfl⟩
    obtain ⟨n, hname, rfl⟩ := Slot.location_eq hl
    simp [hs, hname, he, hempty]

theorem within_removeDirectory {fs fs' : FileSystem} {p : Path}
    (h : fs.removeDirectory p = .ok fs') : fs'.Within fs := by
  obtain ⟨s, l, _, hl, _, _, rfl⟩ := removeDirectory_eq_ok.mp h
  exact within_erase fs l

theorem not_has_removeTree {fs : FileSystem} {p : Path} (h : fs.Removable p) :
    (fs.removeTree p).2.has p = false := by
  cases h with
  | @link l target h =>
    have hne : l ≠ [] := by
      rintro rfl
      cases (findUnfollowed_cases h).1
    simp only [removeTree, h]
    exact not_has_of_unfollowed (within_erase fs l) h (by rw [entry_erase fs hne, if_pos rfl])
  | @directory l s h hs hl =>
    have hw := within_eraseBelow fs l
    obtain ⟨n, hname, rfl⟩ := Slot.location_eq hl
    obtain ⟨_, _, _, _, hd, _⟩ := slot_eq_ok.mp hs
    cases hp : (fs.eraseBelow (s.directory ++ [n])).has p with
    | false =>
      -- the way to the directory went through what was below it
      simp only [removeTree, h]
      split
      · rename_i hr
        exact (within_removeDirectory hr).not_has hp
      · exact hp
    | true =>
      have hs' : (fs.eraseBelow (s.directory ++ [n])).slot p = .ok s :=
        slot_of_has hw hs hl (by rw [entry_eraseBelow, below_concat]; exact hd) hp
      have he : entry? (fs.eraseBelow (s.directory ++ [n])) (s.directory ++ [n]) =
          some .directory := by
        rw [entry_eraseBelow, below_self]
        exact (findUnfollowed_cases h).1
      have hr := removeDirectory_eq_ok.mpr ⟨s, _, hs', hl, he, isEmptyAt_eraseBelow fs _, rfl⟩
      simp only [removeTree, h, hr]
      exact not_has_of_gone (within_erase _ _) hs' hl
        (by rw [entry_erase _ (by simp), if_pos rfl])

/-- What a path names stays when it is attempted to remove it: a file, or a directory that the
path's own last name does not stand for. -/
inductive Irremovable (fs : FileSystem) (p : Path) : Prop
  | file {l : Location} {content : ByteArray} {executable : Bool}
    (h : fs.findUnfollowed p = .ok (l, .file content executable))
  | directory {l : Location} (h : fs.findUnfollowed p = .ok (l, .directory))
    (hs : ∀ s, fs.slot p = .ok s → s.location? ≠ some l)

theorem unfollowed_of_has {fs : FileSystem} {p : Path} (ha : isRooted p.text = true)
    (hp : fs.has p = true) : ∃ l e, fs.findUnfollowed p = .ok (l, e) := by
  obtain ⟨l, e, hf⟩ := has_iff.mp hp
  obtain ⟨s, hs, ⟨hnone, _⟩ | ⟨m, hm, hne, _⟩⟩ :=
    slot_of_find (grounded_start fs ha) hf
  · exact ⟨l, e, by simp only [findUnfollowed, hs, hnone, hf]⟩
  · obtain ⟨e', he⟩ := Option.ne_none_iff_exists'.mp hne
    cases hslash : s.slashed with
    | true => exact ⟨l, e, by simp only [findUnfollowed, hs, hm, hslash, hf]⟩
    | false => exact ⟨m, e', by simp only [findUnfollowed, hs, hm, hslash, he]⟩

theorem not_removable_iff {fs : FileSystem} {p : Path} (ha : isRooted p.text = true)
    (hp : fs.has p = true) : ¬ fs.Removable p ↔ fs.Irremovable p := by
  obtain ⟨l, e, hf⟩ := unfollowed_of_has ha hp
  constructor
  · intro h
    cases e with
    | file content executable => exact .file hf
    | link target => exact absurd (.link hf) h
    | directory => exact .directory hf fun s hs hl => h (.directory hf hs hl)
  · rintro (h | ⟨h, hs⟩) (hr | ⟨hr, hs', hl⟩) <;> rw [h] at hr <;> cases hr
    exact hs _ hs' hl

theorem unfollowed_directory {fs : FileSystem} {p : Path} {s : Slot} {l m : Location} {e : Entry}
    (hs : fs.slot p = .ok s) (hm : s.location? = some m) (he : fs.entry? m = some .directory)
    (hf : fs.findUnfollowed p = .ok (l, e)) : m = l := by
  obtain ⟨_, s', hs', hl⟩ := findUnfollowed_cases hf
  rw [hs] at hs'
  cases hs'
  rcases hl with hl | hl
  · exact Option.some.inj (hm.symm.trans hl)
  · obtain ⟨n, hname, rfl⟩ := Slot.location_eq hm
    obtain ⟨_, front, hcut, hfront, _⟩ := slot_eq_ok.mp hs
    obtain ⟨d, hd, _, hdir⟩ := find_named (hname ▸ hcut) hl
    rw [hfront] at hd
    cases hd
    exact (hdir _ he (by simp)).symm

theorem removeTree_of_not_removable {fs : FileSystem} {p : Path} (h : ¬ fs.Removable p) :
    (fs.removeTree p).2 = fs.emptied p := by
  unfold removeTree emptied
  cases hf : fs.findUnfollowed p with
  | error e => rfl
  | ok x =>
    obtain ⟨l, e⟩ := x
    cases e with
    | file content executable => rfl
    | link target => exact absurd (.link hf) h
    | directory =>
      dsimp only
      split
      · -- a directory that could be removed stood for the path's last name all along
        rename_i hr
        obtain ⟨s, m, hs, hm, he, _⟩ := removeDirectory_eq_ok.mp hr
        have hw := within_eraseBelow fs l
        have hlm := unfollowed_directory (hw.slot hs) hm (hw.entry he) hf
        exact absurd (.directory hf (hw.slot hs) (hlm ▸ hm)) h
      · rfl

end FileSystem
end Provision
