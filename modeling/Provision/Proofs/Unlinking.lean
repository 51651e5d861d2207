import Provision.Proofs.Files

namespace Provision

namespace Path

/-- A path without the slashes and dots behind its last step. -/
def bare (p : Path) : Path := ofChars (unsegments (trimBlankEnd (segments p.chars)))

/-- A bare path has the same steps up to the last that names one. -/
theorem segments_bare {p : Path} {front back : List (List Char)} {name : List Char}
    (hs : segments p.chars = front ++ name :: back) (hback : ∀ b ∈ back, isBlank b = true)
    (hname : isBlank name = false) : segments p.bare.chars = front ++ [name] := by
  have hclean : ∀ s ∈ front ++ [name], '/' ∉ s := by
    intro s hmem
    have hpiece : s ∈ segments p.chars := by
      rw [hs]
      rcases List.mem_append.mp hmem with h | h
      · exact List.mem_append_left _ h
      · rw [List.mem_singleton.mp h]
        simp
    exact slash_not_mem hpiece
  rw [bare, ofChars, chars, String.toList_ofList, hs, trimBlankEnd_append hback hname,
    segments_unsegments (by simp) hclean]

theorem bare_eq_self {p : Path} {front : List (List Char)} {name : List Char}
    (hs : segments p.chars = front ++ [name]) (hname : isBlank name = false) : p.bare = p := by
  have htrim : trimBlankEnd (segments p.chars) = segments p.chars := by
    rw [hs]
    exact trimBlankEnd_append (by simp) hname
  rw [bare, htrim, unsegments_segments, ofChars, chars, String.ofList_toList]

end Path

namespace FileSystem

variable {fs fs' fs'' : FileSystem} {p : Path} {l m : Location} {gone gone' : Location → Prop}

/-- What is left of a file system when the entries at some locations are gone, and only those. -/
structure Loses (gone : Location → Prop) (fs fs' : FileSystem) : Prop where
  cwd_eq : fs'.cwd = fs.cwd
  absent : ∀ l, gone l → fs'.entry? l = none
  kept : ∀ l, ¬ gone l → fs'.entry? l = fs.entry? l

theorem Loses.nothing (h : ∀ l, ¬ gone l) : Loses gone fs fs :=
  ⟨rfl, fun l hl => absurd hl (h l), fun _ _ => rfl⟩

theorem Loses.trans (h : Loses gone fs fs') (h' : Loses gone' fs' fs'') :
    Loses (fun l => gone l ∨ gone' l) fs fs'' where
  cwd_eq := h'.cwd_eq.trans h.cwd_eq
  absent := by
    intro l hl
    by_cases hgone' : gone' l
    · exact h'.absent l hgone'
    · rw [h'.kept l hgone']
      exact h.absent l (hl.resolve_right hgone')
  kept := by
    intro l hl
    rw [h'.kept l fun h => hl (.inr h)]
    exact h.kept l fun h => hl (.inl h)

theorem Loses.congr (h : Loses gone fs fs') (same : ∀ l, gone l ↔ gone' l) :
    Loses gone' fs fs' :=
  ⟨h.cwd_eq, fun l hl => h.absent l ((same l).mpr hl), fun l hl =>
    h.kept l fun hgone => hl ((same l).mp hgone)⟩

theorem loses_erase (hl : l ≠ []) : Loses (· = l) fs (fs.erase l) where
  cwd_eq := rfl
  absent := fun m hm => by rw [entry_erase fs hl, if_pos hm]
  kept := fun m hm => by rw [entry_erase fs hl, if_neg hm]

theorem loses_eraseBelow (fs : FileSystem) (l : Location) :
    Loses (fun m => below l m = true) fs (fs.eraseBelow l) where
  cwd_eq := rfl
  absent := fun m hm => by rw [entry_eraseBelow, if_pos hm]
  kept := fun m hm => by rw [entry_eraseBelow, if_neg hm]

/-- A path that ends with a dot, or with a slash, is followed to its end. -/
theorem findUnfollowed_followed {s : Slot} (hs : fs.slot p = .ok s)
    (h : ∀ l, s.location? = some l → s.slashed = true) : fs.findUnfollowed p = fs.find p := by
  unfold findUnfollowed
  rw [hs]
  dsimp only
  split
  · rename_i l hl hslash
    rw [h l hl] at hslash
    cases hslash
  · rfl

theorem find_followed {s : Slot} {e : Entry} (ha : isRooted p.text = true)
    (hs : fs.slot p = .ok s) (h : ∀ l, s.location? = some l → s.slashed = true)
    (hf : fs.find p = .ok (l, e)) : e = .directory := by
  have hentry := (find_eq_ok.mp hf).2
  have grounded : fs.Grounded l := by
    obtain ⟨s', hs', ⟨-, hl⟩ | ⟨m, hm, -, hslash⟩⟩ := slot_of_find (grounded_start fs ha) hf
    · exact hl
    · rw [hs] at hs'
      cases hs'
      exact hslash (h m hm)
  rw [grounded.entry] at hentry
  exact (Option.some.inj hentry).symm

/-- A path names a file or a link at a location, when its last step is not followed. -/
def FileAt (fs : FileSystem) (p : Path) (l : Location) : Prop :=
  ∃ e, fs.findUnfollowed p = .ok (l, e) ∧ e ≠ .directory

theorem fileAt_of_unfollowed {e : Entry} (h : fs.findUnfollowed p = .ok (l, e))
    (hdir : e ≠ .directory) : fs.FileAt p m ↔ m = l := by
  constructor
  · rintro ⟨e', h', -⟩
    rw [h] at h'
    cases h'
    rfl
  · rintro rfl
    exact ⟨e, h, hdir⟩

theorem fileAt_iff (ha : isRooted p.text = true) :
    fs.FileAt p l ↔ ∃ s e, fs.slot p = .ok s ∧ s.location? = some l ∧ fs.entry? l = some e ∧
      e ≠ .directory ∧ s.slashed = false := by
  constructor
  · rintro ⟨e, hf, hdir⟩
    obtain ⟨-, s, hs, -⟩ := findUnfollowed_cases hf
    by_cases own : ∃ m, s.location? = some m ∧ s.slashed = false
    · obtain ⟨m, hm, hslash⟩ := own
      rw [findUnfollowed_slot hs hm hslash] at hf
      split at hf
      · rename_i he
        cases hf
        exact ⟨s, e, hs, hm, he, hdir, hslash⟩
      · cases hf
    · have slashed (m : Location) (hm : s.location? = some m) : s.slashed = true := by
        cases hslash : s.slashed with
        | true => rfl
        | false => exact absurd ⟨m, hm, hslash⟩ own
      rw [findUnfollowed_followed hs slashed] at hf
      exact absurd (find_followed ha hs slashed hf) hdir
  · rintro ⟨s, e, hs, hl, he, hdir, hslash⟩
    exact ⟨e, by rw [findUnfollowed_slot hs hl hslash, he], hdir⟩

theorem loses_dropFile (ha : isRooted p.text = true) : Loses (fs.FileAt p) fs (fs.dropFile p) := by
  unfold dropFile
  split
  · rename_i fs' hremoved
    obtain ⟨s, l, e, hs, hl, he, hdir, hslash, rfl⟩ := removeFile_eq_ok.mp hremoved
    have hown (m : Location) : m = l ↔ fs.FileAt p m := by
      constructor
      · rintro rfl
        exact (fileAt_iff ha).mpr ⟨s, e, hs, hl, he, hdir, hslash⟩
      · intro h
        obtain ⟨s', -, hs', hm, -⟩ := (fileAt_iff ha).mp h
        rw [hs] at hs'
        cases hs'
        exact Option.some.inj (hm.symm.trans hl)
    exact (loses_erase (Slot.location_ne hl)).congr hown
  · rename_i error hremoved
    refine .nothing fun l hl => ?_
    obtain ⟨s, e, hs, hl, he, hdir, hslash⟩ := (fileAt_iff ha).mp hl
    rw [removeFile_eq_ok.mpr ⟨s, l, e, hs, hl, he, hdir, hslash, rfl⟩] at hremoved
    cases hremoved

/-- What a path names once it was attempted to remove a file there is at most a directory. -/
theorem not_fileAt_dropFile (ha : isRooted p.text = true) : ¬ (fs.dropFile p).FileAt p l := by
  intro h
  obtain ⟨s, e, hs, hl, he, hdir, hslash⟩ := (fileAt_iff ha).mp h
  have hw := fs.within_dropFile p
  have hfile := (fileAt_iff ha).mpr ⟨s, e, hw.slot hs, hl, hw.entry he, hdir, hslash⟩
  rw [(loses_dropFile ha).absent l hfile] at he
  cases he

/-- What removing the tree at a path takes away: a link alone, or all that is below a directory, and
the directory too if the path's last name stands for it even when it is empty. -/
inductive TreeAt (fs : FileSystem) (p : Path) : Location → Prop
  | link {l : Location} {target : String} (h : fs.findUnfollowed p = .ok (l, .link target)) :
    TreeAt fs p l
  | below {l m : Location} (h : fs.findUnfollowed p = .ok (l, .directory))
    (hm : below l m = true) : TreeAt fs p m
  | top {l : Location} {s : Slot} (h : fs.findUnfollowed p = .ok (l, .directory))
    (hs : (fs.eraseBelow l).slot p = .ok s) (hl : s.location? = some l) : TreeAt fs p l

theorem treeAt_link {target : String} (h : fs.findUnfollowed p = .ok (l, .link target)) :
    fs.TreeAt p m ↔ m = l := by
  constructor
  · rintro (h' | ⟨h', -⟩ | ⟨h', -⟩) <;> rw [h] at h' <;> cases h'
    rfl
  · rintro rfl
    exact .link h

theorem treeAt_directory (h : fs.findUnfollowed p = .ok (l, .directory)) :
    fs.TreeAt p m ↔ below l m = true ∨
      (m = l ∧ ∃ s, (fs.eraseBelow l).slot p = .ok s ∧ s.location? = some l) := by
  constructor
  · rintro (h' | ⟨h', hm⟩ | ⟨h', hs, hl⟩) <;> rw [h] at h' <;> cases h'
    · exact .inl hm
    · exact .inr ⟨rfl, _, hs, hl⟩
  · rintro (hm | ⟨rfl, s, hs, hl⟩)
    · exact .below h hm
    · exact .top h hs hl

theorem loses_removeTree (fs : FileSystem) (p : Path) :
    Loses (fs.TreeAt p) fs (fs.removeTree p).2 := by
  unfold removeTree
  cases hf : fs.findUnfollowed p with
  | error e =>
    refine .nothing fun m hm => ?_
    rcases hm with h | ⟨h, -⟩ | ⟨h, -⟩ <;> rw [hf] at h <;> cases h
  | ok x =>
    obtain ⟨l, e⟩ := x
    cases e with
    | file content executable =>
      refine .nothing fun m hm => ?_
      rcases hm with h | ⟨h, -⟩ | ⟨h, -⟩ <;> rw [hf] at h <;> cases h
    | link target =>
      have hne : l ≠ [] := by
        rintro rfl
        cases (findUnfollowed_cases hf).1
      exact (loses_erase hne).congr fun m => (treeAt_link hf).symm
    | directory =>
      have hw := within_eraseBelow fs l
      dsimp only
      split
      · rename_i fs' hr
        obtain ⟨s, m, hs, hm, he, -, rfl⟩ := removeDirectory_eq_ok.mp hr
        obtain rfl := unfollowed_directory (hw.slot hs) hm (hw.entry he) hf
        refine ((loses_eraseBelow fs m).trans (loses_erase (Slot.location_ne hm))).congr fun x => ?_
        rw [treeAt_directory hf]
        exact or_congr_right ⟨fun h => ⟨h, s, hs, hm⟩, fun h => h.1⟩
      · rename_i error hr
        refine (loses_eraseBelow fs l).congr fun x => ?_
        rw [treeAt_directory hf]
        refine ⟨.inl, fun h => h.resolve_right ?_⟩
        rintro ⟨rfl, s, hs, hl⟩
        have he : entry? (fs.eraseBelow x) x = some .directory := by
          rw [entry_eraseBelow, below_self]
          exact (findUnfollowed_cases hf).1
        rw [removeDirectory_eq_ok.mpr ⟨s, x, hs, hl, he, isEmptyAt_eraseBelow fs x, rfl⟩] at hr
        cases hr

/-- The steps of a path that ends with a name are pieces of its text. -/
theorem pieces_of_cut {front : List String} {n : String} {slashed : Bool}
    (hcut : cutLast (stepsOf p.text) = (front, .name n, slashed)) :
    ∃ front' back', Path.segments p.chars = front' ++ n.toList :: back' ∧
      front'.map String.ofList = front ∧ (∀ b ∈ back', Path.isBlank b = true) ∧
      Path.isBlank n.toList = false ∧ (slashed = false → back' = []) := by
  obtain ⟨back, hback, hslash, hn, hdot, hup, hsteps⟩ := cutLast_named hcut
  obtain ⟨front', rest, hpieces, hfront, hrest⟩ := List.map_eq_append_iff.mp hsteps
  obtain ⟨name, back', rfl, hname, hback'⟩ := List.map_eq_cons_iff.mp hrest
  obtain rfl : name = n.toList := by rw [← hname, String.toList_ofList]
  refine ⟨front', back', hpieces, hfront, fun b hb => ?_, ?_, fun hs => ?_⟩
  · have hempty := hback (String.ofList b) (hback' ▸ List.mem_map_of_mem hb)
    have hb : b = [] := by simpa using congrArg String.toList hempty
    simp [Path.isBlank, hb]
  · have hne : n.toList ≠ [] := by simpa using hn
    have hhere : n.toList ≠ ['.'] := fun h => hdot (String.toList_inj.mp h)
    simp [Path.isBlank, hne, hhere]
  · rw [hslash.mp hs] at hback'
    exact List.map_eq_nil_iff.mp hback'

theorem isRooted_bare {front back : List (List Char)} {name : List Char}
    (ha : isRooted p.text = true) (hs : Path.segments p.chars = front ++ name :: back)
    (hback : ∀ b ∈ back, Path.isBlank b = true) (hname : Path.isBlank name = false) :
    isRooted p.bare.text = true := by
  obtain ⟨s, ss, hrooted⟩ := Path.isAbsolute_iff_segments.mp (show p.isAbsolute = true from ha)
  refine Path.isAbsolute_iff_segments.mpr ?_
  rw [Path.segments_bare hs hback hname]
  rw [hs] at hrooted
  cases front with
  | nil =>
    obtain ⟨rfl, -⟩ := List.cons_eq_cons.mp hrooted
    cases hname
  | cons t front =>
    obtain ⟨rfl, -⟩ := List.cons_eq_cons.mp hrooted
    cases front <;> exact ⟨_, _, rfl⟩

theorem slot_bare {s t : Slot} {n : String} (ha : isRooted p.text = true) (hs : fs.slot p = .ok s)
    (hname : s.last = .name n) (ht : fs.slot p.bare = .ok t) : t = ⟨s.directory, .name n, false⟩ := by
  obtain ⟨-, front, hcut, hfront, -⟩ := slot_eq_ok.mp hs
  rw [hname] at hcut
  obtain ⟨pieces, back, hpieces, rfl, hblank, hname', -⟩ := pieces_of_cut hcut
  obtain ⟨-, -, -, hn, hdot, hup, -⟩ := cutLast_named hcut
  have hsteps : stepsOf p.bare.text = pieces.map String.ofList ++ [n] := by
    have hbare : Path.segments p.bare.text.toList = pieces ++ [n.toList] :=
      Path.segments_bare hpieces hblank hname'
    rw [stepsOf, hbare, List.map_append, List.map_singleton, String.ofList_toList]
  have hstart : fs.startOf p.bare.text = fs.startOf p.text := by
    rw [startOf, startOf, if_pos ha, if_pos (isRooted_bare ha hpieces hblank hname')]
  obtain ⟨d, last, slashed⟩ := t
  obtain ⟨-, front, hcut', hfront', -⟩ := slot_eq_ok.mp ht
  rw [hsteps, cutLast_concat _ hn hdot hup] at hcut'
  obtain ⟨rfl, rfl, rfl⟩ : pieces.map String.ofList = front ∧ .name n = last ∧ false = slashed := by
    simpa using hcut'
  rw [hstart, hfront] at hfront'
  cases hfront'
  rfl

/-- A path whose last name stands for a directory names that directory without slashes too. -/
theorem findUnfollowed_bare {s : Slot} {e : Entry} (ha : isRooted p.text = true)
    (hs : fs.slot p = .ok s) (hl : s.location? = some l) (he : fs.entry? l = some .directory)
    (hbare : fs.findUnfollowed p.bare = .ok (m, e)) : e = .directory := by
  obtain ⟨n, hname, rfl⟩ := Slot.location_eq hl
  obtain ⟨-, t, ht, -⟩ := findUnfollowed_cases hbare
  obtain rfl := slot_bare ha hs hname ht
  rw [findUnfollowed_slot ht rfl rfl, he] at hbare
  cases hbare
  rfl

/-- Where slashes or dots follow a link, a tree is removed in the directory that the link leads to:
all that is below it goes, and neither the link nor the directory itself. -/
theorem treeAt_behind {target : String} (ha : isRooted p.text = true) (hbare : p.bare ≠ p)
    (hlink : fs.findUnfollowed p.bare = .ok (m, .link target)) :
    fs.TreeAt p l ↔ ∃ d, fs.find p = .ok (d, .directory) ∧ below d l = true := by
  have slashed {s : Slot} (hs : fs.slot p = .ok s) (l : Location) (hl : s.location? = some l) :
      s.slashed = true := by
    cases hslash : s.slashed with
    | true => rfl
    | false =>
      obtain ⟨n, hname, -⟩ := Slot.location_eq hl
      obtain ⟨-, front, hcut, -⟩ := slot_eq_ok.mp hs
      obtain ⟨front', back', hpieces, -, -, hblank, hnil⟩ := pieces_of_cut (hname ▸ hcut)
      rw [hnil hslash] at hpieces
      exact absurd (Path.bare_eq_self hpieces hblank) hbare
  have leads {d : Location} {e : Entry} (h : fs.findUnfollowed p = .ok (d, e)) :
      fs.find p = .ok (d, e) ∧ e = .directory := by
    obtain ⟨-, s, hs, -⟩ := findUnfollowed_cases h
    rw [findUnfollowed_followed hs (slashed hs)] at h
    exact ⟨h, find_followed ha hs (slashed hs) h⟩
  constructor
  · rintro (h | ⟨h, hm⟩ | ⟨h, hs, hl⟩)
    · cases (leads h).2
    · exact ⟨_, (leads h).1, hm⟩
    · have hslot := (within_eraseBelow fs _).slot hs
      cases findUnfollowed_bare ha hslot hl (findUnfollowed_cases h).1 hlink
  · rintro ⟨d, hf, hm⟩
    obtain ⟨s, hs, -⟩ := slot_of_find (grounded_start fs ha) hf
    exact .below ((findUnfollowed_followed hs (slashed hs)).trans hf) hm

end FileSystem
end Provision
