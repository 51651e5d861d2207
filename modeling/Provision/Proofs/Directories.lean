import Provision.Proofs.Removal

namespace Provision
namespace FileSystem

variable {fs fs' fs'' : FileSystem}

theorem entry_put (fs : FileSystem) {l m : Location} (e : Entry) (hm : m ≠ l) :
    entry? (fs.put l e) m = fs.entry? m := by
  by_cases hnil : m = []
  · subst hnil
    rfl
  · have h := entry_filter fs (fun m => decide (m ≠ l)) hnil
    rw [if_pos (by simpa using hm)] at h
    rw [← h]
    unfold entry? put
    rw [if_neg hnil, if_neg hnil, List.find?_cons_of_neg (by simpa using Ne.symm hm)]

theorem entry_put_self (fs : FileSystem) {l : Location} (e : Entry) (hl : l ≠ []) :
    entry? (fs.put l e) l = some e := by
  unfold entry? put
  rw [if_neg hl, List.find?_cons_of_pos (by simp)]
  rfl

/-- What the first file system holds is in the second as well, and what the second holds beyond that
are directories. -/
structure Grown (fs fs' : FileSystem) : Prop extends Within fs fs' where
  fresh : ∀ {l : Location} {e : Entry}, fs.entry? l = none → fs'.entry? l = some e →
    e = .directory

@[refl] theorem Grown.refl (fs : FileSystem) : fs.Grown fs where
  toWithin := .refl fs
  fresh := by
    intro l e hnone hsome
    rw [hnone] at hsome
    cases hsome

theorem Grown.trans (h : fs.Grown fs') (h' : fs'.Grown fs'') : fs.Grown fs'' where
  toWithin := h.toWithin.trans h'.toWithin
  fresh := by
    intro l e hnone hsome
    cases hmid : fs'.entry? l with
    | none => exact h'.fresh hmid hsome
    | some e' =>
      have hdir := h.fresh hnone hmid
      have hkept := h'.entry hmid
      rw [hsome] at hkept
      cases hkept
      exact hdir

theorem grown_put {l : Location} (hl : l ≠ []) (hnone : fs.entry? l = none) :
    fs.Grown (fs.put l .directory) where
  cwd := rfl
  entry := by
    intro m e he
    by_cases hm : m = l
    · subst hm
      rw [hnone] at he
      cases he
    · rw [entry_put fs .directory hm]
      exact he
  fresh := by
    intro m e hm he
    by_cases h : m = l
    · subst h
      rw [entry_put_self fs .directory hl] at he
      cases he
      rfl
    · rw [entry_put fs .directory h, hm] at he
      cases he

theorem hasDirectory_iff {p : Path} :
    fs.hasDirectory p = true ↔ ∃ l, fs.find p = .ok (l, .directory) := by
  unfold hasDirectory
  constructor
  · intro h
    split at h
    · rename_i l hf
      exact ⟨l, hf⟩
    · cases h
  · rintro ⟨l, hf⟩
    rw [hf]

/-- Steps that lead to a directory can be walked on from there; a link on the way is met all the
same. -/
theorem walk_through {here : Location} {front back : List String} :
    (∀ d, fs.walk false here front = .found (.present d) → fs.entry? d = some .directory →
      fs.walk false here (front ++ back) = fs.walk false d back) ∧
    (∀ d t rest, fs.walk false here front = .atLink d t rest →
      fs.walk false here (front ++ back) = .atLink d t (rest ++ back)) := by
  induction front generalizing here with
  | nil =>
    refine ⟨fun d hw _ => ?_, fun d t rest hw => by simp [walk] at hw⟩
    cases hw
    rfl
  | cons n front ih =>
    simp only [List.cons_append, walk, Bool.false_and, Bool.false_eq_true, if_false]
    split
    · exact ih
    · split
      · exact ih
      · split
        · exact ⟨fun _ hw => by simp at hw, fun _ _ _ hw => by simp at hw⟩
        · cases he : fs.entry? (here ++ [n]) with
          | none =>
            dsimp only
            refine ⟨fun d hw _ => ?_, fun d t rest hw => ?_⟩ <;> (split at hw <;> cases hw)
          | some e =>
            cases e with
            | directory => exact ih
            | file content executable =>
              dsimp only
              refine ⟨fun d hw hd => ?_, fun _ _ _ hw => ?_⟩
              · split at hw
                · cases hw
                  rw [he] at hd
                  cases hd
                · cases hw
              · split at hw <;> cases hw
            | link target =>
              refine ⟨fun _ hw => by simp at hw, fun d t rest hw => ?_⟩
              simp only [Walk.atLink.injEq] at hw
              obtain ⟨rfl, rfl, rfl⟩ := hw
              rfl

/-- Following steps that lead to a directory, and more behind them, is following those from there.
-/
theorem follow_through {links : Nat} {here d : Location} {front : List String}
    (back : List String) (hf : fs.follow false links here front = .ok (.present d))
    (hd : fs.entry? d = some .directory) :
    ∃ links', fs.follow false links here (front ++ back) = fs.follow false links' d back := by
  induction links using Nat.strongRecOn generalizing here front with
  | ind links ih =>
    rcases follow_cases hf with hw | ⟨links', d', t, rest, rfl, hw, hf⟩
    · refine ⟨links, ?_⟩
      rw [follow, walk_through.1 d hw hd, ← follow]
    · obtain ⟨k, hk⟩ := ih links' (Nat.lt_succ_self links') hf
      refine ⟨k, ?_⟩
      rw [follow, walk_through.2 d' t rest hw, ← hk, List.append_assoc]

/-- The directories on the way to a directory are all there, if they are where the path starts. -/
theorem grounded_of_find {p : Path} {l : Location} (h : fs.Grounded (fs.startOf p.text))
    (hf : fs.find p = .ok (l, .directory)) : fs.Grounded l := by
  obtain ⟨hl, hdir⟩ := find_eq_ok.mp hf
  obtain ⟨_, hfollow⟩ := lookup_present.mp hl
  obtain ⟨links, hslash⟩ := follow_through [""] hfollow hdir
  have hend : fs.follow false links l [""] = .ok (.present l) :=
    follow_found links (walk_blanks (by simp))
  rw [hend] at hslash
  exact follow_slashed h hslash

/-- A directory is made where a slot has a name that nothing has yet. -/
theorem makeDirectory_eq_ok {p : Path} (h : fs.makeDirectory p = .ok fs') :
    ∃ s l, fs.slot p = .ok s ∧ s.location? = some l ∧ fs.entry? l = none ∧
      fs' = fs.put l .directory := by
  unfold makeDirectory at h
  split at h
  · cases h
  · rename_i s hs
    split at h
    · cases h
    · rename_i l hl
      split at h
      · cases h
      · rename_i hnone
        cases h
        exact ⟨s, l, hs, hl, hnone, rfl⟩

theorem makeDirectory_grown {p : Path} (h : fs.makeDirectory p = .ok fs') : fs.Grown fs' := by
  obtain ⟨s, l, _, hl, hnone, rfl⟩ := makeDirectory_eq_ok h
  exact grown_put (Slot.location_ne hl) hnone

/-- A path that was just made leads to the new directory: the steps before its last lead on as they
did. -/
theorem makeDirectory_hasDirectory {p : Path} (h : fs.makeDirectory p = .ok fs') :
    fs'.hasDirectory p = true := by
  have grown := makeDirectory_grown h
  obtain ⟨s, l, hs, hl, _, rfl⟩ := makeDirectory_eq_ok h
  obtain ⟨n, hname, rfl⟩ := Slot.location_eq hl
  obtain ⟨hr, front, hcut, hfront, hdir, hlen⟩ := slot_eq_ok.mp (grown.slot hs)
  have hnew := entry_put_self fs .directory (Slot.location_ne hl)
  obtain ⟨back, hback, _, hn, hdot, hup, hsteps⟩ := cutLast_named (hname ▸ hcut)
  have hsize := hlen n hname
  have hstep : walk (fs.put (s.directory ++ [n]) .directory) false s.directory (n :: back) =
      .found (.present (s.directory ++ [n])) := by
    simp [walk, hn, hdot, hup, hnew, walk_blanks hback, Nat.not_lt.mpr hsize]
  obtain ⟨links, hthrough⟩ := follow_through (n :: back) hfront hdir
  rw [← hsteps, follow_found links hstep] at hthrough
  exact hasDirectory_iff.mpr ⟨_, find_eq_ok.mpr ⟨lookup_present.mpr ⟨hr, hthrough⟩, hnew⟩⟩

/-- How making directories ends: with success only where the path leads to a directory, the empty
path apart, and with nothing but directories added in either case. -/
structure Settled (fs : FileSystem) (p : Path) (made : Except IoError Unit × FileSystem) :
    Prop where
  grown : fs.Grown made.2
  leads : made.1 = .ok () → p.text ≠ "" → made.2.hasDirectory p = true

theorem settled_of_error {p : Path} {e : IoError} (h : fs.Grown fs') :
    fs.Settled p (.error e, fs') where
  grown := h
  leads := by
    intro hok
    cases hok

theorem settleDirectory_settled (fs : FileSystem) (p : Path) (e : IoError) :
    fs.Settled p (fs.settleDirectory p e) := by
  unfold settleDirectory
  split
  · rename_i hdir
    exact ⟨.refl fs, fun _ _ => hdir⟩
  · exact settled_of_error (.refl fs)

theorem settled_of_made {p : Path} (h : fs.makeDirectory p = .ok fs') :
    fs.Settled p (.ok (), fs') :=
  ⟨makeDirectory_grown h, fun _ _ => makeDirectory_hasDirectory h⟩

theorem Settled.after {p : Path} {made : Except IoError Unit × FileSystem}
    (h : fs'.Settled p made) (before : fs.Grown fs') : fs.Settled p made :=
  ⟨before.trans h.grown, h.leads⟩

theorem makeDirectoriesWithin_settled (depth : Nat) (fs : FileSystem) (p : Path) :
    fs.Settled p (makeDirectoriesWithin depth fs p) := by
  fun_induction makeDirectoriesWithin depth fs p with
  | case1 _ fs p hempty => exact ⟨.refl fs, fun _ hp => absurd hempty hp⟩
  | case2 _ fs p _ fs' hmade => exact settled_of_made hmade
  | case3 fs p _ _ _ parent _ e fs' hparents ih =>
    rw [hparents] at ih
    exact settled_of_error ih.grown
  | case4 fs p _ _ _ parent _ fs' hparents fs'' hmade ih =>
    rw [hparents] at ih
    exact (settled_of_made hmade).after ih.grown
  | case5 fs p _ _ _ parent _ fs' hparents e _ ih =>
    rw [hparents] at ih
    exact (settleDirectory_settled fs' p e).after ih.grown
  | case6 => exact settled_of_error (.refl _)
  | case7 _ fs p _ e => exact settleDirectory_settled fs p e

theorem makeDirectories_settled (fs : FileSystem) (p : Path) :
    fs.Settled p (fs.makeDirectories p) :=
  makeDirectoriesWithin_settled _ fs p

theorem realPath_of_empty {p : Path} (h : p.text = "") : fs.realPath p = .error .noEntry := by
  simp [realPath, find, lookup, refused?, h, Except.map]

/-- A path that directories were made for, and that is found again, leads to one that all the
directories on its way lead to. -/
theorem made_leads {p out : Path} (h : (fs.makeDirectories p).1 = .ok ())
    (hreal : (fs.makeDirectories p).2.realPath p = .ok out) :
    ∃ l, (fs.makeDirectories p).2.find p = .ok (l, .directory) ∧
      (fs.Grounded (fs.startOf p.text) → (fs.makeDirectories p).2.Grounded l) := by
  have settled := fs.makeDirectories_settled p
  have hne : p.text ≠ "" := by
    intro hempty
    rw [realPath_of_empty hempty] at hreal
    cases hreal
  obtain ⟨l, hl⟩ := hasDirectory_iff.mp (settled.leads h hne)
  refine ⟨l, hl, fun grounded => grounded_of_find ?_ hl⟩
  rw [← settled.grown.start]
  intro m hm
  exact settled.grown.entry (grounded m hm)

end FileSystem
end Provision
