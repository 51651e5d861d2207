import Provision.Proofs.Directories

namespace Provision

namespace FileSystem

variable {fs fs' : FileSystem} {p : Path}

def entered (fs : FileSystem) : Location → List String → List Location
  | _, [] => []
  | here, n :: rest =>
    if n = "" ∨ n = "." then fs.entered here rest
    else if n = ".." then fs.entered here.dropLast rest
    else if fs.entry? (here ++ [n]) = some .directory then
      (here ++ [n]) :: fs.entered (here ++ [n]) rest
    else []

def passed (fs : FileSystem) : (links : Nat) → Location → List String → List Location
  | 0, here, steps => fs.entered here steps
  | links + 1, here, steps =>
    fs.entered here steps ++
      match fs.walk false here steps with
      | .atLink d target rest =>
        fs.passed links (if isRooted target then [] else d) (stepsOf target ++ rest)
      | _ => []

def way (fs : FileSystem) (p : Path) : List Location :=
  fs.passed linkLimit (fs.startOf p.text) (stepsOf p.text)

/-- A path leads to a file only by way of a directory that was not there before. -/
def Detour (fs fs' : FileSystem) (p : Path) : Prop :=
  fs'.hasFile p = true ∧ ∃ d ∈ fs'.way p, fs.entry? d = none

theorem Grown.entry_of_ne {l : Location} {e : Entry} (h : fs.Grown fs')
    (he : fs'.entry? l = some e) (hdir : e ≠ .directory) : fs.entry? l = some e := by
  cases hl : fs.entry? l with
  | none => exact absurd (h.fresh hl he) hdir
  | some e' =>
    rw [h.entry hl] at he
    exact he

theorem Grown.walk_eq (h : fs.Grown fs') {here : Location} {steps : List String}
    (known : ∀ d ∈ fs'.entered here steps, fs.entry? d ≠ none) :
    fs.walk false here steps = fs'.walk false here steps := by
  induction steps generalizing here with
  | nil => rfl
  | cons n steps ih =>
    rw [entered] at known
    simp only [walk, Bool.false_and, Bool.false_eq_true, if_false]
    split
    · rename_i hblank
      rw [if_pos hblank] at known
      exact ih known
    · rename_i hblank
      rw [if_neg hblank] at known
      split
      · rename_i hup
        rw [if_pos hup] at known
        exact ih known
      · rename_i hup
        rw [if_neg hup] at known
        split
        · rfl
        · cases he : fs'.entry? (here ++ [n]) with
          | none =>
            cases hl : fs.entry? (here ++ [n]) with
            | none => rfl
            | some e =>
              rw [h.entry hl] at he
              cases he
          | some e =>
            cases e with
            | directory =>
              -- a directory that is entered was there before, so both walks go on
              rw [if_pos he] at known
              obtain ⟨e, hl⟩ := Option.ne_none_iff_exists'.mp (known _ List.mem_cons_self)
              have hsame := h.entry hl
              rw [he] at hsame
              cases hsame
              rw [hl]
              exact ih fun d hd => known d (List.mem_cons_of_mem _ hd)
            | file content executable => rw [h.entry_of_ne he (by simp)]
            | link target => rw [h.entry_of_ne he (by simp)]

/-- A walk that enters a new directory got no further than to its place before. -/
theorem Grown.walk_stops (h : fs.Grown fs') {here d : Location} {steps : List String}
    (hd : d ∈ fs'.entered here steps) (hnone : fs.entry? d = none) :
    (∃ e, fs.walk false here steps = .failed e) ∨
      ∃ x n, fs.walk false here steps = .found (.vacant x n) := by
  induction steps generalizing here with
  | nil => simp [entered] at hd
  | cons n steps ih =>
    rw [entered] at hd
    simp only [walk, Bool.false_and, Bool.false_eq_true, if_false]
    split
    · rename_i hblank
      rw [if_pos hblank] at hd
      exact ih hd
    · rename_i hblank
      rw [if_neg hblank] at hd
      split
      · rename_i hup
        rw [if_pos hup] at hd
        exact ih hd
      · rename_i hup
        rw [if_neg hup] at hd
        split
        · exact .inl ⟨_, rfl⟩
        · split at hd
          · rename_i he
            cases hl : fs.entry? (here ++ [n]) with
            | none =>
              dsimp only
              split
              · exact .inr ⟨_, _, rfl⟩
              · exact .inl ⟨_, rfl⟩
            | some e =>
              have hsame := h.entry hl
              rw [he] at hsame
              cases hsame
              rcases List.mem_cons.mp hd with rfl | hd
              · rw [hl] at hnone
                cases hnone
              · exact ih hd
          · cases hd

theorem Grown.follow_eq (h : fs.Grown fs') {links : Nat} {here : Location} {steps : List String}
    (known : ∀ d ∈ fs'.passed links here steps, fs.entry? d ≠ none) :
    fs.follow false links here steps = fs'.follow false links here steps := by
  induction links generalizing here steps with
  | zero =>
    rw [follow, follow, h.walk_eq known]
  | succ links ih =>
    rw [passed] at known
    rw [follow, follow, h.walk_eq fun d hd => known d (List.mem_append_left _ hd)]
    cases hw : fs'.walk false here steps with
    | found q => rfl
    | failed e => rfl
    | atLink d target rest =>
      rw [hw] at known
      exact ih fun d hd => known d (List.mem_append_right _ hd)

theorem Grown.follow_ne (h : fs.Grown fs') {links : Nat} {here d l : Location}
    {steps : List String} (hd : d ∈ fs'.passed links here steps) (hnone : fs.entry? d = none) :
    fs.follow false links here steps ≠ .ok (.present l) := by
  have stopped {links : Nat} {here d : Location} {steps : List String}
      (hd : d ∈ fs'.entered here steps) (hnone : fs.entry? d = none) :
      fs.follow false links here steps ≠ .ok (.present l) := by
    rcases h.walk_stops hd hnone with ⟨e, hw⟩ | ⟨x, n, hw⟩ <;> simp [follow, hw]
  induction links generalizing here steps with
  | zero => exact stopped hd hnone
  | succ links ih =>
    by_cases hnew : ∃ x ∈ fs'.entered here steps, fs.entry? x = none
    · obtain ⟨x, hx, hfresh⟩ := hnew
      exact stopped hx hfresh
    · have hwalk : fs.walk false here steps = fs'.walk false here steps :=
        h.walk_eq fun x hx hfresh => hnew ⟨x, hx, hfresh⟩
      rw [passed] at hd
      rcases List.mem_append.mp hd with hd | hd
      · exact absurd ⟨d, hd, hnone⟩ hnew
      · rw [follow, hwalk]
        cases hw : fs'.walk false here steps with
        | found q =>
          rw [hw] at hd
          cases hd
        | failed e =>
          rw [hw] at hd
          cases hd
        | atLink x target rest =>
          rw [hw] at hd
          exact ih hd

theorem hasFile_iff : fs.hasFile p = true ↔
    ∃ l content executable, fs.find p = .ok (l, .file content executable) := by
  unfold hasFile
  split
  · rename_i l content executable hf
    exact ⟨fun _ => ⟨l, content, executable, hf⟩, fun _ => rfl⟩
  · rename_i hother
    refine ⟨fun h => absurd h (by simp), ?_⟩
    rintro ⟨l, content, executable, hf⟩
    exact absurd hf (hother l content executable)

theorem Within.hasFile (h : fs.Within fs') (hp : fs.hasFile p = true) : fs'.hasFile p = true := by
  obtain ⟨l, content, executable, hf⟩ := hasFile_iff.mp hp
  exact hasFile_iff.mpr ⟨l, content, executable, h.find hf⟩

theorem Grown.hasFile_iff_known (h : fs.Grown fs') (hp : fs'.hasFile p = true) :
    fs.hasFile p = true ↔ ∀ d ∈ fs'.way p, fs.entry? d ≠ none := by
  have hstart := h.start p.text
  constructor
  · intro hfile d hd hnone
    obtain ⟨l, content, executable, hf⟩ := hasFile_iff.mp hfile
    obtain ⟨_, hfollow⟩ := lookup_present.mp (find_eq_ok.mp hf).1
    rw [hstart] at hfollow
    exact h.follow_ne hd hnone hfollow
  · intro known
    obtain ⟨l, content, executable, hf⟩ := hasFile_iff.mp hp
    obtain ⟨hlookup, he⟩ := find_eq_ok.mp hf
    obtain ⟨hr, hfollow⟩ := lookup_present.mp hlookup
    refine hasFile_iff.mpr ⟨l, content, executable, find_eq_ok.mpr ⟨?_, ?_⟩⟩
    · rw [lookup_present, hstart, h.follow_eq known]
      exact ⟨hr, hfollow⟩
    · exact h.entry_of_ne he (by simp)

/-- A detour leads to just the files that were not found before. -/
theorem Grown.detour_iff (h : fs.Grown fs') :
    fs.Detour fs' p ↔ fs'.hasFile p = true ∧ fs.hasFile p = false := by
  refine and_congr_right fun hfile => ?_
  rw [Bool.eq_false_iff, ne_eq, h.hasFile_iff_known hfile]
  constructor
  · rintro ⟨d, hway, hnone⟩ known
    exact known d hway hnone
  · intro unknown
    by_cases hnew : ∃ d ∈ fs'.way p, fs.entry? d = none
    · exact hnew
    · exact absurd (fun d hd hnone => hnew ⟨d, hd, hnone⟩) unknown

end FileSystem

end Provision
