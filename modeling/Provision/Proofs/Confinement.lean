import Provision.Proofs.DownloadAtomic
import Provision.Proofs.FailedInstall

namespace Provision

def Place.location : Place → Location
  | .present l => l
  | .vacant d n => d ++ [n]

namespace FileSystem

variable {fs fs' : FileSystem} {p : Path} {l : Location} {ls : List Location} {q q' : Place}

theorem AgreesOutside.mono {ls' : List Location} (h : AgreesOutside ls fs fs') (hls : ls ⊆ ls') :
    AgreesOutside ls' fs fs' where
  cwd_eq := h.cwd_eq
  entry_eq := fun m hm => h.entry_eq m fun hmem => hm (hls hmem)

theorem AgreesOutside.put (h : AgreesOutside ls fs fs') (hl : l ∈ ls) (e : Entry) :
    AgreesOutside ls fs (fs'.put l e) where
  cwd_eq := h.cwd_eq
  entry_eq := by
    intro m hm
    rw [entry_put fs' e (ne_of_mem_of_not_mem hl hm).symm]
    exact h.entry_eq m hm

theorem AgreesOutside.erase (h : AgreesOutside ls fs fs') (hl : l ∈ ls) (hne : l ≠ []) :
    AgreesOutside ls fs (fs'.erase l) where
  cwd_eq := h.cwd_eq
  entry_eq := by
    intro m hm
    rw [entry_erase fs' hne, if_neg (ne_of_mem_of_not_mem hl hm).symm]
    exact h.entry_eq m hm

/-- A walk that ends at a vacant place met nothing of that name. -/
theorem walk_vacant {here d : Location} {steps : List String} {n : String}
    (hw : fs.walk false here steps = .found (.vacant d n)) : fs.entry? (d ++ [n]) = none := by
  induction steps generalizing here with
  | nil => simp [walk] at hw
  | cons m steps ih =>
    simp only [walk, Bool.false_and, Bool.false_eq_true, if_false] at hw
    split at hw
    · exact ih hw
    · split at hw
      · exact ih hw
      · split at hw
        · cases hw
        · split at hw
          · rename_i hnone
            split at hw <;> cases hw
            exact hnone
          · cases hw
          · exact ih hw
          · split at hw <;> cases hw

theorem follow_location_vacant {links : Nat} {here d : Location} {steps : List String} {n : String}
    (hf : fs.follow false links here steps = .ok (.vacant d n)) :
    fs.entry? (d ++ [n]) = none := by
  induction links using Nat.strongRecOn generalizing here steps with
  | ind links ih =>
    rcases follow_cases hf with hw | ⟨links', d', t, rest, rfl, hw, hf⟩
    · exact walk_vacant hw
    · exact ih links' (Nat.lt_succ_self links') hf

/-- File systems that differ in files have the same vacant places, apart from those files. -/
theorem FilesDiffer.walk_vacant (h : FilesDiffer ls fs fs') (here : Location) (steps : List String)
    {d : Location} {n : String} (hl : d ++ [n] ∉ ls) :
    fs.walk false here steps = .found (.vacant d n) →
      fs'.walk false here steps = .found (.vacant d n) := by
  induction steps generalizing here with
  | nil => simp [FileSystem.walk]
  | cons m steps ih =>
    simp only [FileSystem.walk, Bool.false_and, Bool.false_eq_true, if_false]
    split
    · exact ih here
    · split
      · exact ih here.dropLast
      · split
        · exact fun hw => by cases hw
        · by_cases hmem : here ++ [m] ∈ ls
          · -- a walk ends at such a file, or at its own vacant place
            cases he : fs.entry? (here ++ [m]) with
            | none =>
              intro hw
              dsimp only at hw
              split at hw <;> cases hw
              exact absurd hmem hl
            | some e =>
              obtain ⟨content, executable, rfl⟩ := h.plain _ hmem e he
              intro hw
              dsimp only at hw
              split at hw <;> cases hw
          · rw [h.entry_eq _ hmem]
            cases fs.entry? (here ++ [m]) with
            | none => exact id
            | some e =>
              cases e with
              | directory => exact ih (here ++ [m])
              | file content executable => exact id
              | link target => exact id

theorem FilesDiffer.follow_place (h : FilesDiffer ls fs fs') {links : Nat} {here : Location}
    {steps : List String} (hq : q.location ∉ ls)
    (hf : fs.follow false links here steps = .ok q) :
    fs'.follow false links here steps = .ok q := by
  induction links using Nat.strongRecOn generalizing here steps with
  | ind links ih =>
    rcases follow_cases hf with hw | ⟨links', d, t, rest, rfl, hw, hf⟩
    · cases q with
      | present l => exact follow_found links ((h.walk here steps).1 l hw hq)
      | vacant d n => exact follow_found links (h.walk_vacant here steps hq hw)
    · rw [FileSystem.follow, (h.walk here steps).2 d t rest hw]
      exact ih links' (Nat.lt_succ_self links') hf

theorem follow_of_lookup (h : fs.lookup p true = .ok q) :
    fs.follow false linkLimit (fs.startOf p.text) (stepsOf p.text) = .ok q := by
  unfold lookup at h
  split at h
  · cases h
  · exact follow_creating h

/-- As long as nothing but the file that a path leads to changes, the path leads to that file. -/
theorem FilesDiffer.location_eq (h : FilesDiffer [l] fs fs') (hq : fs.lookup p true = .ok q)
    (hl : q.location = l) (hq' : fs'.lookup p true = .ok q') : q'.location = l := by
  refine Decidable.byContradiction fun hne => hne ?_
  have back := h.symm.follow_place (by simpa using hne) (follow_of_lookup hq')
  rw [h.start, follow_of_lookup hq] at back
  cases back
  exact hl

/-- Changing a file by a path changes, or makes, the one that the path leads to. -/
theorem modify_location {content : ByteArray → ByteArray} (h : fs.modify p content = .ok fs') :
    ∃ q new executable, fs.lookup p true = .ok q ∧ fs.Plain q.location ∧ q.location ≠ [] ∧
      fs' = fs.put q.location (.file new executable) := by
  unfold modify at h
  split at h
  · cases h
  · rename_i d n hlookup
    cases h
    have hnone := follow_location_vacant (follow_of_lookup hlookup)
    exact ⟨_, _, _, hlookup, plain_of_none hnone, by simp [Place.location], rfl⟩
  · rename_i l hlookup
    split at h
    · rename_i old executable he
      cases h
      refine ⟨_, _, _, hlookup, plain_of_file he, ?_, rfl⟩
      rintro (rfl : l = [])
      cases he
    · cases h

/-- The spots of a path are that of its name and the one that it leads to. -/
theorem spots_of_lookup (h : fs.lookup p true = .ok q) :
    fs.spots p = fs.nameSpot p ++ [q.location] := by
  unfold spots nameSpot
  rw [h]
  cases q <;> rfl

theorem spots_of_error {e : IoError} (h : fs.lookup p true = .error e) :
    fs.spots p = fs.nameSpot p := by
  unfold spots
  rw [h]
  exact List.append_nil _

theorem location_mem_spots (h : fs.lookup p true = .ok q) : q.location ∈ fs.spots p := by
  rw [spots_of_lookup h]
  exact List.mem_append_right _ List.mem_cons_self

theorem nameSpot_subset_spots (fs : FileSystem) (p : Path) : fs.nameSpot p ⊆ fs.spots p :=
  List.subset_append_left _ _

theorem mem_nameSpot_of_slot {s : Slot} (hs : fs.slot p = .ok s) (hl : s.location? = some l) :
    l ∈ fs.nameSpot p := by
  rw [nameSpot_of_slot hs hl]
  exact List.mem_cons_self

end FileSystem

namespace Download

variable {fs st st' : FileSystem} {target : Path} {l : Location} {states : List FileSystem}

def reach (fs : FileSystem) (target : Path) : List Location :=
  fs.nameSpot target ++ fs.spots (partOf target)

/-- The temporary file is being filled: it is where its path led at first, and nothing else has
changed. -/
structure Filling (fs : FileSystem) (target : Path) (l : Location) (st : FileSystem) : Prop where
  leads : ∃ q, fs.lookup (partOf target) true = .ok q ∧ q.location = l
  differs : FileSystem.FilesDiffer [l] fs st

theorem Filling.modify {content : ByteArray → ByteArray} (h : Filling fs target l st)
    (hst : st.modify (partOf target) content = .ok st') : Filling fs target l st' := by
  obtain ⟨q, hq, hl⟩ := h.leads
  obtain ⟨q', new, executable, hq', -, hne, rfl⟩ := FileSystem.modify_location hst
  have hl' := h.differs.location_eq hq hl hq'
  refine ⟨h.leads, ?_⟩
  rw [hl'] at hne ⊢
  exact h.differs.put List.mem_cons_self hne new executable

theorem filling_of_write {content : ByteArray} (h : fs.write (partOf target) content = .ok st) :
    ∃ l, Filling fs target l st := by
  obtain ⟨q, new, executable, hq, hplain, hne, rfl⟩ := FileSystem.modify_location h
  refine ⟨q.location, ⟨q, hq, rfl⟩, ?_⟩
  refine FileSystem.FilesDiffer.put (.refl ?_) List.mem_cons_self hne new executable
  simpa using hplain

structure Contained (fs : FileSystem) (target : Path) (st : FileSystem) : Prop where
  agrees : FileSystem.AgreesOutside (reach fs target) fs st
  directory : ∀ m, fs.entry? m = some .directory → st.entry? m = some .directory

theorem Filling.contained (h : Filling fs target l st) : Contained fs target st := by
  obtain ⟨q, hq, rfl⟩ := h.leads
  refine ⟨h.differs.toAgreesOutside.mono fun m hm => ?_, fun m hm => h.differs.directory hm⟩
  rw [List.mem_singleton.mp hm]
  exact List.mem_append_right _ (FileSystem.location_mem_spots hq)

theorem Contained.ne_of_directory {m m' : Location} (h : Contained fs target st)
    (hdir : st.entry? m ≠ some .directory) (hm' : fs.entry? m' = some .directory) : m' ≠ m := by
  rintro rfl
  exact hdir (h.directory m' hm')

theorem Contained.put {m : Location} {e : Entry} (h : Contained fs target st)
    (hm : m ∈ reach fs target) (hdir : st.entry? m ≠ some .directory) :
    Contained fs target (st.put m e) where
  agrees := h.agrees.put hm e
  directory := by
    intro m' hm'
    rw [FileSystem.entry_put st e (h.ne_of_directory hdir hm'), h.directory m' hm']

theorem Contained.erase {m : Location} (h : Contained fs target st) (hm : m ∈ reach fs target)
    (hne : m ≠ []) (hdir : st.entry? m ≠ some .directory) : Contained fs target (st.erase m) where
  agrees := h.agrees.erase hm hne
  directory := by
    intro m' hm'
    rw [FileSystem.entry_erase st hne, if_neg (h.ne_of_directory hdir hm'), h.directory m' hm']

theorem Filling.name_mem {p : Path} {s : FileSystem.Slot} {m : Location}
    (h : Filling fs target l st) (hp : p = target ∨ p = partOf target) (hs : st.slot p = .ok s)
    (hm : s.location? = some m) : m ∈ reach fs target := by
  have hspot := FileSystem.mem_nameSpot_of_slot (h.differs.symm.slot hs) hm
  rcases hp with rfl | rfl
  · exact List.mem_append_left _ hspot
  · exact List.mem_append_right _ (FileSystem.nameSpot_subset_spots _ _ hspot)

/-- Every state that a trail goes through is within the download's reach of the first. -/
def Trail.Confined (t : Trail) (fs : FileSystem) (target : Path) : Prop :=
  ∀ st ∈ t.states, Contained fs target st

theorem abandon_confined (h : Filling fs target l st)
    (hstates : ∀ st ∈ states, Contained fs target st) (reason : String) :
    (abandon target reason st states).Confined fs target := by
  unfold abandon
  cases hremove : st.removeFile (partOf target) with
  | error e => exact hstates
  | ok st' =>
    obtain ⟨s, m, e, hs, hm, he, hdir, -, rfl⟩ := FileSystem.removeFile_eq_ok.mp hremove
    have hreach := h.name_mem (.inr rfl) hs hm
    have erased : Contained fs target (st.erase m) :=
      h.contained.erase hreach (FileSystem.Slot.location_ne hm) (by simp [he, hdir])
    exact List.forall_mem_cons.mpr ⟨erased, hstates⟩

theorem settle_confined (h : Filling fs target l st)
    (hstates : ∀ st ∈ states, Contained fs target st) :
    (settle target st states).Confined fs target := by
  unfold settle
  cases hrename : st.rename (partOf target) target with
  | error e => exact abandon_confined h hstates e.message
  | ok st' =>
    obtain ⟨s, t, m, m', e, hs, ht, hm, hm', -, he, hdir, hdir', rfl⟩ :=
      FileSystem.rename_eq_ok hrename
    refine List.forall_mem_cons.mpr ⟨?_, hstates⟩
    split
    · exact h.contained
    · rename_i hne
      have hroot := FileSystem.Slot.location_ne hm
      have erased : Contained fs target (st.erase m) :=
        h.contained.erase (h.name_mem (.inr rfl) hs hm) hroot (by simp [he, hdir])
      refine erased.put (h.name_mem (.inl rfl) ht hm') ?_
      rw [FileSystem.entry_erase st hroot, if_neg (Ne.symm hne)]
      exact hdir'

/-- From the first piece to the end, by induction on the pieces: each is added to the file that is
being filled. -/
theorem receive_confined {broken : Option String} {pieces : List ByteArray}
    (h : Filling fs target l st)
    (hstates : ∀ st ∈ states, Contained fs target st) :
    (receive target broken pieces st states).Confined fs target := by
  induction pieces generalizing st states with
  | nil =>
    cases broken with
    | some reason => exact abandon_confined h hstates reason
    | none => exact settle_confined h hstates
  | cons piece rest ih =>
    unfold receive
    cases happend : st.append (partOf target) piece with
    | error e => exact abandon_confined h hstates e.message
    | ok st' =>
      have filled := h.modify happend
      exact ih filled (List.forall_mem_cons.mpr ⟨filled.contained, hstates⟩)

/-- A download stays within its reach and leaves every directory, whatever the request comes to. -/
theorem trail_confined (fs : FileSystem) (target : Path) (answer : Transfer) :
    (trail fs target answer).Confined fs target := by
  have nothing (reason : String) : Trail.Confined ⟨.error reason, []⟩ fs target :=
    fun st hst => by cases hst
  cases answer with
  | refused reason => exact nothing reason
  | body pieces broken =>
    unfold trail
    cases hwrite : fs.write (partOf target) .empty with
    | error e => exact nothing e.message
    | ok st =>
      obtain ⟨l, filled⟩ := filling_of_write hwrite
      exact receive_confined filled (by simpa using filled.contained)

end Download

/-- Downloads over a network touch nothing but their target and the temporary file beside it. -/
theorem Fetcher.web_confined {σ : Type} (network : Network) :
    (Fetcher.web network : Fetcher σ).Confined := by
  intro url target s
  have within : Download.reach s.fs target ⊆ s.fs.downloadSpots target :=
    List.append_subset.mpr ⟨fun m hm => List.mem_append_left _
      (FileSystem.nameSpot_subset_spots s.fs target hm), List.subset_append_right _ _⟩
  have confined := Download.trail_confined s.fs target (network url)
  unfold Fetcher.web Download.Trail.last
  dsimp only
  cases hstates : (Download.trail s.fs target (network url)).states with
  | nil => exact ⟨rfl, fun _ _ => rfl⟩
  | cons st rest =>
    have hst := confined st (by rw [hstates]; exact List.mem_cons_self)
    exact hst.agrees.mono within

end Provision
