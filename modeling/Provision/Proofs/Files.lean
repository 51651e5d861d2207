import Provision.Proofs.Directories

namespace Provision
namespace FileSystem

variable {fs fs' : FileSystem} {p : Path} {l : Location} {ls : List Location}

structure AgreesOutside (ls : List Location) (fs fs' : FileSystem) : Prop where
  cwd_eq : fs'.cwd = fs.cwd
  entry_eq : ∀ l, l ∉ ls → fs'.entry? l = fs.entry? l

/-- Nothing but a file stands at a location. -/
def Plain (fs : FileSystem) (l : Location) : Prop :=
  ∀ e, fs.entry? l = some e → ∃ content executable, e = .file content executable

theorem plain_of_none (h : fs.entry? l = none) : fs.Plain l := by
  intro e he
  rw [h] at he
  cases he

theorem plain_of_file {content : ByteArray} {executable : Bool}
    (h : fs.entry? l = some (.file content executable)) : fs.Plain l := by
  intro e he
  rw [h] at he
  exact ⟨content, executable, (Option.some.inj he).symm⟩

/-- Two file systems that differ in files at most, and only at the given locations. -/
structure FilesDiffer (ls : List Location) (fs fs' : FileSystem) : Prop
    extends AgreesOutside ls fs fs' where
  plain : ∀ l ∈ ls, fs.Plain l
  plain_after : ∀ l ∈ ls, fs'.Plain l

theorem FilesDiffer.symm (h : FilesDiffer ls fs fs') : FilesDiffer ls fs' fs where
  cwd_eq := h.cwd_eq.symm
  entry_eq := fun l hl => (h.entry_eq l hl).symm
  plain := h.plain_after
  plain_after := h.plain

theorem FilesDiffer.refl (h : ∀ l ∈ ls, fs.Plain l) : FilesDiffer ls fs fs where
  cwd_eq := rfl
  entry_eq := fun _ _ => rfl
  plain := h
  plain_after := h

theorem FilesDiffer.put (h : FilesDiffer ls fs fs') (hl : l ∈ ls) (hne : l ≠ [])
    (content : ByteArray) (executable : Bool) :
    FilesDiffer ls fs (fs'.put l (.file content executable)) where
  cwd_eq := h.cwd_eq
  entry_eq := by
    intro m hm
    rw [entry_put fs' _ (ne_of_mem_of_not_mem hl hm).symm]
    exact h.entry_eq m hm
  plain := h.plain
  plain_after := by
    intro m hm
    by_cases heq : m = l
    · subst heq
      exact plain_of_file (entry_put_self fs' _ hne)
    · intro e he
      rw [entry_put fs' _ heq] at he
      exact h.plain_after m hm e he

theorem FilesDiffer.erase (h : FilesDiffer ls fs fs') (hl : l ∈ ls) (hne : l ≠ []) :
    FilesDiffer ls fs (fs'.erase l) where
  cwd_eq := h.cwd_eq
  entry_eq := by
    intro m hm
    rw [entry_erase fs' hne, if_neg (ne_of_mem_of_not_mem hl hm).symm]
    exact h.entry_eq m hm
  plain := h.plain
  plain_after := by
    intro m hm e he
    rw [entry_erase fs' hne] at he
    split at he
    · cases he
    · exact h.plain_after m hm e he

theorem not_plain_of_directory (h : fs.entry? l = some .directory) : ¬ fs.Plain l := by
  intro hplain
  obtain ⟨content, executable, he⟩ := hplain _ h
  cases he

theorem FilesDiffer.directory (h : FilesDiffer ls fs fs') (hl : fs.entry? l = some .directory) :
    fs'.entry? l = some .directory := by
  rw [h.entry_eq l fun hmem => not_plain_of_directory hl (h.plain l hmem)]
  exact hl

theorem FilesDiffer.start (h : FilesDiffer ls fs fs') (text : String) :
    fs'.startOf text = fs.startOf text := by
  simp [startOf, h.cwd_eq]

theorem FilesDiffer.grounded (h : FilesDiffer ls fs fs') (hg : fs.Grounded l) : fs'.Grounded l :=
  fun m hm => h.directory (hg m hm)

/-- A walk comes to the same place in both file systems, unless it ends at one of the files in which
they differ. -/
theorem FilesDiffer.walk (h : FilesDiffer ls fs fs') (here : Location) (steps : List String) :
    (∀ l, fs.walk false here steps = .found (.present l) → l ∉ ls →
      fs'.walk false here steps = .found (.present l)) ∧
    (∀ d t rest, fs.walk false here steps = .atLink d t rest →
      fs'.walk false here steps = .atLink d t rest) := by
  induction steps generalizing here with
  | nil => exact ⟨fun l hw _ => hw, fun d t rest hw => by simp [FileSystem.walk] at hw⟩
  | cons n steps ih =>
    simp only [FileSystem.walk, Bool.false_and, Bool.false_eq_true, if_false]
    split
    · exact ih here
    · split
      · exact ih here.dropLast
      · split
        · exact ⟨fun _ hw => by simp at hw, fun _ _ _ hw => by simp at hw⟩
        · by_cases hmem : here ++ [n] ∈ ls
          · -- a walk that meets one of the files ends there or fails
            cases he : fs.entry? (here ++ [n]) with
            | none =>
              dsimp only
              refine ⟨fun l hw _ => ?_, fun d t rest hw => ?_⟩ <;> (split at hw <;> cases hw)
            | some e =>
              obtain ⟨content, executable, rfl⟩ := h.plain _ hmem e he
              dsimp only
              refine ⟨fun l hw hl => ?_, fun d t rest hw => ?_⟩
              · split at hw <;> cases hw
                exact absurd hmem hl
              · split at hw <;> cases hw
          · rw [h.entry_eq _ hmem]
            cases fs.entry? (here ++ [n]) with
            | none => exact ⟨fun _ hw _ => hw, fun _ _ _ hw => hw⟩
            | some e =>
              cases e with
              | directory => exact ih (here ++ [n])
              | file content executable => exact ⟨fun _ hw _ => hw, fun _ _ _ hw => hw⟩
              | link target => exact ⟨fun _ hw _ => hw, fun _ _ _ hw => hw⟩

theorem FilesDiffer.follow (h : FilesDiffer ls fs fs') {links : Nat} {here : Location}
    {steps : List String} (hl : l ∉ ls)
    (hf : fs.follow false links here steps = .ok (.present l)) :
    fs'.follow false links here steps = .ok (.present l) := by
  induction links using Nat.strongRecOn generalizing here steps with
  | ind links ih =>
    rcases follow_cases hf with hw | ⟨links', d, t, rest, rfl, hw, hf⟩
    · exact follow_found links ((h.walk here steps).1 l hw hl)
    · rw [FileSystem.follow, (h.walk here steps).2 d t rest hw]
      exact ih links' (Nat.lt_succ_self links') hf

theorem FilesDiffer.find (h : FilesDiffer ls fs fs') {e : Entry} (hl : l ∉ ls)
    (hf : fs.find p = .ok (l, e)) : fs'.find p = .ok (l, e) := by
  obtain ⟨hlookup, he⟩ := find_eq_ok.mp hf
  obtain ⟨hr, hfollow⟩ := lookup_present.mp hlookup
  refine find_eq_ok.mpr ⟨lookup_present.mpr ⟨hr, ?_⟩, (h.entry_eq l hl).trans he⟩
  rw [h.start]
  exact h.follow hl hfollow

theorem FilesDiffer.slot (h : FilesDiffer ls fs fs') {s : Slot} (hs : fs.slot p = .ok s) :
    fs'.slot p = .ok s := by
  obtain ⟨hr, front, hcut, hfront, hd, hlen⟩ := slot_eq_ok.mp hs
  have hmem : s.directory ∉ ls := fun hmem => not_plain_of_directory hd (h.plain _ hmem)
  refine slot_eq_ok.mpr ⟨hr, front, hcut, ?_, h.directory hd, hlen⟩
  rw [h.start]
  exact h.follow hmem hfront

/-- A path whose last step is not followed names the same in both, unless it names such a file. -/
theorem FilesDiffer.findUnfollowed (h : FilesDiffer ls fs fs') {e : Entry} (hl : l ∉ ls)
    (hf : fs.findUnfollowed p = .ok (l, e)) : fs'.findUnfollowed p = .ok (l, e) := by
  unfold FileSystem.findUnfollowed at hf ⊢
  split at hf
  · cases hf
  · rename_i s hs
    rw [h.slot hs]
    split at hf
    · rename_i m hm hslash
      simp only [hm, hslash]
      split at hf
      · rename_i he
        cases hf
        rw [h.entry_eq l hl, he]
      · cases hf
    · rename_i hother
      dsimp only
      split
      · rename_i m hm hslash
        exact absurd hslash (hother m hm)
      · exact h.find hl hf

/-- A path names a link, when its last step is not followed. -/
def LinkAt (fs : FileSystem) (p : Path) : Prop :=
  ∃ l target, fs.findUnfollowed p = .ok (l, .link target)

theorem FilesDiffer.linkAt (h : FilesDiffer ls fs fs') (hp : fs.LinkAt p) : fs'.LinkAt p := by
  obtain ⟨l, target, hf⟩ := hp
  refine ⟨l, target, h.findUnfollowed (fun hmem => ?_) hf⟩
  obtain ⟨content, executable, he⟩ := h.plain l hmem _ (findUnfollowed_cases hf).1
  cases he

def held? (fs : FileSystem) (p : Path) : Option Entry :=
  match fs.find p with
  | .ok (_, e) => some e
  | .error _ => none

theorem held_of_find {e : Entry} (h : fs.find p = .ok (l, e)) : fs.held? p = some e := by
  rw [held?, h]

/-- A path holds the same in both file systems if it leads to none of the files. -/
theorem FilesDiffer.held (h : FilesDiffer ls fs fs')
    (hp : ∀ l e, fs.find p = .ok (l, e) → l ∉ ls)
    (hp' : ∀ l e, fs'.find p = .ok (l, e) → l ∉ ls) : fs'.held? p = fs.held? p := by
  cases hf : fs.find p with
  | ok x => rw [held_of_find hf, held_of_find (h.find (hp _ _ hf) hf)]
  | error e =>
    cases hf' : fs'.find p with
    | ok x =>
      rw [h.symm.find (hp' _ _ hf') hf'] at hf
      cases hf
    | error e' => rw [held?, held?, hf, hf']

theorem findUnfollowed_slot {s : Slot} (hs : fs.slot p = .ok s) (hl : s.location? = some l)
    (hslash : s.slashed = false) : fs.findUnfollowed p =
      match fs.entry? l with
      | some e => .ok (l, e)
      | none => .error .noEntry := by
  cases he : fs.entry? l with
  | none => simp only [findUnfollowed, hs, hl, hslash, he]
  | some e => simp only [findUnfollowed, hs, hl, hslash, he]

theorem cutLast_concat (front : List String) {n : String} (hn : n ≠ "") (hdot : n ≠ ".")
    (hup : n ≠ "..") : cutLast (front ++ [n]) = (front, .name n, false) := by
  have hcore : ((front ++ [n]).reverse.dropWhile (· = "")).reverse = front ++ [n] := by
    simp [hn]
  simp only [cutLast, hcore, List.getLast?_concat, List.dropLast_concat, Nat.lt_irrefl,
    decide_false]

theorem getLast_filter {α : Type} {keep : α → Bool} {front back : List α} {x : α}
    (hx : keep x = true) (hback : ∀ b ∈ back, keep b = false) :
    ((front ++ x :: back).filter keep).getLast? = some x := by
  have hnil : back.filter keep = [] := by
    rw [List.filter_eq_nil_iff]
    intro b hb
    rw [hback b hb]
    decide
  rw [List.filter_append, List.filter_cons_of_pos hx, hnil, List.getLast?_concat]

/-- The entry that stands for a path's last name has the file name of the path. -/
theorem slot_named {s : Slot} {name : List Char} {front back : List (List Char)}
    (named : p.Named name front back) (hs : fs.slot p = .ok s) (hl : s.location? = some l) :
    l.getLast? = some (String.ofList name) := by
  obtain ⟨n, hname, rfl⟩ := Slot.location_eq hl
  obtain ⟨_, _, hcut, _⟩ := slot_eq_ok.mp hs
  obtain ⟨slashes, hslashes, _, hn, hdot, _, hsteps⟩ := cutLast_named (hname ▸ hcut)
  have hpieces : stepsOf p.text =
      front.map String.ofList ++ String.ofList name :: back.map String.ofList := by
    have hs : Path.segments p.text.toList = front ++ name :: back := named.pieces
    rw [stepsOf, hs, List.map_append, List.map_cons]
  -- both are the last step that is not blank
  let keep (step : String) : Bool := !Path.isBlank step.toList
  have hown : ((stepsOf p.text).filter keep).getLast? = some n := by
    rw [hsteps]
    refine getLast_filter ?_ fun b hb => ?_
    · have hhere : n.toList ≠ ['.'] := fun h => hdot (String.toList_inj.mp h)
      simp [keep, Path.isBlank, hn, hhere]
    · rw [hslashes b hb]
      rfl
  have hfile : ((stepsOf p.text).filter keep).getLast? = some (String.ofList name) := by
    rw [hpieces]
    refine getLast_filter ?_ fun b hb => ?_
    · simp [keep, named.not_blank]
    · obtain ⟨piece, hpiece, rfl⟩ := List.mem_map.mp hb
      simp [keep, named.back_blank piece hpiece]
  rw [hown] at hfile
  rw [List.getLast?_concat, hfile]

/-- A path that is no link leads to a directory, or to the entry that its last name stands for. -/
theorem leads_to_own {e : Entry} (root : fs.Grounded (fs.startOf p.text)) (hp : ¬ fs.LinkAt p)
    (hf : fs.find p = .ok (l, e)) :
    e = .directory ∨ ∃ s, fs.slot p = .ok s ∧ s.location? = some l := by
  have hentry := (find_eq_ok.mp hf).2
  have directory (hg : fs.Grounded l) : e = .directory := by
    rw [hg.entry] at hentry
    exact (Option.some.inj hentry).symm
  obtain ⟨s, hs, ⟨_, hg⟩ | ⟨m, hm, hne, hslash⟩⟩ := slot_of_find root hf
  · exact .inl (directory hg)
  · cases h : s.slashed with
    | true => exact .inl (directory (hslash h))
    | false =>
      obtain ⟨e', he⟩ := Option.ne_none_iff_exists'.mp hne
      have hlink : ∀ t, e' ≠ .link t := by
        rintro t rfl
        refine hp ⟨m, t, ?_⟩
        rw [findUnfollowed_slot hs hm h, he]
      obtain ⟨n, hname, rfl⟩ := Slot.location_eq hm
      obtain ⟨_, front, hcut, hfront, _⟩ := slot_eq_ok.mp hs
      obtain ⟨d, hd, _, hown⟩ := find_named (hname ▸ hcut) hf
      rw [hfront] at hd
      cases hd
      rw [hown e' he hlink]
      exact .inr ⟨s, hs, hm⟩

theorem find_of_slot {s : Slot} {content : ByteArray} {executable : Bool} (hs : fs.slot p = .ok s)
    (hl : s.location? = some l) (hslash : s.slashed = false)
    (he : fs.entry? l = some (.file content executable)) :
    fs.find p = .ok (l, .file content executable) := by
  obtain ⟨n, hname, rfl⟩ := Slot.location_eq hl
  obtain ⟨hr, front, hcut, hfront, hdir, hlen⟩ := slot_eq_ok.mp hs
  obtain ⟨back, _, hback, hn, hdot, hup, hsteps⟩ := cutLast_named (hname ▸ hcut)
  rw [hback.mp hslash] at hsteps
  have hstep : fs.walk false s.directory [n] = .found (.present (s.directory ++ [n])) := by
    simp [walk, hn, hdot, hup, he, Nat.not_lt.mpr (hlen n hname)]
  obtain ⟨links, hthrough⟩ := follow_through [n] hfront hdir
  rw [← hsteps, follow_found links hstep] at hthrough
  exact find_eq_ok.mpr ⟨lookup_present.mpr ⟨hr, hthrough⟩, he⟩

/-- A place for a file is found where any path would be, if at all. -/
theorem walk_creating {here : Location} {steps : List String} :
    (∀ q, fs.walk true here steps = .found q → fs.walk false here steps = .found q) ∧
    (∀ d t rest, fs.walk true here steps = .atLink d t rest →
      fs.walk false here steps = .atLink d t rest) := by
  induction steps generalizing here with
  | nil => exact ⟨fun _ hw => hw, fun _ _ _ hw => hw⟩
  | cons n steps ih =>
    simp only [walk, Bool.false_and, Bool.false_eq_true, if_false]
    split
    · exact ih
    · split
      · exact ih
      · split
        · exact ⟨fun _ hw => by simp at hw, fun _ _ _ hw => by simp at hw⟩
        · split
          · exact ⟨fun _ hw => hw, fun _ _ _ hw => hw⟩
          · cases fs.entry? (here ++ [n]) with
            | none => exact ⟨fun _ hw => hw, fun _ _ _ hw => hw⟩
            | some e =>
              cases e with
              | directory => exact ih
              | file content executable => exact ⟨fun _ hw => hw, fun _ _ _ hw => hw⟩
              | link target => exact ⟨fun _ hw => hw, fun _ _ _ hw => hw⟩

theorem follow_creating {links : Nat} {here : Location} {steps : List String} {q : Place}
    (hf : fs.follow true links here steps = .ok q) :
    fs.follow false links here steps = .ok q := by
  induction links using Nat.strongRecOn generalizing here steps with
  | ind links ih =>
    rcases follow_cases hf with hw | ⟨links', d, t, rest, rfl, hw, hf⟩
    · exact follow_found links (walk_creating.1 q hw)
    · rw [follow, walk_creating.2 d t rest hw]
      exact ih links' (Nat.lt_succ_self links') hf

def contentAt (fs : FileSystem) (l : Location) : ByteArray :=
  match fs.entry? l with
  | some (.file content _) => content
  | _ => .empty

theorem follow_length {links : Nat} {d : Location} {n : String} {q : Place} (hn : n ≠ "")
    (hdot : n ≠ ".") (hup : n ≠ "..") (hf : fs.follow false links d [n] = .ok q) :
    n.utf8ByteSize ≤ nameLimit := by
  refine Nat.le_of_not_lt fun hlen => ?_
  simp [follow, walk, hn, hdot, hup, hlen] at hf

/-- A name that is no link leads to a vacant place, or to what has it. -/
theorem follow_last {links : Nat} {d : Location} {n : String} {q : Place} (hn : n ≠ "")
    (hdot : n ≠ ".") (hup : n ≠ "..") (hlink : ∀ t, fs.entry? (d ++ [n]) ≠ some (.link t))
    (hf : fs.follow false links d [n] = .ok q) :
    q = if fs.entry? (d ++ [n]) = none then .vacant d n else .present (d ++ [n]) := by
  have hlen := Nat.not_lt.mpr (follow_length hn hdot hup hf)
  cases he : fs.entry? (d ++ [n]) with
  | none => simpa [follow, walk, hn, hdot, hup, hlen, he, eq_comm] using hf
  | some e =>
    cases e with
    | directory => simpa [follow, walk, hn, hdot, hup, hlen, he, eq_comm] using hf
    | file content executable => simpa [follow, walk, hn, hdot, hup, hlen, he, eq_comm] using hf
    | link target => exact absurd he (hlink target)

/-- A place for a file that a path ends with the name of stands in the path's slot; it is vacant or
has an entry, unless the path is a link. -/
theorem slot_of_lookup {front : List String} {n : String} {q : Place}
    (root : fs.Grounded (fs.startOf p.text)) (hp : ¬ fs.LinkAt p)
    (hcut : cutLast (stepsOf p.text) = (front, .name n, false))
    (h : fs.lookup p true = .ok q) :
    ∃ d, fs.slot p = .ok ⟨d, .name n, false⟩ ∧
      q = if fs.entry? (d ++ [n]) = none then .vacant d n else .present (d ++ [n]) := by
  unfold lookup at h
  cases hr : refused? p.text with
  | some e =>
    rw [hr] at h
    cases h
  | none =>
    simp only [hr] at h
    obtain ⟨back, _, hback, hn, hdot, hup, hsteps⟩ := cutLast_named hcut
    rw [hback.mp rfl] at hsteps
    have hfollow := follow_creating h
    rw [hsteps] at hfollow
    obtain ⟨d, links, hfront, hg, hend⟩ := follow_append hn hfollow
    have hslot : fs.slot p = .ok ⟨d, .name n, false⟩ := by
      refine slot_eq_ok.mpr ⟨hr, front, hcut, hfront, (hg root).entry, ?_⟩
      rintro _ ⟨⟩
      exact follow_length hn hdot hup hend
    refine ⟨d, hslot, follow_last hn hdot hup (fun t ht => hp ⟨d ++ [n], t, ?_⟩) hend⟩
    rw [findUnfollowed_slot hslot rfl rfl, ht]

/-- Changing a file by a path that ends with a name, and is no link, changes the one file that the
name stands for, or makes it. -/
theorem modify_eq_ok {content : ByteArray → ByteArray} {front : List String} {n : String}
    (root : fs.Grounded (fs.startOf p.text)) (hp : ¬ fs.LinkAt p)
    (hcut : cutLast (stepsOf p.text) = (front, .name n, false))
    (h : fs.modify p content = .ok fs') :
    ∃ d executable, fs.slot p = .ok ⟨d, .name n, false⟩ ∧ fs.Plain (d ++ [n]) ∧
      fs' = fs.put (d ++ [n]) (.file (content (fs.contentAt (d ++ [n]))) executable) := by
  unfold modify at h
  cases hlookup : fs.lookup p true with
  | error e =>
    rw [hlookup] at h
    cases h
  | ok q =>
    obtain ⟨d, hslot, rfl⟩ := slot_of_lookup root hp hcut hlookup
    rw [hlookup] at h
    refine ⟨d, ?_⟩
    cases he : fs.entry? (d ++ [n]) with
    | none =>
      rw [he] at h
      cases h
      refine ⟨false, hslot, plain_of_none he, ?_⟩
      rw [contentAt, he]
    | some e =>
      simp only [he, reduceCtorEq, if_false] at h
      split at h
      · rename_i old executable hfile
        cases h
        cases hfile
        refine ⟨executable, hslot, plain_of_file he, ?_⟩
        rw [contentAt, he]
      · cases h

/-- Moving a file takes it out of the slot it was in and puts it into the other. -/
theorem rename_eq_ok {q : Path} (h : fs.rename p q = .ok fs') :
    ∃ s t l l' e, fs.slot p = .ok s ∧ fs.slot q = .ok t ∧ s.location? = some l ∧
      t.location? = some l' ∧ t.slashed = false ∧ fs.entry? l = some e ∧ e ≠ .directory ∧
      fs.entry? l' ≠ some .directory ∧
      fs' = if l = l' then fs else (fs.erase l).put l' e := by
  unfold rename at h
  split at h
  · cases h
  · cases h
  · rename_i s t hs ht
    split at h
    · rename_i l l' hl hl'
      split at h
      · cases h
      · rename_i e he
        split at h
        · cases h
        · rename_i hslash
          simp only [Bool.or_eq_true, not_or, Bool.not_eq_true] at hslash
          split at h
          · cases h
          · rename_i hdir
            simp only [Bool.or_eq_true, decide_eq_true_eq, not_or] at hdir
            refine ⟨s, t, l, l', e, hs, ht, hl, hl', hslash.2, he, hdir.1, hdir.2, ?_⟩
            split at h <;> cases h
            · rename_i heq
              rw [if_pos heq]
            · rename_i hne
              rw [if_neg hne]
    · cases h

instance (fs : FileSystem) (p : Path) : Decidable (fs.LinkAt p) :=
  decidable_of_iff
    ((match fs.findUnfollowed p with | .ok (_, .link _) => true | _ => false) = true) <| by
    unfold LinkAt
    constructor
    · intro h
      split at h
      · rename_i l target hf
        exact ⟨l, target, hf⟩
      · cases h
    · rintro ⟨l, target, hf⟩
      rw [hf]

/-- A directory stays when a file is removed, unless a link was removed that a path to the directory
may lead through. -/
theorem hasDirectory_dropFile {z : Path} (hp : fs.hasDirectory p = true) (hz : ¬ fs.LinkAt z) :
    (fs.dropFile z).hasDirectory p = true := by
  unfold dropFile
  split
  · rename_i fs' hremoved
    obtain ⟨s, l, e, hs, hl, he, hdir, hslash, rfl⟩ := removeFile_eq_ok.mp hremoved
    have hplain : fs.Plain l := by
      cases e with
      | directory => exact absurd rfl hdir
      | file content executable => exact plain_of_file he
      | link target =>
        refine absurd ⟨l, target, ?_⟩ hz
        rw [findUnfollowed_slot hs hl hslash, he]
    have differ : FilesDiffer [l] fs (fs.erase l) :=
      (FilesDiffer.refl (by simpa using hplain)).erase List.mem_cons_self (Slot.location_ne hl)
    obtain ⟨m, hm⟩ := hasDirectory_iff.mp hp
    refine hasDirectory_iff.mpr ⟨m, differ.find (fun hmem => ?_) hm⟩
    exact not_plain_of_directory (find_eq_ok.mp hm).2 (List.mem_singleton.mp hmem ▸ hplain)
  · exact hp

theorem has_of_hasDirectory (h : fs.hasDirectory p = true) : fs.has p = true := by
  obtain ⟨l, hl⟩ := hasDirectory_iff.mp h
  exact has_iff.mpr ⟨l, _, hl⟩

end FileSystem
end Provision
