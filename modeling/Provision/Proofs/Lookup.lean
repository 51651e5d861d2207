import Provision.FileSystem.Operations
import Provision.Proofs.Segments

namespace Provision
namespace FileSystem

/-- Whatever one file system holds stands at the same place in the other. -/
structure Within (fs fs' : FileSystem) : Prop where
  cwd : fs.cwd = fs'.cwd
  entry : ∀ {l : Location} {e : Entry}, fs.entry? l = some e → fs'.entry? l = some e

@[refl] theorem Within.refl (fs : FileSystem) : fs.Within fs := ⟨rfl, id⟩

theorem Within.trans {a b c : FileSystem} (h : a.Within b) (h' : b.Within c) : a.Within c :=
  ⟨h.cwd.trans h'.cwd, fun he => h'.entry (h.entry he)⟩

/-- A walk that ends at an entry or at a link met that entry or link in the larger file system as
well; only a walk that fails, or ends at a vacant place, may go on there. -/
theorem Within.walk {fs fs' : FileSystem} (h : fs.Within fs') (creating : Bool)
    (here : Location) (steps : List String) :
    (∀ l, fs.walk creating here steps = .found (.present l) →
      fs'.walk creating here steps = .found (.present l)) ∧
    (∀ d t rest, fs.walk creating here steps = .atLink d t rest →
      fs'.walk creating here steps = .atLink d t rest) := by
  induction steps generalizing here with
  | nil => exact ⟨fun l hw => hw, fun d t rest hw => by simp [FileSystem.walk] at hw⟩
  | cons n steps ih =>
    simp only [FileSystem.walk]
    split
    · exact ih here
    · split
      · exact ih here.dropLast
      · split
        · exact ⟨fun _ hw => by simp at hw, fun _ _ _ hw => by simp at hw⟩
        · split
          · exact ⟨fun _ hw => by simp at hw, fun _ _ _ hw => by simp at hw⟩
          · cases he : fs.entry? (here ++ [n]) with
            | none =>
              -- the smaller file system has nothing here, so its walk ends at no entry
              constructor <;> intros <;> (rename_i hw; dsimp only at hw; split at hw) <;> simp at hw
            | some e =>
              simp only [h.entry he]
              cases e with
              | directory => exact ih (here ++ [n])
              | file content executable => exact ⟨fun _ hw => hw, fun _ _ _ hw => hw⟩
              | link target => exact ⟨fun _ hw => hw, fun _ _ _ hw => hw⟩

theorem follow_found {fs : FileSystem} {creating : Bool} {here : Location} {steps : List String}
    {p : Place} (links : Nat) (hw : fs.walk creating here steps = .found p) :
    fs.follow creating links here steps = .ok p := by
  rw [follow, hw]

/-- A path that leads somewhere gets there in one walk, or spends a link on the way. -/
theorem follow_cases {fs : FileSystem} {creating : Bool} {links : Nat} {here : Location}
    {steps : List String} {p : Place} (hf : fs.follow creating links here steps = .ok p) :
    fs.walk creating here steps = .found p ∨
      ∃ links' d t rest, links = links' + 1 ∧ fs.walk creating here steps = .atLink d t rest ∧
        fs.follow creating links' (if isRooted t then [] else d) (stepsOf t ++ rest) = .ok p := by
  rw [follow] at hf
  cases hw : fs.walk creating here steps with
  | failed e => simp [hw] at hf
  | found q =>
    simp only [hw, Except.ok.injEq] at hf
    exact .inl (hf ▸ rfl)
  | atLink d t rest =>
    cases links with
    | zero => simp [hw] at hf
    | succ links =>
      simp only [hw] at hf
      exact .inr ⟨links, d, t, rest, rfl, rfl, hf⟩

theorem Within.follow {fs fs' : FileSystem} (h : fs.Within fs') {creating : Bool} {links : Nat}
    {here l : Location} {steps : List String}
    (hf : fs.follow creating links here steps = .ok (.present l)) :
    fs'.follow creating links here steps = .ok (.present l) := by
  induction links using Nat.strongRecOn generalizing here steps with
  | ind links ih =>
    rcases follow_cases hf with hw | ⟨links', d, t, rest, rfl, hw, hf⟩
    · exact follow_found links ((h.walk creating here steps).1 l hw)
    · rw [FileSystem.follow, (h.walk creating here steps).2 d t rest hw]
      exact ih links' (Nat.lt_succ_self links') hf

theorem find_eq_ok {fs : FileSystem} {p : Path} {l : Location} {e : Entry} :
    fs.find p = .ok (l, e) ↔ fs.lookup p = .ok (.present l) ∧ fs.entry? l = some e := by
  unfold find
  constructor
  · intro h
    split at h
    · cases h
    · cases h
    · split at h
      · cases h
        exact ⟨by assumption, by assumption⟩
      · cases h
  · rintro ⟨hl, he⟩
    simp [hl, he]

theorem has_iff {fs : FileSystem} {p : Path} :
    fs.has p = true ↔ ∃ l e, fs.find p = .ok (l, e) := by
  unfold has
  cases hf : fs.find p with
  | error e => simp
  | ok x => exact ⟨fun _ => ⟨x.1, x.2, rfl⟩, fun _ => rfl⟩

/-- A path leads to an entry by following its steps from where it starts. -/
theorem lookup_present {fs : FileSystem} {p : Path} {l : Location} :
    fs.lookup p = .ok (.present l) ↔
      refused? p.text = none ∧
        fs.follow false linkLimit (fs.startOf p.text) (stepsOf p.text) = .ok (.present l) := by
  unfold lookup
  cases refused? p.text <;> simp

theorem Within.start {fs fs' : FileSystem} (h : fs.Within fs') (text : String) :
    fs.startOf text = fs'.startOf text := by
  simp [startOf, h.cwd]

theorem Within.find {fs fs' : FileSystem} (h : fs.Within fs') {p : Path} {l : Location} {e : Entry}
    (hf : fs.find p = .ok (l, e)) : fs'.find p = .ok (l, e) := by
  obtain ⟨hl, he⟩ := find_eq_ok.mp hf
  obtain ⟨hr, hl⟩ := lookup_present.mp hl
  refine find_eq_ok.mpr ⟨lookup_present.mpr ⟨hr, ?_⟩, h.entry he⟩
  rw [← h.start]
  exact h.follow hl

theorem Within.has {fs fs' : FileSystem} (h : fs.Within fs') {p : Path} (hp : fs.has p = true) :
    fs'.has p = true := by
  obtain ⟨l, e, hf⟩ := has_iff.mp hp
  exact has_iff.mpr ⟨l, e, h.find hf⟩

theorem Within.not_has {fs fs' : FileSystem} (h : fs.Within fs') {p : Path}
    (hp : fs'.has p = false) : fs.has p = false := by
  cases hb : fs.has p with
  | false => rfl
  | true => rw [h.has hb] at hp; cases hp

def Grounded (fs : FileSystem) (l : Location) : Prop :=
  ∀ m, m <+: l → fs.entry? m = some .directory

theorem grounded_root (fs : FileSystem) : fs.Grounded [] := by
  intro m hm
  rw [List.prefix_nil.mp hm]
  rfl

theorem Grounded.entry {fs : FileSystem} {l : Location} (h : fs.Grounded l) :
    fs.entry? l = some .directory :=
  h l (List.prefix_refl l)

theorem Grounded.up {fs : FileSystem} {l : Location} (h : fs.Grounded l) :
    fs.Grounded l.dropLast :=
  fun m hm => h m (hm.trans (List.dropLast_prefix l))

theorem Grounded.down {fs : FileSystem} {l : Location} {n : String} (h : fs.Grounded l)
    (he : fs.entry? (l ++ [n]) = some .directory) : fs.Grounded (l ++ [n]) := by
  intro m hm
  rcases List.prefix_concat_iff.mp hm with rfl | hm
  · exact he
  · exact h m hm

/-- The directory in which a walk meets a link is grounded if the walk started at such a one. -/
theorem Grounded.atLink {fs : FileSystem} {creating : Bool} {here d : Location} {t : String}
    {steps rest : List String} (h : fs.Grounded here)
    (hw : fs.walk creating here steps = .atLink d t rest) : fs.Grounded d := by
  induction steps generalizing here with
  | nil => simp [walk] at hw
  | cons n steps ih =>
    simp only [walk] at hw
    split at hw
    · exact ih h hw
    · split at hw
      · exact ih h.up hw
      · split at hw
        · cases hw
        · split at hw
          · cases hw
          · split at hw
            · split at hw <;> cases hw
            · cases hw
              exact h
            · rename_i he
              exact ih (h.down he) hw
            · split at hw <;> cases hw

/-- A walk over `front` and a step behind it goes through the directory at the end of `front`, or
meets a link on the way. -/
theorem walk_append {fs : FileSystem} {here : Location} {front : List String} {n : String}
    {back : List String} (hn : n ≠ "") :
    (∀ p, fs.walk false here (front ++ n :: back) = .found p → ∃ d,
      fs.walk false here front = .found (.present d) ∧ (fs.Grounded here → fs.Grounded d) ∧
        fs.walk false d (n :: back) = .found p) ∧
    (∀ d t rest, fs.walk false here (front ++ n :: back) = .atLink d t rest →
      (∃ r, fs.walk false here front = .atLink d t r ∧ rest = r ++ n :: back) ∨
      ∃ m, fs.walk false here front = .found (.present m) ∧ (fs.Grounded here → fs.Grounded m) ∧
        fs.walk false m (n :: back) = .atLink d t rest) := by
  -- on the steps in front: both walks take the same ones, until a link ends both
  induction front generalizing here with
  | nil => exact ⟨fun p hw => ⟨here, rfl, id, hw⟩, fun d t rest hw => .inr ⟨here, rfl, id, hw⟩⟩
  | cons m front ih =>
    have named : (front ++ n :: back).all (· = "") = false := by simp [hn]
    have more : (front ++ n :: back).isEmpty = false := by cases front <;> rfl
    simp only [List.cons_append, walk, Bool.false_and, Bool.false_eq_true, if_false]
    split
    · exact ih
    · split
      · refine ⟨fun p hw => ?_, fun d t rest hw => ?_⟩
        · obtain ⟨d, hd, hg, hp⟩ := (@ih here.dropLast).1 p hw
          exact ⟨d, hd, fun h => hg h.up, hp⟩
        · rcases (@ih here.dropLast).2 d t rest hw with h | ⟨m, hm, hg, hp⟩
          · exact .inl h
          · exact .inr ⟨m, hm, fun h => hg h.up, hp⟩
      · split
        · exact ⟨fun _ hw => by simp at hw, fun _ _ _ hw => by simp at hw⟩
        · cases he : fs.entry? (here ++ [m]) with
          | none => simp [named]
          | some e =>
            cases e with
            | directory =>
              refine ⟨fun p hw => ?_, fun d t rest hw => ?_⟩
              · obtain ⟨d, hd, hg, hp⟩ := (@ih (here ++ [m])).1 p hw
                exact ⟨d, hd, fun h => hg (h.down he), hp⟩
              · rcases (@ih (here ++ [m])).2 d t rest hw with h | ⟨m', hm, hg, hp⟩
                · exact .inl h
                · exact .inr ⟨m', hm, fun h => hg (h.down he), hp⟩
            | file content executable => simp [more]
            | link target =>
              refine ⟨fun _ hw => by simp at hw, fun d t rest hw => .inl ?_⟩
              simp only [Walk.atLink.injEq] at hw
              obtain ⟨rfl, rfl, rfl⟩ := hw
              exact ⟨front, rfl, rfl⟩

/-- A path's last step is looked for in the directory that the steps before it lead to. -/
theorem follow_append {fs : FileSystem} {links : Nat} {here : Location} {p : Place}
    {front : List String} {n : String} {back : List String} (hn : n ≠ "")
    (hf : fs.follow false links here (front ++ n :: back) = .ok p) :
    ∃ d links', fs.follow false links here front = .ok (.present d) ∧
      (fs.Grounded here → fs.Grounded d) ∧ fs.follow false links' d (n :: back) = .ok p := by
  induction links using Nat.strongRecOn generalizing here front with
  | ind links ih =>
    rcases follow_cases hf with hw | ⟨links', d, t, rest, rfl, hw, hf⟩
    · obtain ⟨d, hfront, hg, hback⟩ := (walk_append hn).1 _ hw
      exact ⟨d, 0, follow_found links hfront, hg, follow_found 0 hback⟩
    · rcases (walk_append hn).2 d t rest hw with ⟨r, hfront, rfl⟩ | ⟨m, hfront, hg, hback⟩
      · rw [← List.append_assoc] at hf
        obtain ⟨d', k, hd, hg, hl⟩ := ih links' (Nat.lt_succ_self links') hf
        refine ⟨d', k, by rw [follow, hfront]; exact hd, fun h => hg ?_, hl⟩
        split
        · exact grounded_root fs
        · exact h.atLink hw
      · exact ⟨m, links' + 1, follow_found _ hfront, hg, by rw [follow, hback]; exact hf⟩

theorem Slot.location_eq {s : Slot} {l : Location} (h : s.location? = some l) :
    ∃ n, s.last = .name n ∧ l = s.directory ++ [n] := by
  unfold Slot.location? at h
  split at h
  · rename_i n hn
    exact ⟨n, hn, (Option.some.inj h).symm⟩
  · cases h

theorem Slot.location_ne {s : Slot} {l : Location} (h : s.location? = some l) : l ≠ [] := by
  obtain ⟨n, _, rfl⟩ := Slot.location_eq h
  simp

/-- The steps of a path are those before the last, the last, and slashes behind it. -/
theorem cutLast_eq {steps front : List String} {last : Last} {slashed : Bool}
    (h : cutLast steps = (front, last, slashed)) :
    ∃ back, (∀ b ∈ back, b = "") ∧ (slashed = false ↔ back = []) ∧
      ((last = .root ∧ front = [] ∧ steps = back) ∨ (last = .dot ∧ steps = front ++ "." :: back) ∨
        (last = .dotDot ∧ steps = front ++ ".." :: back) ∨
        ∃ n, last = .name n ∧ n ≠ "" ∧ n ≠ "." ∧ n ≠ ".." ∧ steps = front ++ n :: back) := by
  obtain ⟨core, back, hcore, hsteps, hback, hlast⟩ := Path.cut_blanks (· = "") steps
  simp only [decide_eq_true_eq, decide_eq_false_iff_not] at hback hlast
  have hslash : core.length < steps.length ↔ back ≠ [] := by
    rw [hsteps, List.length_append]
    cases back <;> simp
  have cut (front : List String) (n : String) (hn : core = front ++ [n]) :
      steps = front ++ n :: back := by
    rw [hsteps, hn, List.append_assoc, List.singleton_append]
  simp only [cutLast, hcore] at h
  refine ⟨back, hback, ?_⟩
  split at h
  all_goals
    rename_i hs
    simp only [Prod.mk.injEq] at h
    obtain ⟨rfl, rfl, rfl⟩ := h
    refine ⟨by simp only [decide_eq_false_iff_not, hslash, ne_eq, Classical.not_not], ?_⟩
  · rw [List.getLast?_eq_none_iff] at hs
    exact .inl ⟨rfl, rfl, by rw [hsteps, hs, List.nil_append]⟩
  all_goals
    obtain ⟨front, hfront⟩ := List.getLast?_eq_some_iff.mp hs
    rw [hfront, List.dropLast_concat]
  · exact .inr (.inl ⟨rfl, cut front "." hfront⟩)
  · exact .inr (.inr (.inl ⟨rfl, cut front ".." hfront⟩))
  · rename_i n hdot hup
    exact .inr (.inr (.inr ⟨n, rfl, hlast n hs, hdot, hup, cut front n hfront⟩))

/-- A last step that is a name is one of the steps, and only slashes come behind it. -/
theorem cutLast_named {steps front : List String} {n : String} {slashed : Bool}
    (h : cutLast steps = (front, .name n, slashed)) :
    ∃ back, (∀ b ∈ back, b = "") ∧ (slashed = false ↔ back = []) ∧
      n ≠ "" ∧ n ≠ "." ∧ n ≠ ".." ∧ steps = front ++ n :: back := by
  obtain ⟨back, hback, hslash, hlast⟩ := cutLast_eq h
  refine ⟨back, hback, hslash, ?_⟩
  simpa using hlast

/-- A path is cut before its last step when the steps before it lead to a directory. -/
theorem slot_eq_ok {fs : FileSystem} {p : Path} {s : Slot} :
    fs.slot p = .ok s ↔ refused? p.text = none ∧ ∃ front,
      cutLast (stepsOf p.text) = (front, s.last, s.slashed) ∧
      fs.follow false linkLimit (fs.startOf p.text) front = .ok (.present s.directory) ∧
      fs.entry? s.directory = some .directory ∧
      ∀ n, s.last = .name n → n.utf8ByteSize ≤ nameLimit := by
  unfold slot
  cases hr : refused? p.text with
  | some e => simp
  | none =>
    cases hcut : cutLast (stepsOf p.text) with
    | mk front x =>
      obtain ⟨last, slashed⟩ := x
      obtain ⟨d, last', slashed'⟩ := s
      simp only [true_and, Prod.mk.injEq]
      cases hf : fs.follow false linkLimit (fs.startOf p.text) front with
      | error e =>
        refine ⟨fun h => by simp at h, ?_⟩
        rintro ⟨_, ⟨rfl, rfl, rfl⟩, h, _⟩
        rw [hf] at h
        cases h
      | ok q =>
        cases q with
        | vacant d' m =>
          refine ⟨fun h => by simp at h, ?_⟩
          rintro ⟨_, ⟨rfl, rfl, rfl⟩, h, _⟩
          rw [hf] at h
          cases h
        | present d' =>
          by_cases hd : fs.entry? d' = some .directory
          · cases last with
            | name n => grind
            | dot => grind
            | dotDot => grind
            | root => grind
          · grind

theorem walk_idle {fs : FileSystem} {here : Location} {back : List String}
    (h : ∀ b ∈ back, b = "" ∨ b = ".") : fs.walk false here back = .found (.present here) := by
  induction back with
  | nil => rfl
  | cons b back ih =>
    rw [walk, if_pos (h b List.mem_cons_self)]
    exact ih (fun c hc => h c (List.mem_cons_of_mem _ hc))

theorem walk_blanks {fs : FileSystem} {here : Location} {back : List String}
    (h : ∀ b ∈ back, b = "") : fs.walk false here back = .found (.present here) :=
  walk_idle fun b hb => .inl (h b hb)

/-- A name that nothing has leads nowhere. -/
theorem follow_vacant {fs : FileSystem} {links : Nat} {d l : Location} {n : String}
    {back : List String} (hn : n ≠ "") (hdot : n ≠ ".") (hup : n ≠ "..")
    (hback : ∀ b ∈ back, b = "") (hnone : fs.entry? (d ++ [n]) = none) :
    fs.follow false links d (n :: back) ≠ .ok (.present l) := by
  intro hf
  have hblank : back.all (· = "") = true := by simpa using hback
  have hw : fs.walk false d (n :: back) =
      if nameLimit < n.utf8ByteSize then .failed .nameTooLong else .found (.vacant d n) := by
    simp [walk, hn, hdot, hup, hnone, hblank]
  rcases follow_cases hf with h | ⟨_, _, _, _, _, h, _⟩ <;>
    (rw [hw] at h; split at h <;> cases h)

/-- A name leads to what has it, unless that is a link; slashes behind the name do not matter. -/
theorem follow_entry {fs : FileSystem} {links : Nat} {d l : Location} {n : String}
    {back : List String} {e : Entry} (hn : n ≠ "") (hdot : n ≠ ".") (hup : n ≠ "..")
    (hback : ∀ b ∈ back, b = "") (he : fs.entry? (d ++ [n]) = some e) (hlink : ∀ t, e ≠ .link t)
    (hf : fs.follow false links d (n :: back) = .ok (.present l)) : l = d ++ [n] := by
  have hw : fs.walk false d (n :: back) = .found (.present (d ++ [n])) ∨
      ∃ e, fs.walk false d (n :: back) = .failed e := by
    by_cases hlen : nameLimit < n.utf8ByteSize
    · exact .inr ⟨.nameTooLong, by simp [walk, hn, hdot, hup, hlen]⟩
    · cases e with
      | directory => exact .inl (by simp [walk, hn, hdot, hup, hlen, he, walk_blanks hback])
      | file content executable => cases back <;> simp [walk, hn, hdot, hup, hlen, he]
      | link target => exact absurd rfl (hlink target)
  rcases follow_cases hf with h | ⟨_, _, _, _, _, h, _⟩ <;> rcases hw with hw | ⟨_, hw⟩ <;>
    (rw [hw] at h; cases h)
  rfl

/-- A path whose last step is a name leads somewhere only by way of the entry of that name, and to
that entry unless it is a link. -/
theorem find_named {fs : FileSystem} {p : Path} {l : Location} {e : Entry} {front : List String}
    {n : String} {slashed : Bool} (hcut : cutLast (stepsOf p.text) = (front, .name n, slashed))
    (hf : fs.find p = .ok (l, e)) :
    ∃ d, fs.follow false linkLimit (fs.startOf p.text) front = .ok (.present d) ∧
      fs.entry? (d ++ [n]) ≠ none ∧
      ∀ e', fs.entry? (d ++ [n]) = some e' → (∀ t, e' ≠ .link t) → l = d ++ [n] := by
  obtain ⟨_, hl⟩ := lookup_present.mp (find_eq_ok.mp hf).1
  obtain ⟨back, hback, _, hn, hdot, hup, hsteps⟩ := cutLast_named hcut
  rw [hsteps] at hl
  obtain ⟨d, links, hd, _, hlast⟩ := follow_append hn hl
  refine ⟨d, hd, fun hnone => follow_vacant hn hdot hup hback hnone hlast, fun e' he hlink => ?_⟩
  exact follow_entry hn hdot hup hback he hlink hlast

theorem Within.slot {fs fs' : FileSystem} (h : fs.Within fs') {p : Path} {s : Slot}
    (hs : fs.slot p = .ok s) : fs'.slot p = .ok s := by
  obtain ⟨hr, front, hcut, hfront, hd, hlen⟩ := slot_eq_ok.mp hs
  exact slot_eq_ok.mpr ⟨hr, front, hcut, h.start p.text ▸ h.follow hfront, h.entry hd, hlen⟩

/-- Where the entry that a path's last name stands for is gone, the path leads nowhere, whichever
way it went to that entry's directory. -/
theorem not_has_of_gone {fs fs' : FileSystem} {p : Path} {s : Slot} {l : Location}
    (h : fs'.Within fs) (hs : fs.slot p = .ok s) (hl : s.location? = some l)
    (hgone : fs'.entry? l = none) : fs'.has p = false := by
  obtain ⟨n, hname, rfl⟩ := Slot.location_eq hl
  obtain ⟨_, front, hcut, hfront, _⟩ := slot_eq_ok.mp hs
  cases hb : fs'.has p with
  | false => rfl
  | true =>
    obtain ⟨m, e, hf⟩ := has_iff.mp hb
    obtain ⟨d, hd, he, _⟩ := find_named (hname ▸ hcut) hf
    -- the smaller file system finds the same directory, so the missing name decides
    have hd := h.follow hd
    rw [h.start, hfront] at hd
    cases hd
    exact absurd hgone he

/-- A path that still leads somewhere in a smaller file system stands in the same slot there, as
long as that slot's directory is one. -/
theorem slot_of_has {fs fs' : FileSystem} {p : Path} {s : Slot} {l : Location} (h : fs'.Within fs)
    (hs : fs.slot p = .ok s) (hl : s.location? = some l)
    (hd : fs'.entry? s.directory = some .directory) (hp : fs'.has p = true) :
    fs'.slot p = .ok s := by
  obtain ⟨n, hname, rfl⟩ := Slot.location_eq hl
  obtain ⟨hr, front, hcut, hfront, _, hlen⟩ := slot_eq_ok.mp hs
  obtain ⟨m, e, hf⟩ := has_iff.mp hp
  obtain ⟨d, hd', _⟩ := find_named (hname ▸ hcut) hf
  have same := h.follow hd'
  rw [h.start, hfront] at same
  cases same
  exact slot_eq_ok.mpr ⟨hr, front, hcut, hd', hd, hlen⟩

/-- A walk with a slash at its end ends at a directory, and a link on the way leaves the slash for
later. -/
theorem walk_slashed {fs : FileSystem} {here : Location} {steps : List String}
    (h : fs.Grounded here) :
    (∀ l, fs.walk false here (steps ++ [""]) = .found (.present l) → fs.Grounded l) ∧
    (∀ d t rest, fs.walk false here (steps ++ [""]) = .atLink d t rest →
      ∃ r, rest = r ++ [""]) := by
  induction steps generalizing here with
  | nil =>
    refine ⟨fun l hw => ?_, fun d t rest hw => by simp [walk] at hw⟩
    simp only [List.nil_append, walk, true_or, if_true, Walk.found.injEq, Place.present.injEq] at hw
    exact hw ▸ h
  | cons n steps ih =>
    simp only [List.cons_append, walk, Bool.false_and, Bool.false_eq_true, if_false]
    split
    · exact ih h
    · split
      · exact ih h.up
      · split
        · exact ⟨fun _ hw => by simp at hw, fun _ _ _ hw => by simp at hw⟩
        · cases he : fs.entry? (here ++ [n]) with
          | none =>
            constructor <;> intros <;> (rename_i hw; dsimp only at hw; split at hw) <;> simp at hw
          | some e =>
            cases e with
            | directory => exact ih (h.down he)
            | file content executable => simp
            | link target =>
              refine ⟨fun _ hw => by simp at hw, fun d t rest hw => ?_⟩
              simp only [Walk.atLink.injEq] at hw
              exact ⟨steps, hw.2.2.symm⟩

theorem follow_slashed {fs : FileSystem} {links : Nat} {here l : Location} {steps : List String}
    (h : fs.Grounded here)
    (hf : fs.follow false links here (steps ++ [""]) = .ok (.present l)) : fs.Grounded l := by
  induction links using Nat.strongRecOn generalizing here steps with
  | ind links ih =>
    rcases follow_cases hf with hw | ⟨links', d, t, rest, rfl, hw, hf⟩
    · exact (walk_slashed h).1 l hw
    · obtain ⟨r, rfl⟩ := (walk_slashed h).2 d t rest hw
      rw [← List.append_assoc] at hf
      refine ih links' (Nat.lt_succ_self links') ?_ hf
      split
      · exact grounded_root fs
      · exact h.atLink hw

/-- A step that is a name leads on from a directory only if something has that name there, and
with slashes behind it only to a directory. -/
theorem follow_name {fs : FileSystem} {links : Nat} {d l : Location} {n : String}
    {back : List String} (hn : n ≠ "") (hdot : n ≠ ".") (hup : n ≠ "..")
    (hback : ∀ b ∈ back, b = "") (hd : fs.Grounded d)
    (hf : fs.follow false links d (n :: back) = .ok (.present l)) :
    n.utf8ByteSize ≤ nameLimit ∧ fs.entry? (d ++ [n]) ≠ none ∧ (back ≠ [] → fs.Grounded l) := by
  refine ⟨Nat.le_of_not_lt fun hlt => ?_, fun hnone => ?_, fun hne => ?_⟩
  · simp [follow, walk, hn, hdot, hup, hlt] at hf
  · exact follow_vacant hn hdot hup hback hnone hf
  · rcases List.eq_nil_or_concat back with h | ⟨front, b, rfl⟩
    · exact absurd h hne
    · obtain rfl := hback b (by simp)
      rw [List.concat_eq_append, ← List.cons_append] at hf
      exact follow_slashed hd hf

theorem grounded_start (fs : FileSystem) {p : Path} (ha : isRooted p.text = true) :
    fs.Grounded (fs.startOf p.text) := by
  rw [startOf, if_pos ha]
  exact grounded_root fs

/-- A path that leads somewhere from a directory stands in a slot. Either its last step is a dot or
a root and it leads to a directory, or something has its last name; slashes behind that lead to a
directory again. -/
theorem slot_of_find {fs : FileSystem} {p : Path} {l : Location} {e : Entry}
    (root : fs.Grounded (fs.startOf p.text)) (hf : fs.find p = .ok (l, e)) :
    ∃ s, fs.slot p = .ok s ∧ ((s.location? = none ∧ fs.Grounded l) ∨
      ∃ m, s.location? = some m ∧ fs.entry? m ≠ none ∧ (s.slashed = true → fs.Grounded l)) := by
  obtain ⟨hr, hl⟩ := lookup_present.mp (find_eq_ok.mp hf).1
  cases hcut : cutLast (stepsOf p.text) with
  | mk front x =>
    obtain ⟨last, slashed⟩ := x
    obtain ⟨back, hback, hslash, hlast⟩ := cutLast_eq hcut
    have slot {d : Location} (hfront : fs.follow false linkLimit (fs.startOf p.text) front = .ok (.present d))
        (hd : fs.Grounded d) (hlen : ∀ n, last = .name n → n.utf8ByteSize ≤ nameLimit) :
        fs.slot p = .ok ⟨d, last, slashed⟩ :=
      slot_eq_ok.mpr ⟨hr, front, hcut, hfront, hd.entry, hlen⟩
    rcases hlast with
      ⟨rfl, rfl, hsteps⟩ | ⟨rfl, hsteps⟩ | ⟨rfl, hsteps⟩ | ⟨n, rfl, hn, hdot, hup, hsteps⟩
    · rw [hsteps, follow_found _ (walk_blanks hback)] at hl
      cases hl
      exact ⟨_, slot (follow_found _ rfl) root (by simp), .inl ⟨rfl, root⟩⟩
    · rw [hsteps] at hl
      obtain ⟨d, k, hfront, hg, hend⟩ := follow_append (by decide) hl
      rw [follow_found k (by rw [walk, if_pos (.inr rfl)]; exact walk_blanks hback)] at hend
      cases hend
      exact ⟨_, slot hfront (hg root) (by simp), .inl ⟨rfl, hg root⟩⟩
    · rw [hsteps] at hl
      obtain ⟨d, k, hfront, hg, hend⟩ := follow_append (by decide) hl
      rw [follow_found k (by
        rw [walk, if_neg (by decide), if_pos rfl]; exact walk_blanks hback)] at hend
      cases hend
      exact ⟨_, slot hfront (hg root) (by simp), .inl ⟨rfl, (hg root).up⟩⟩
    · rw [hsteps] at hl
      obtain ⟨d, k, hfront, hg, hend⟩ := follow_append hn hl
      obtain ⟨hlen, he, hdir⟩ := follow_name hn hdot hup hback (hg root) hend
      refine ⟨_, slot hfront (hg root) ?_, .inr ⟨d ++ [n], rfl, he, fun hs => hdir fun hnil => ?_⟩⟩
      · rintro _ ⟨⟩
        exact hlen
      · rw [hslash.mpr hnil] at hs
        cases hs

/-- A rooted path that leads to a file ends with a name that no slash follows, and what has that
name is no directory. -/
theorem slot_of_file {fs : FileSystem} {p : Path} {l : Location} {content : ByteArray}
    {executable : Bool} (ha : isRooted p.text = true)
    (hf : fs.find p = .ok (l, .file content executable)) :
    ∃ s m e, fs.slot p = .ok s ∧ s.location? = some m ∧ s.slashed = false ∧
      fs.entry? m = some e ∧ e ≠ .directory := by
  have nodir : fs.entry? l ≠ some .directory := by
    rw [(find_eq_ok.mp hf).2]
    simp
  obtain ⟨s, hs, ⟨_, hl⟩ | ⟨m, hm, hne, hslash⟩⟩ :=
    slot_of_find (grounded_start fs ha) hf
  · exact absurd hl.entry nodir
  · obtain ⟨e, he⟩ := Option.ne_none_iff_exists'.mp hne
    refine ⟨s, m, e, hs, hm, ?_, he, ?_⟩
    · cases h : s.slashed with
      | false => rfl
      | true => exact absurd (hslash h).entry nodir
    · rintro rfl
      obtain ⟨n, hname, rfl⟩ := Slot.location_eq hm
      obtain ⟨_, front, hcut, hfront, _⟩ := slot_eq_ok.mp hs
      obtain ⟨d, hd, _, hdir⟩ := find_named (hname ▸ hcut) hf
      rw [hfront] at hd
      cases hd
      rw [hdir _ he (by simp)] at nodir
      exact nodir he

end FileSystem
end Provision
