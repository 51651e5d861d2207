import Provision.Path

namespace Provision
namespace Path

/-- A list is its part up to the last element that is not blank, and blank ones behind that. -/
theorem cut_blanks {α : Type} (blank : α → Bool) (xs : List α) : ∃ core back,
    (xs.reverse.dropWhile blank).reverse = core ∧ xs = core ++ back ∧
      (∀ x ∈ back, blank x = true) ∧ ∀ x, core.getLast? = some x → blank x = false := by
  refine ⟨_, (xs.reverse.takeWhile blank).reverse, rfl, ?_, ?_, ?_⟩
  · rw [← List.reverse_append, List.takeWhile_append_dropWhile, List.reverse_reverse]
  · intro x hx
    have all := List.all_takeWhile (p := blank) (l := xs.reverse)
    exact List.all_eq_true.mp all x (List.mem_reverse.mp hx)
  · intro x hx
    have last := List.head?_dropWhile_not blank xs.reverse
    rw [List.getLast?_reverse] at hx
    simpa [hx] using last

theorem segments_ne (cs : List Char) : segments cs ≠ [] := by
  cases cs with
  | nil => simp [segments]
  | cons c cs =>
    unfold segments
    split
    · simp
    · split <;> simp

theorem segments_clean {s : List Char} (h : '/' ∉ s) : segments s = [s] := by
  induction s with
  | nil => rfl
  | cons c cs ih =>
    simp only [List.mem_cons, not_or] at h
    rw [segments, if_neg (Ne.symm h.1), ih h.2]

theorem segments_slash {s : List Char} (cs : List Char) (h : '/' ∉ s) :
    segments (s ++ '/' :: cs) = s :: segments cs := by
  induction s with
  | nil => rw [List.nil_append, segments, if_pos rfl]
  | cons c s ih =>
    simp only [List.mem_cons, not_or] at h
    rw [List.cons_append, segments, if_neg (Ne.symm h.1), ih h.2]

theorem slash_not_mem {cs s : List Char} (hs : s ∈ segments cs) : '/' ∉ s := by
  induction cs generalizing s with
  | nil =>
    rw [segments, List.mem_singleton] at hs
    subst hs
    simp
  | cons c cs ih =>
    rw [segments] at hs
    split at hs
    · rcases List.mem_cons.mp hs with rfl | hs
      · simp
      · exact ih hs
    · rename_i hc
      split at hs
      · rw [List.mem_singleton] at hs
        subst hs
        simpa using Ne.symm hc
      · rename_i t ts ht
        rcases List.mem_cons.mp hs with rfl | hs
        · have hclean := @ih t (by rw [ht]; exact List.mem_cons_self)
          simp [Ne.symm hc, hclean]
        · exact ih (by rw [ht]; exact List.mem_cons_of_mem t hs)

theorem segments_unsegments {ss : List (List Char)} (hne : ss ≠ []) (h : ∀ s ∈ ss, '/' ∉ s) :
    segments (unsegments ss) = ss := by
  induction ss with
  | nil => exact absurd rfl hne
  | cons s ss ih =>
    have hs := h s List.mem_cons_self
    cases ss with
    | nil => exact segments_clean hs
    | cons t ts =>
      have htail := ih (by simp) fun u hu => h u (List.mem_cons_of_mem s hu)
      rw [unsegments, segments_slash _ hs, htail]
      simp

theorem unsegments_segments (cs : List Char) : unsegments (segments cs) = cs := by
  induction cs with
  | nil => rfl
  | cons c cs ih =>
    obtain ⟨s, ss, hs⟩ := List.exists_cons_of_ne_nil (segments_ne cs)
    rw [segments]
    split
    · rename_i hc
      rw [hc, hs, unsegments, ← hs, ih]
      · rfl
      · simp
    · rw [hs] at ih ⊢
      cases ss with
      | nil =>
        rw [← ih]
        rfl
      | cons t ts =>
        rw [← ih]
        rfl

/-- Blank pieces at the end go, up to the last that is not blank. -/
theorem trimBlankEnd_append {front back : List (List Char)} {name : List Char}
    (hback : ∀ b ∈ back, isBlank b = true) (hname : isBlank name = false) :
    trimBlankEnd (front ++ name :: back) = front ++ [name] := by
  have hblank : ∀ b ∈ back.reverse, isBlank b = true := fun b hb => hback b (List.mem_reverse.mp hb)
  unfold trimBlankEnd
  rw [List.reverse_append, List.reverse_cons, List.append_assoc, List.dropWhile_append_of_pos hblank,
    List.singleton_append, List.dropWhile_cons_of_neg (by simp [hname])]
  simp

theorem split_segments (cs : List Char) :
    (split cs).lead.toList ++ (split cs).body = segments cs := by
  unfold split
  split
  · rename_i h
    exact h.symm
  · rename_i h
    exact h.symm
  · rfl

theorem split_rooted (cs : List Char) : split ('/' :: cs) = ⟨some [], segments cs⟩ := by
  have hs : segments ('/' :: cs) = [] :: segments cs := by
    rw [segments, if_pos rfl]
  unfold split
  rw [hs]
  cases h : segments cs with
  | nil => exact absurd h (segments_ne cs)
  | cons s ss => rfl

theorem join_segments (s : Split) (h : s.body ≠ []) :
    s.join = unsegments (s.lead.toList ++ s.body) := by
  obtain ⟨lead, body⟩ := s
  cases body with
  | nil => exact absurd rfl h
  | cons t ts =>
    cases lead with
    | none => rfl
    | some l => cases l <;> rfl

theorem isAbsolute_iff_segments {p : Path} :
    p.isAbsolute = true ↔ ∃ s ss, segments p.chars = [] :: s :: ss := by
  unfold isAbsolute
  cases p.chars with
  | nil => simp [segments]
  | cons c cs =>
    rw [segments]
    by_cases hc : c = '/'
    · subst hc
      obtain ⟨s, ss, hs⟩ := List.exists_cons_of_ne_nil (segments_ne cs)
      simp [hs]
    · rw [if_neg hc]
      cases segments cs <;> simp [hc]

theorem stepOf_eq_none {s : List Char} (h : isBlank s = true) : stepOf s = none := by
  rw [stepOf, if_pos h]

/-- What the last step of a path looks like when it is a name: a piece that names neither this
directory nor the one above, with nothing but blank pieces behind it. -/
structure Named (p : Path) (name : List Char) (front back : List (List Char)) : Prop where
  pieces : segments p.chars = front ++ name :: back
  back_blank : ∀ b ∈ back, isBlank b = true
  not_blank : isBlank name = false
  not_up : name ≠ ['.', '.']

theorem named_of_fileName {p : Path} {name : String} (h : p.fileName? = some name) :
    ∃ back, p.Named name.toList
      ((split p.chars).lead.toList ++ (trimBlankEnd (split p.chars).body).dropLast) back := by
  obtain ⟨core, back, hcore, hbody, hback, hlast⟩ := cut_blanks isBlank (split p.chars).body
  have hnone : back.filterMap stepOf = [] := by
    rw [List.filterMap_eq_nil_iff]
    exact fun b hb => stepOf_eq_none (hback b hb)
  have hlast' : p.components.getLast? = some (.name name) := by
    unfold fileName? at h
    split at h
    · rename_i n hn
      rw [hn, Option.some.inj h]
    · cases h
  rw [components, hbody, List.filterMap_append, hnone, List.append_nil] at hlast'
  rcases List.eq_nil_or_concat core with hnil | ⟨init, s, hs⟩
  · -- only the start of the path is left, and that is no name
    rw [hnil] at hlast'
    revert hlast'
    cases (split p.chars).lead with
    | none => simp [leadStep]
    | some l => cases l <;> simp [leadStep]
  · have hs : core = init ++ [s] := by rw [hs, List.concat_eq_append]
    have hblank : isBlank s = false := hlast s (by rw [hs, List.getLast?_concat])
    have hstep : stepOf s = some (if s = ['.', '.'] then .up else .name (String.ofList s)) := by
      rw [stepOf, hblank, apply_ite some]
      rfl
    rw [hs, List.filterMap_append, ← List.append_assoc] at hlast'
    simp only [List.filterMap_cons, hstep, List.filterMap_nil, List.getLast?_concat,
      Option.some.injEq] at hlast'
    split at hlast'
    · cases hlast'
    · rename_i hup
      obtain rfl : String.ofList s = name := by simpa using hlast'
      refine ⟨back, ?_, hback, ?_, ?_⟩
      · rw [trimBlankEnd, hcore, hs, List.dropLast_concat, ← split_segments, hbody, hs]
        simp
      · simpa using hblank
      · simpa using hup

theorem mem_stem {name : List Char} {c : Char} (h : c ∈ stem name) : c ∈ name := by
  unfold stem at h
  split at h
  · exact h
  · split at h
    · exact h
    · have hbefore := List.mem_reverse.mp (List.dropLast_subset _ h)
      exact List.mem_reverse.mp ((List.dropWhile_suffix _).subset hbefore)

/-- A new extension changes the last piece of a path that has a file name, and drops the blank
pieces behind it. -/
theorem segments_withExtension {p : Path} {name extension : String}
    (h : p.fileName? = some name) (hclean : '/' ∉ extension.toList) :
    ∃ front back, p.Named name.toList front back ∧
      segments (p.withExtension extension).chars =
        front ++ [stem name.toList ++ '.' :: extension.toList] := by
  obtain ⟨back, named⟩ := named_of_fileName h
  refine ⟨_, back, named, ?_⟩
  simp only [withExtension, h]
  rw [ofChars, chars, String.toList_ofList, join_segments _ (by simp), ← List.append_assoc]
  refine segments_unsegments (by simp) ?_
  intro s hs
  rcases List.mem_append.mp hs with hs | hs
  · have hpiece : s ∈ segments p.chars := by
      rw [named.pieces]
      exact List.mem_append_left _ hs
    exact slash_not_mem hpiece
  · have hpiece : name.toList ∈ segments p.chars := by
      rw [named.pieces]
      simp
    have hname : '/' ∉ name.toList := slash_not_mem hpiece
    rw [List.mem_singleton] at hs
    subst hs
    simp only [List.mem_append, List.mem_cons, hclean, or_false, not_or]
    exact ⟨fun hstem => hname (mem_stem hstem), by decide⟩

/-- A new extension leaves the way to the file as it was, so the path starts where it did. -/
theorem isAbsolute_withExtension {p : Path} {name extension : String}
    (h : p.fileName? = some name) (hclean : '/' ∉ extension.toList) :
    (p.withExtension extension).isAbsolute = p.isAbsolute := by
  obtain ⟨front, back, named, hpart⟩ := segments_withExtension h hclean
  rw [Bool.eq_iff_iff, isAbsolute_iff_segments, isAbsolute_iff_segments, hpart, named.pieces]
  cases front with
  | nil =>
    have hne : name.toList ≠ [] := by
      intro hnil
      have := named.not_blank
      simp [hnil, isBlank] at this
    simp [hne]
  | cons s front => cases front <;> simp

end Path
end Provision
