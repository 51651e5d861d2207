import Mathlib.Data.List.DropRight
import Provision.Proofs.Layout
import Provision.Proofs.Lookup

namespace Provision
namespace Path

def rooted (ss : List (List Char)) : Path := ofChars (Split.join ⟨some [], ss⟩)

/-- Pieces as a parent has them: with no slash in them, and nothing blank behind the last step. -/
structure Tidy (ss : List (List Char)) : Prop where
  clean : ∀ s ∈ ss, '/' ∉ s
  trimmed : trimBlankEnd ss = ss

variable {p : Path} {name : String} {ss init back : List (List Char)} {s : List Char}

theorem eq_of_chars {q : Path} (h : p.chars = q.chars) : p = q :=
  congrArg Path.mk (String.toList_inj.mp h)

theorem join_of_absolute {q : Path} (h : q.isAbsolute = true) : p.join q = q := by
  rw [join, h]
  rfl

theorem text_ne_empty (h : p.isAbsolute = true) : p.text ≠ "" := by
  intro hempty
  obtain ⟨cs, hcs⟩ := isAbsolute_iff.mp h
  rw [chars, hempty] at hcs
  cases hcs

theorem chars_join {q : Path} (hq : q.isAbsolute = false) (hp : p.chars ≠ []) :
    (p.join q).chars =
      p.chars ++ if p.chars.getLast? = some '/' then q.chars else '/' :: q.chars := by
  have hempty : p.chars.isEmpty = false := List.isEmpty_eq_false_iff.mpr hp
  rw [join, hq, hempty, if_neg (by simp)]
  split <;> simp [chars]

theorem chars_rooted (ss : List (List Char)) : (rooted ss).chars = '/' :: unsegments ss := by
  rw [rooted, ofChars, chars, String.toList_ofList]
  cases ss <;> rfl

theorem isAbsolute_rooted (ss : List (List Char)) : (rooted ss).isAbsolute = true :=
  isAbsolute_iff.mpr ⟨_, chars_rooted ss⟩

theorem exists_rooted (h : p.isAbsolute = true) :
    ∃ ss, ss ≠ [] ∧ (∀ s ∈ ss, '/' ∉ s) ∧ p = rooted ss := by
  obtain ⟨cs, hcs⟩ := isAbsolute_iff.mp h
  refine ⟨segments cs, segments_ne cs, fun s hs => slash_not_mem hs, eq_of_chars ?_⟩
  rw [chars_rooted, unsegments_segments, hcs]

theorem segments_rooted (hne : ss ≠ []) (clean : ∀ s ∈ ss, '/' ∉ s) :
    segments (rooted ss).chars = [] :: ss := by
  rw [chars_rooted, segments, if_pos rfl, segments_unsegments hne clean]

/-- What is left of a rooted path's pieces when the blank ones at the end are gone. -/
theorem trimBlankEnd_split_rooted (clean : ∀ s ∈ ss, '/' ∉ s) :
    trimBlankEnd (split (rooted ss).chars).body = trimBlankEnd ss := by
  rw [chars_rooted, split_rooted]
  cases ss with
  | nil => rfl
  | cons t ts => rw [segments_unsegments (by simp) clean]

theorem lead_rooted (ss : List (List Char)) : (split (rooted ss).chars).lead = some [] := by
  rw [chars_rooted, split_rooted]

theorem eq_of_mem_blanks {c : Char} (h : ∀ s ∈ ss, isBlank s = true) (hc : c ∈ unsegments ss) :
    c = '/' ∨ c = '.' := by
  induction ss with
  | nil => cases hc
  | cons t ts ih =>
    have first : c ∈ t → c = '.' := by
      intro hct
      have ht := h t List.mem_cons_self
      simp only [isBlank, Bool.or_eq_true, decide_eq_true_eq] at ht
      rcases ht with rfl | rfl
      · cases hct
      · exact List.mem_singleton.mp hct
    cases ts with
    | nil => exact .inr (first hc)
    | cons u us =>
      rcases List.mem_append.mp hc with hct | hrest
      · exact .inr (first hct)
      · rcases List.mem_cons.mp hrest with rfl | hrest
        · exact .inl rfl
        · exact ih (fun s hs => h s (List.mem_cons_of_mem t hs)) hrest

theorem mem_of_mem_trimBlankEnd (h : s ∈ trimBlankEnd ss) : s ∈ ss :=
  (List.rdropWhile_prefix isBlank ss).subset h

theorem tidy_trimBlankEnd (clean : ∀ s ∈ ss, '/' ∉ s) : Tidy (trimBlankEnd ss) where
  clean := fun s hs => clean s (mem_of_mem_trimBlankEnd hs)
  trimmed := List.rdropWhile_idempotent isBlank ss

/-- The blank pieces do not make a parent. -/
theorem parent?_of_blank (clean : ∀ s ∈ ss, '/' ∉ s) (h : ∀ s ∈ ss, isBlank s = true) :
    (rooted ss).parent? = none := by
  have htrim : trimBlankEnd ss = [] := List.rdropWhile_eq_nil_iff.mpr h
  unfold parent?
  dsimp only
  rw [trimBlankEnd_split_rooted clean, htrim, lead_rooted]
  rfl

/-- The last step is what a parent lacks. -/
theorem parent?_of_step (clean : ∀ t ∈ init ++ s :: back, '/' ∉ t) (hs : isBlank s = false)
    (hback : ∀ b ∈ back, isBlank b = true) :
    (rooted (init ++ s :: back)).parent? = some (rooted (trimBlankEnd init)) := by
  unfold parent?
  dsimp only
  rw [trimBlankEnd_split_rooted clean, trimBlankEnd_append hback hs, lead_rooted]
  split
  · rename_i hnil
    simp at hnil
  · rw [List.dropLast_concat]
    rfl

theorem blank_or_step (ss : List (List Char)) : (∀ s ∈ ss, isBlank s = true) ∨
    ∃ init s back, ss = init ++ s :: back ∧ isBlank s = false ∧ ∀ b ∈ back, isBlank b = true := by
  obtain ⟨core, back, -, hss, hback, hlast⟩ := cut_blanks isBlank ss
  rcases List.eq_nil_or_concat core with hnil | ⟨init, s, hcore⟩
  · refine .inl ?_
    rw [hss, hnil]
    exact hback
  · rw [List.concat_eq_append] at hcore
    refine .inr ⟨init, s, back, ?_, hlast s (by rw [hcore, List.getLast?_concat]), hback⟩
    rw [hss, hcore, List.append_assoc, List.singleton_append]

/-- A rooted path has no parent just when it is made of slashes and single dots. -/
theorem exists_blank_of_parentless (h : p.isAbsolute = true) (hp : p.parent? = none) :
    ∃ ss, ss ≠ [] ∧ (∀ s ∈ ss, isBlank s = true) ∧ (∀ s ∈ ss, '/' ∉ s) ∧ p = rooted ss := by
  obtain ⟨ss, hne, clean, rfl⟩ := exists_rooted h
  rcases blank_or_step ss with hblank | ⟨init, s, back, rfl, hs, hback⟩
  · exact ⟨ss, hne, hblank, clean, rfl⟩
  · rw [parent?_of_step clean hs hback] at hp
    cases hp

theorem rooted_of_fileName (h : p.isAbsolute = true) (hn : p.fileName? = some name) :
    ∃ init back, p = rooted (init ++ name.toList :: back) ∧
      p.Named name.toList ([] :: init) back := by
  obtain ⟨back, named⟩ := named_of_fileName hn
  obtain ⟨cs, hcs⟩ := isAbsolute_iff.mp h
  have hlead : (split p.chars).lead = some [] := by rw [hcs, split_rooted]
  rw [hlead, Option.toList_some, List.singleton_append] at named
  generalize (trimBlankEnd (split p.chars).body).dropLast = init at named
  refine ⟨init, back, eq_of_chars ?_, named⟩
  rw [← unsegments_segments p.chars, named.pieces, chars_rooted]
  cases init <;> rfl

theorem unsegments_concat (hne : ss ≠ []) (s : List Char) :
    unsegments (ss ++ [s]) = unsegments ss ++ '/' :: s := by
  induction ss with
  | nil => exact absurd rfl hne
  | cons t ts ih =>
    cases ts with
    | nil => rfl
    | cons u us =>
      have hstep : unsegments (t :: u :: (us ++ [s])) =
        t ++ '/' :: unsegments (u :: us ++ [s]) := rfl
      have hrest : unsegments (t :: u :: us) = t ++ '/' :: unsegments (u :: us) := rfl
      rw [List.cons_append, List.cons_append, hstep, ih (by simp), hrest, List.append_assoc,
        List.cons_append]

namespace Tidy

/-- A parent ends with a slash only if it is the root. -/
theorem getLast?_chars (h : Tidy ss) (hne : ss ≠ []) :
    (rooted ss).chars.getLast? ≠ some '/' := by
  obtain ⟨init, s, rfl⟩ := (List.eq_nil_or_concat ss).resolve_left hne
  rw [List.concat_eq_append] at h ⊢
  have hs : s ≠ [] := by
    rintro rfl
    have hlast := List.rdropWhile_eq_self_iff.mp h.trimmed (by simp)
    rw [List.getLast_concat] at hlast
    exact hlast rfl
  have hlast : (rooted (init ++ [s])).chars.getLast? = s.getLast? := by
    rw [chars_rooted]
    cases init with
    | nil => simp [unsegments, List.getLast?_cons, List.getLast?_eq_some_getLast hs]
    | cons t ts =>
      rw [unsegments_concat (by simp)]
      simp [List.getLast?_cons, List.getLast?_append, List.getLast?_eq_some_getLast hs]
  rw [hlast]
  intro hslash
  exact h.clean s (by simp) (List.mem_of_getLast? hslash)

theorem join (h : Tidy ss) (hn : '/' ∉ name.toList) :
    (rooted ss).join ⟨name⟩ = rooted (ss ++ [name.toList]) := by
  have hrelative : (⟨name⟩ : Path).isAbsolute = false := by
    refine decide_eq_false fun hhead => hn ?_
    exact List.mem_of_head? hhead
  have hname : (⟨name⟩ : Path).chars = name.toList := rfl
  apply eq_of_chars
  rw [chars_join hrelative (by simp [chars_rooted]), hname, chars_rooted (ss ++ [name.toList])]
  by_cases hne : ss = []
  · subst hne
    rfl
  · rw [if_neg (h.getLast?_chars hne), chars_rooted, unsegments_concat hne]
    rfl

/-- One more step has for its parent what it was added to. -/
theorem parent?_concat (h : Tidy ss) (hclean : '/' ∉ s) (hs : isBlank s = false) :
    (rooted (ss ++ [s])).parent? = some (rooted ss) := by
  have clean : ∀ t ∈ ss ++ [s], '/' ∉ t := by
    intro t ht
    rcases List.mem_append.mp ht with ht | ht
    · exact h.clean t ht
    · rw [List.mem_singleton.mp ht]
      exact hclean
  rw [parent?_of_step clean hs (by simp), h.trimmed]

end Tidy

/-- A path that is given another file name keeps its parent. -/
theorem parent?_withFileName {new : String} (h : p.isAbsolute = true)
    (hn : p.fileName? = some name) (hclean : '/' ∉ new.toList) (hnew : isBlank new.toList = false) :
    ∃ q, p.parent? = some q ∧ (p.withFileName new).parent? = some q := by
  obtain ⟨init, back, hp, named⟩ := rooted_of_fileName h hn
  have clean : ∀ t ∈ init ++ name.toList :: back, '/' ∉ t := by
    intro t ht
    have hpiece : t ∈ segments p.chars := by
      rw [named.pieces]
      exact List.mem_cons_of_mem _ ht
    exact slash_not_mem hpiece
  have hparent : p.parent? = some (rooted (trimBlankEnd init)) := by
    rw [hp]
    exact parent?_of_step clean named.not_blank named.back_blank
  have tidy : Tidy (trimBlankEnd init) :=
    tidy_trimBlankEnd fun t ht => clean t (List.mem_append_left _ ht)
  refine ⟨_, hparent, ?_⟩
  simp only [withFileName, hn, hparent]
  rw [tidy.join hclean, tidy.parent?_concat hclean hnew]

end Path

namespace FileSystem

variable {ss : List (List Char)}

/-- Blank pieces are looked up like any text that is not too long. -/
theorem refused?_rooted (hblank : ∀ s ∈ ss, Path.isBlank s = true)
    (hlen : (Path.rooted ss).text.utf8ByteSize ≤ pathLimit) :
    refused? (Path.rooted ss).text = none := by
  have hchars : (Path.rooted ss).text.toList = '/' :: Path.unsegments ss := Path.chars_rooted ss
  have hnul : (Path.rooted ss).text.toList.contains '\x00' = false := by
    refine Bool.eq_false_iff.mpr fun hmem => ?_
    rw [hchars] at hmem
    rcases List.mem_cons.mp (List.contains_iff_mem.mp hmem) with h | hmem
    · cases h
    · rcases Path.eq_of_mem_blanks hblank hmem with h | h <;> cases h
  have htext : (Path.rooted ss).text ≠ "" := Path.text_ne_empty (Path.isAbsolute_rooted ss)
  rw [refused?, hnul, if_neg (by simp), if_neg htext, if_neg (Nat.not_lt.mpr hlen)]

theorem idle_of_blank (hblank : ∀ s ∈ ss, Path.isBlank s = true) :
    ∀ b ∈ ss.map String.ofList, b = "" ∨ b = "." := by
  intro b hb
  obtain ⟨s, hs, rfl⟩ := List.mem_map.mp hb
  have hs := hblank s hs
  simp only [Path.isBlank, Bool.or_eq_true, decide_eq_true_eq] at hs
  rcases hs with rfl | rfl
  · exact .inl rfl
  · exact .inr rfl

/-- The root is there, unless it is written with more than a path may have. -/
theorem has_of_parentless (fs : FileSystem) {p : Path} (h : p.isAbsolute = true)
    (hp : p.parent? = none) (hlen : p.text.utf8ByteSize ≤ pathLimit) : fs.has p = true := by
  obtain ⟨ss, hne, hblank, clean, rfl⟩ := Path.exists_blank_of_parentless h hp
  have hsteps : stepsOf (Path.rooted ss).text = ([] :: ss).map String.ofList :=
    congrArg (List.map String.ofList) (Path.segments_rooted hne clean)
  have hstart : fs.startOf (Path.rooted ss).text = [] := if_pos h
  refine has_iff.mpr ⟨[], .directory, find_eq_ok.mpr
    ⟨lookup_present.mpr ⟨refused?_rooted hblank hlen, ?_⟩, rfl⟩⟩
  rw [hstart, hsteps]
  exact follow_found _ (walk_idle (idle_of_blank (List.forall_mem_cons.mpr ⟨rfl, hblank⟩)))

theorem not_has_of_long (fs : FileSystem) {p : Path} (h : pathLimit < p.text.utf8ByteSize) :
    fs.has p = false := by
  refine Bool.eq_false_iff.mpr fun hp => ?_
  obtain ⟨l, e, hf⟩ := has_iff.mp hp
  obtain ⟨hrefused, -⟩ := lookup_present.mp (find_eq_ok.mp hf).1
  have htext : p.text ≠ "" := by
    intro hempty
    rw [hempty] at h
    exact absurd h (by decide)
  rw [refused?, if_neg htext, if_pos h] at hrefused
  split at hrefused <;> cases hrefused

end FileSystem
end Provision
