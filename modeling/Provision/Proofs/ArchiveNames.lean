import Provision.Proofs.Confinement
import Provision.Proofs.Parents
import Provision.Proofs.Unlinking

namespace Provision
namespace Path

variable {p q up : Path} {name name' : String} {ss init back : List (List Char)} {s : List Char}

/-- A piece that can be the name of a path: it leads neither nowhere nor up. -/
structure Nameable (s : List Char) : Prop where
  clean : '/' ∉ s
  not_blank : isBlank s = false
  not_up : s ≠ ['.', '.']

theorem Nameable.ne_nil (h : Nameable s) : s ≠ [] := by
  rintro rfl
  cases h.not_blank

theorem ne_append {ending : String} (h : ending ≠ "") : name ≠ name ++ ending :=
  fun hsame => h (String.append_eq_left_iff.mp hsame.symm)

/-- A name keeps being one when something is put behind it. -/
theorem Nameable.append {ending : String} (h : Nameable name.toList)
    (hclean : '/' ∉ ending.toList) (hlong : 2 ≤ ending.toList.length) :
    Nameable (name ++ ending).toList := by
  have hpos := List.length_pos_iff.mpr h.ne_nil
  have hne {t : List Char} (ht : t.length ≤ 2) : (name ++ ending).toList ≠ t := by
    rintro rfl
    rw [String.toList_append, List.length_append] at ht
    omega
  refine ⟨?_, ?_, hne (by simp)⟩
  · simp [h.clean, hclean]
  · simp only [isBlank, Bool.or_eq_false_iff, decide_eq_false_iff_not]
    exact ⟨hne (by simp), hne (by simp)⟩

theorem Nameable.stepOf_eq (h : Nameable s) : stepOf s = some (.name (String.ofList s)) := by
  rw [stepOf, h.not_blank, if_neg (by simp), if_neg h.not_up]

theorem Nameable.clean_concat (h : Nameable s) (clean : ∀ t ∈ ss, '/' ∉ t) :
    ∀ t ∈ ss ++ [s], '/' ∉ t := by
  intro t ht
  rcases List.mem_append.mp ht with ht | ht
  · exact clean t ht
  · rw [List.mem_singleton.mp ht]
    exact h.clean

/-- What a path is: something with a name, in the directory that another path leads to. -/
structure Names (p up : Path) (name : String) : Prop where
  fileName : p.fileName? = some name
  parent : p.parent? = some up
  components : p.components = up.components ++ [.name name]

theorem Names.ne (h : p.Names up name) (h' : q.Names up name') (hne : name ≠ name') :
    p.components ≠ q.components := by
  rw [h.components, h'.components]
  simpa using hne

theorem components_rooted (clean : ∀ t ∈ ss, '/' ∉ t) :
    (rooted ss).components = .root :: ss.filterMap stepOf := by
  unfold components
  rw [chars_rooted, split_rooted]
  cases ss with
  | nil => rfl
  | cons t ts =>
    rw [segments_unsegments (by simp) clean]
    rfl

theorem filterMap_stepOf_of_blank (h : ∀ b ∈ back, isBlank b = true) :
    back.filterMap stepOf = [] :=
  List.filterMap_eq_nil_iff.mpr fun b hb => stepOf_eq_none (h b hb)

theorem filterMap_stepOf_trimBlankEnd (ss : List (List Char)) :
    (trimBlankEnd ss).filterMap stepOf = ss.filterMap stepOf := by
  obtain ⟨core, back, hcore, hss, hback, -⟩ := cut_blanks isBlank ss
  have htrim : trimBlankEnd ss = core := hcore
  rw [htrim, hss, List.filterMap_append, filterMap_stepOf_of_blank hback, List.append_nil]

/-- The last piece that is not blank gives a path its name, and the pieces before it its parent. -/
theorem names_of_step (clean : ∀ t ∈ init ++ s :: back, '/' ∉ t) (hs : Nameable s)
    (hback : ∀ b ∈ back, isBlank b = true) :
    (rooted (init ++ s :: back)).Names (rooted (trimBlankEnd init)) (String.ofList s) := by
  have hinit : ∀ t ∈ trimBlankEnd init, '/' ∉ t := fun t ht =>
    clean t (List.mem_append_left _ (mem_of_mem_trimBlankEnd ht))
  have hcomponents : (rooted (init ++ s :: back)).components =
      (rooted (trimBlankEnd init)).components ++ [.name (String.ofList s)] := by
    rw [components_rooted clean, components_rooted hinit, filterMap_stepOf_trimBlankEnd,
      List.filterMap_append, List.filterMap_cons_some hs.stepOf_eq,
      filterMap_stepOf_of_blank hback, List.cons_append]
  refine ⟨?_, parent?_of_step clean hs.not_blank hback, hcomponents⟩
  rw [fileName?, hcomponents, List.getLast?_concat]

theorem names_of_tidy (h : Tidy ss) (hs : Nameable s) :
    (rooted (ss ++ [s])).Names (rooted ss) (String.ofList s) := by
  have names := names_of_step (hs.clean_concat h.clean) hs (by simp)
  rw [h.trimmed] at names
  exact names

theorem chars_rooted_concat (front : List (List Char)) (s : List Char) :
    (rooted (front ++ [s])).chars = unsegments ([] :: front) ++ '/' :: s := by
  rw [← unsegments_concat (by simp), chars_rooted]
  cases front <;> rfl

/-- A path with a slash at its end takes a name there; any other gets one more piece. -/
theorem rooted_join (clean : '/' ∉ s) (hclean : '/' ∉ name.toList) :
    (rooted (init ++ [s])).join ⟨name⟩ =
      rooted (if s = [] then init ++ [name.toList] else init ++ [s] ++ [name.toList]) := by
  have hrelative : (⟨name⟩ : Path).isAbsolute = false :=
    decide_eq_false fun hhead => hclean (List.mem_of_head? hhead)
  have hname : (⟨name⟩ : Path).chars = name.toList := rfl
  have hchars := chars_rooted_concat init s
  apply eq_of_chars
  rw [chars_join hrelative (by simp [hchars]), hname]
  by_cases hs : s = []
  · subst hs
    rw [if_pos rfl, chars_rooted_concat, chars_rooted_concat, if_pos (by simp), List.append_assoc]
    rfl
  · have hlast : (rooted (init ++ [s])).chars.getLast? ≠ some '/' := by
      rw [hchars, List.getLast?_append, List.getLast?_cons,
        List.getLast?_eq_some_getLast hs]
      simp only [Option.getD_some, Option.some_or, ne_eq, Option.some.injEq]
      exact fun hslash => clean (hslash ▸ List.getLast_mem hs)
    rw [if_neg hs, if_neg hlast, chars_rooted_concat (init ++ [s]), hchars, ← List.cons_append,
      unsegments_concat (by simp)]

theorem components_join_name (h : p.isAbsolute = true) (hname : Nameable name.toList) :
    (p.join ⟨name⟩).components = p.components ++ [.name name] := by
  obtain ⟨ss, hne, clean, rfl⟩ := exists_rooted h
  obtain ⟨init, s, rfl⟩ := (List.eq_nil_or_concat ss).resolve_left hne
  rw [List.concat_eq_append] at clean ⊢
  have joined {ts : List (List Char)} (hts : ∀ t ∈ ts, '/' ∉ t) :
      (rooted (ts ++ [name.toList])).components = (rooted ts).components ++ [.name name] := by
    rw [components_rooted hts, components_rooted (hname.clean_concat hts), List.filterMap_append,
      List.filterMap_cons_some hname.stepOf_eq, String.ofList_toList]
    rfl
  rw [rooted_join (clean s (by simp)) hname.clean]
  split
  · rename_i hs
    -- the piece behind the last slash is empty, and no component
    have hinit : ∀ t ∈ init, '/' ∉ t := fun t ht => clean t (List.mem_append_left _ ht)
    rw [joined hinit, components_rooted hinit, components_rooted clean, hs]
    simp [stepOf, isBlank]
  · exact joined clean

/-- The stem of a name is what comes before its last dot, when something does. -/
theorem stem_append {extension : List Char} (hs : s ≠ []) (hdot : '.' ∉ extension) :
    stem (s ++ '.' :: extension) = s := by
  have hbefore : ((s ++ '.' :: extension).reverse.dropWhile (· ≠ '.')).reverse = s ++ ['.'] := by
    rw [List.reverse_append, List.reverse_cons, List.append_assoc, List.dropWhile_append_of_pos]
    · simp
    · intro c hc
      have hne : c ≠ '.' := ne_of_mem_of_not_mem (List.mem_reverse.mp hc) hdot
      simpa using hne
  unfold stem
  rw [hbefore]
  split
  · rename_i hnil
    simp at hnil
  · rw [List.dropLast_concat]
    split
    · exact absurd rfl hs
    · rfl

theorem withExtension_rooted (extension : String) (clean : ∀ t ∈ ss, '/' ∉ t)
    (hs : Nameable s) :
    (rooted (ss ++ [s])).withExtension extension =
      rooted (ss ++ [stem s ++ '.' :: extension.toList]) := by
  have hclean := hs.clean_concat clean
  have hname := (names_of_step hclean hs (by simp)).fileName
  have hsplit : split (rooted (ss ++ [s])).chars = ⟨some [], ss ++ [s]⟩ := by
    rw [chars_rooted, split_rooted, segments_unsegments (by simp) hclean]
  simp only [withExtension, hname, hsplit, String.toList_ofList]
  rw [trimBlankEnd_append (by simp) hs.not_blank, List.dropLast_concat]
  rfl

theorem bare_rooted (clean : ∀ t ∈ init ++ s :: back, '/' ∉ t) (hs : isBlank s = false)
    (hback : ∀ b ∈ back, isBlank b = true) :
    (rooted (init ++ s :: back)).bare = rooted (init ++ [s]) := by
  have hpieces : segments (rooted (init ++ s :: back)).chars = ([] :: init) ++ s :: back :=
    segments_rooted (by simp) clean
  apply eq_of_chars
  rw [← unsegments_segments (bare _).chars, segments_bare hpieces hback hs, chars_rooted]
  cases init <;> rfl

end Path

namespace FileSystem

variable {fs fs' : FileSystem} {p : Path} {l m own : Location} {ss init : List (List Char)}
  {s t : List Char}

def SameUnder (fs : FileSystem) (own : Location) (fs' : FileSystem) : Prop :=
  ∀ m, own <+: m → fs'.entry? m = fs.entry? m

theorem AgreesOutside.sameUnder {ls : List Location} (h : AgreesOutside ls fs fs')
    (hls : ∀ m ∈ ls, ¬ own <+: m) : fs.SameUnder own fs' :=
  fun m hm => h.entry_eq m fun hmem => hls m hmem hm

theorem removeFile_agrees (h : fs.removeFile p = .ok fs') :
    AgreesOutside (fs.nameSpot p) fs fs' := by
  obtain ⟨s, l, e, hs, hl, -, -, -, rfl⟩ := removeFile_eq_ok.mp h
  exact AgreesOutside.erase ⟨rfl, fun _ _ => rfl⟩ (mem_nameSpot_of_slot hs hl)
    (Slot.location_ne hl)

/-- The steps of a rooted path whose last piece is a name. -/
theorem cutLast_rooted (clean : ∀ t ∈ ss, '/' ∉ t) (hs : Path.Nameable s) :
    cutLast (stepsOf (Path.rooted (ss ++ [s])).text) =
      (([] :: ss).map String.ofList, .name (String.ofList s), false) := by
  have hsteps : stepsOf (Path.rooted (ss ++ [s])).text =
      ([] :: ss).map String.ofList ++ [String.ofList s] := by
    have hsegments := Path.segments_rooted (by simp) (hs.clean_concat clean)
    rw [Path.chars] at hsegments
    rw [stepsOf, hsegments, ← List.cons_append, List.map_append]
    rfl
  have hne (t : String) (ht : s ≠ t.toList) : String.ofList s ≠ t := by
    rintro rfl
    exact ht String.toList_ofList.symm
  have hblank : s ≠ [] ∧ s ≠ ['.'] := by simpa [Path.isBlank] using hs.not_blank
  rw [hsteps]
  exact cutLast_concat _ (hne "" hblank.1) (hne "." hblank.2) (hne ".." hs.not_up)

/-- The name of a rooted path stands in the directory that the pieces before it lead to. -/
theorem mem_nameSpot_rooted (clean : ∀ t ∈ ss, '/' ∉ t) (hs : Path.Nameable s)
    (hl : l ∈ fs.nameSpot (Path.rooted (ss ++ [s]))) :
    ∃ d, fs.follow false linkLimit [] (([] :: ss).map String.ofList) = .ok (.present d) ∧
      fs.entry? d = some .directory ∧ l = d ++ [String.ofList s] := by
  unfold nameSpot at hl
  split at hl
  · rename_i slot hslot
    obtain ⟨n, hlast, rfl⟩ := Slot.location_eq (Option.mem_toList.mp hl)
    obtain ⟨-, front, hcut, hfront, hd, -⟩ := slot_eq_ok.mp hslot
    have hstart : fs.startOf (Path.rooted (ss ++ [s])).text = [] :=
      if_pos (Path.isAbsolute_rooted _)
    rw [cutLast_rooted clean hs, hlast] at hcut
    obtain ⟨rfl, ⟨rfl⟩, -⟩ : ([] :: ss).map String.ofList = front ∧
        Last.name (String.ofList s) = .name n ∧ _ := by
      simpa using hcut
    rw [hstart] at hfront
    exact ⟨_, hfront, hd, rfl⟩
  · cases hl

/-- Slashes and dots behind the steps to a directory lead to that directory again. -/
theorem follow_idle {links : Nat} {here d : Location} {front back : List String}
    (hf : fs.follow false links here front = .ok (.present d))
    (hd : fs.entry? d = some .directory) (hback : ∀ b ∈ back, b = "" ∨ b = ".") :
    fs.follow false links here (front ++ back) = .ok (.present d) := by
  obtain ⟨k, hk⟩ := follow_through back hf hd
  rw [hk]
  exact follow_found k (walk_idle hback)

/-- Two names behind the same pieces, slashes and dots at their end aside, stand side by side. -/
theorem nameSpots_beside (clean : ∀ t ∈ init, '/' ∉ t) (hs : Path.Nameable s)
    (ht : Path.Nameable t) (hl : l ∈ fs.nameSpot (Path.rooted (init ++ [s])))
    (hm : m ∈ fs.nameSpot (Path.rooted (Path.trimBlankEnd init ++ [t]))) :
    ∃ d, l = d ++ [String.ofList s] ∧ m = d ++ [String.ofList t] := by
  obtain ⟨core, back, hcore, hinit, hback, -⟩ := Path.cut_blanks Path.isBlank init
  have htrim : Path.trimBlankEnd init = core := hcore
  rw [htrim] at hm
  obtain ⟨d, hfront, hd, rfl⟩ := mem_nameSpot_rooted
    (fun t ht => clean t (hinit ▸ List.mem_append_left back ht)) ht hm
  obtain ⟨d', hfront', -, rfl⟩ := mem_nameSpot_rooted clean hs hl
  have hidle := follow_idle hfront hd (idle_of_blank hback)
  rw [← List.map_append, List.cons_append, ← hinit, hfront'] at hidle
  cases hidle
  exact ⟨d, rfl, rfl⟩

/-- Writing to a path that ends with a name, and is no link, writes at that name. -/
theorem spots_of_unlinked (clean : ∀ t ∈ ss, '/' ∉ t) (hs : Path.Nameable s)
    (hlink : ¬ fs.LinkAt (Path.rooted (ss ++ [s])))
    (hm : m ∈ fs.spots (Path.rooted (ss ++ [s]))) :
    m ∈ fs.nameSpot (Path.rooted (ss ++ [s])) := by
  have root := grounded_start fs (Path.isAbsolute_rooted (ss ++ [s]))
  cases hlookup : fs.lookup (Path.rooted (ss ++ [s])) true with
  | error e => exact spots_of_error hlookup ▸ hm
  | ok q =>
    obtain ⟨d, hslot, hq⟩ := slot_of_lookup root hlink (cutLast_rooted clean hs) hlookup
    have hlocation : q.location = d ++ [String.ofList s] := by
      rw [hq]
      split <;> rfl
    rw [spots_of_lookup hlookup, hlocation] at hm
    rcases List.mem_append.mp hm with hm | hm
    · exact hm
    · rw [List.mem_singleton.mp hm]
      exact mem_nameSpot_of_slot hslot rfl

end FileSystem

namespace Layout

variable {l : Layout} {c : Config} {name : String} {init back : List (List Char)} {p : Path}
  {fs : FileSystem} {own m : Location}

/-- The pieces of the three paths of an archive that has a name: the name, those before it, and the
blank ones behind it, of which the zip and the temporary file have none. -/
structure ArchivePieces (l : Layout) (c : Config) (name : String) (init back : List (List Char)) :
    Prop where
  dir : l.archiveDir c = Path.rooted (init ++ name.toList :: back)
  zip : l.archiveZip c = Path.rooted (Path.trimBlankEnd init ++ [(name ++ ".zip").toList])
  part : Download.partOf (l.archiveZip c) =
    Path.rooted (Path.trimBlankEnd init ++ [(name ++ ".part").toList])
  clean : ∀ t ∈ init ++ name.toList :: back, '/' ∉ t
  nameable : Path.Nameable name.toList
  back_blank : ∀ b ∈ back, Path.isBlank b = true

theorem archive_pieces (hl : l.root.isAbsolute = true)
    (hn : (l.archiveDir c).fileName? = some name) :
    ∃ init back, ArchivePieces l c name init back := by
  have habsolute := isAbsolute_archiveDir c hl
  obtain ⟨init, back, hdir, named⟩ := Path.rooted_of_fileName habsolute hn
  have clean : ∀ t ∈ init ++ name.toList :: back, '/' ∉ t := by
    intro t ht
    have hpiece : t ∈ Path.segments (l.archiveDir c).chars := by
      rw [named.pieces]
      exact List.mem_cons_of_mem _ ht
    exact Path.slash_not_mem hpiece
  have nameable : Path.Nameable name.toList :=
    ⟨clean _ (by simp), named.not_blank, named.not_up⟩
  have tidy : Path.Tidy (Path.trimBlankEnd init) :=
    Path.tidy_trimBlankEnd fun t ht => clean t (List.mem_append_left _ ht)
  have hparent : (l.archiveDir c).parent? = some (Path.rooted (Path.trimBlankEnd init)) := by
    rw [hdir]
    exact Path.parent?_of_step clean named.not_blank named.back_blank
  have hzipName : (name ++ ".zip").toList = name.toList ++ '.' :: "zip".toList := by simp
  have hzipNameable : Path.Nameable (name ++ ".zip").toList :=
    nameable.append (by decide) (by decide)
  have hzip : l.archiveZip c =
      Path.rooted (Path.trimBlankEnd init ++ [(name ++ ".zip").toList]) := by
    unfold archiveZip Path.withFileName
    simp only [hn, hparent, Option.getD_some]
    exact tidy.join hzipNameable.clean
  refine ⟨init, back, hdir, hzip, ?_, clean, nameable, named.back_blank⟩
  rw [Download.partOf, hzip, Path.withExtension_rooted _ tidy.clean hzipNameable, hzipName,
    Path.stem_append nameable.ne_nil (by decide)]
  simp

theorem ArchivePieces.zipNameable (pieces : ArchivePieces l c name init back) :
    Path.Nameable (name ++ ".zip").toList :=
  pieces.nameable.append (by decide) (by decide)

theorem ArchivePieces.partNameable (pieces : ArchivePieces l c name init back) :
    Path.Nameable (name ++ ".part").toList :=
  pieces.nameable.append (by decide) (by decide)

/-- The zip and the temporary file bear the directory's name, with something behind it, and stand
behind the same pieces, with no slashes or dots at the end. -/
theorem ArchivePieces.beside (pieces : ArchivePieces l c name init back)
    (hp : p = l.archiveZip c ∨ p = Download.partOf (l.archiveZip c)) :
    ∃ ending : String, ending ≠ "" ∧ Path.Nameable (name ++ ending).toList ∧
      p = Path.rooted (Path.trimBlankEnd init ++ [(name ++ ending).toList]) := by
  rcases hp with hp | hp
  · exact ⟨".zip", by decide, pieces.zipNameable, hp.trans pieces.zip⟩
  · exact ⟨".part", by decide, pieces.partNameable, hp.trans pieces.part⟩

theorem ArchivePieces.names (pieces : ArchivePieces l c name init back) :
    (l.archiveDir c).Names (Path.rooted (Path.trimBlankEnd init)) name ∧
      (l.archiveZip c).Names (Path.rooted (Path.trimBlankEnd init)) (name ++ ".zip") ∧
      (Download.partOf (l.archiveZip c)).Names (Path.rooted (Path.trimBlankEnd init))
        (name ++ ".part") := by
  have tidy : Path.Tidy (Path.trimBlankEnd init) :=
    Path.tidy_trimBlankEnd fun t ht => pieces.clean t (List.mem_append_left _ ht)
  have dir := Path.names_of_step pieces.clean pieces.nameable pieces.back_blank
  have zip := Path.names_of_tidy tidy pieces.zipNameable
  have part := Path.names_of_tidy tidy pieces.partNameable
  rw [← pieces.dir, String.ofList_toList] at dir
  rw [← pieces.zip, String.ofList_toList] at zip
  rw [← pieces.part, String.ofList_toList] at part
  exact ⟨dir, zip, part⟩

theorem ArchivePieces.apart (pieces : ArchivePieces l c name init back)
    (hp : p = l.archiveZip c ∨ p = Download.partOf (l.archiveZip c))
    (hown : own ∈ fs.nameSpot (l.archiveDir c).bare) (hm : m ∈ fs.nameSpot p) : ¬ own <+: m := by
  obtain ⟨ending, hending, hname, rfl⟩ := pieces.beside hp
  have hinit : ∀ t ∈ init, '/' ∉ t := fun t ht => pieces.clean t (List.mem_append_left _ ht)
  rw [pieces.dir, Path.bare_rooted pieces.clean pieces.nameable.not_blank pieces.back_blank] at hown
  obtain ⟨d, rfl, rfl⟩ := FileSystem.nameSpots_beside hinit pieces.nameable hname hown hm
  intro hprefix
  have heq := hprefix.eq_of_length (by simp)
  exact Path.ne_append hending (by simpa using heq)

theorem ArchivePieces.spots_part (pieces : ArchivePieces l c name init back)
    (hlink : ¬ fs.LinkAt (Download.partOf (l.archiveZip c)))
    (hm : m ∈ fs.spots (Download.partOf (l.archiveZip c))) :
    m ∈ fs.nameSpot (Download.partOf (l.archiveZip c)) := by
  have hinit : ∀ t ∈ Path.trimBlankEnd init, '/' ∉ t := fun t ht =>
    pieces.clean t (List.mem_append_left _ (Path.mem_of_mem_trimBlankEnd ht))
  rw [pieces.part] at hlink hm ⊢
  exact FileSystem.spots_of_unlinked hinit pieces.partNameable hlink hm

/-- Removing a zip or its temporary file leaves alone what stands at a location and below it. A
download leaves a directory there in any case, and all of it unless a link in the place of the
temporary file leads there. -/
structure Spared (fs : FileSystem) (own : Location) (zip : Path) : Prop where
  removal : ∀ p fs', p = zip ∨ p = Download.partOf zip → fs.removeFile p = .ok fs' →
    fs.SameUnder own fs'
  directory : ∀ answer, ∀ st ∈ (Download.trail fs zip answer).states,
    fs.entry? own = some .directory → st.entry? own = some .directory
  download : ∀ answer, ∀ st ∈ (Download.trail fs zip answer).states,
    fs.SameUnder own st ∨
      fs.LinkAt (Download.partOf zip) ∧ ∃ m ∈ fs.spots (Download.partOf zip), own <+: m

theorem ArchivePieces.spared (pieces : ArchivePieces l c name init back)
    (hown : own ∈ fs.nameSpot (l.archiveDir c).bare) : Spared fs own (l.archiveZip c) where
  removal := fun p fs' hp hremove =>
    (FileSystem.removeFile_agrees hremove).sameUnder fun m hm => pieces.apart hp hown hm
  directory := fun answer st hst => (Download.trail_confined fs _ answer st hst).directory own
  download := by
    intro answer st hst
    have within := Download.trail_confined fs (l.archiveZip c) answer st hst
    refine or_iff_not_imp_right.mpr fun hno => within.agrees.sameUnder fun m hm hunder => ?_
    rcases List.mem_append.mp hm with hm | hm
    · exact pieces.apart (.inl rfl) hown hm hunder
    · have hlink : ¬ fs.LinkAt (Download.partOf (l.archiveZip c)) := fun hlink =>
        hno ⟨hlink, m, hm, hunder⟩
      exact pieces.apart (.inr rfl) hown (pieces.spots_part hlink hm) hunder

/-- The zip and the temporary file of its download stand beside the directory that the zip is
unpacked into. They have its name with an ending of their own, whatever slashes, dots and extensions
its path has, so they are three paths and what is done at the two spares the third. A directory with
no name has the zip in it. -/
theorem archive_siblings (hl : l.root.isAbsolute = true) (c : Config) :
    let dir := l.archiveDir c
    let zip := l.archiveZip c
    let part := Download.partOf zip
    (∀ name, dir.fileName? = some name →
      (∃ up, dir.Names up name ∧ zip.Names up (name ++ ".zip") ∧
        part.Names up (name ++ ".part")) ∧
      (dir.components ≠ zip.components ∧ dir.components ≠ part.components ∧
        zip.components ≠ part.components) ∧
      ∀ (fs : FileSystem) (own : Location), own ∈ fs.nameSpot dir.bare → Spared fs own zip) ∧
    (dir.fileName? = none →
      zip = dir.join ⟨"libtorch.zip"⟩ ∧
        zip.components = dir.components ++ [.name "libtorch.zip"]) := by
  intro dir zip part
  constructor
  · intro name hname
    obtain ⟨init, back, pieces⟩ := archive_pieces hl hname
    obtain ⟨hdir, hzip, hpart⟩ := pieces.names
    have hzipName : name ≠ name ++ ".zip" := Path.ne_append (by decide)
    have hpartName : name ≠ name ++ ".part" := Path.ne_append (by decide)
    have hdiffer : name ++ ".zip" ≠ name ++ ".part" := by simp
    exact ⟨⟨_, hdir, hzip, hpart⟩,
      ⟨hdir.ne hzip hzipName, hdir.ne hpart hpartName, hzip.ne hpart hdiffer⟩,
      fun fs own hown => pieces.spared hown⟩
  · intro hname
    have hzip : zip = dir.join ⟨"libtorch.zip"⟩ := by
      show dir.withFileName (dir.fileName?.getD "libtorch" ++ ".zip") = _
      rw [Path.withFileName, hname]
      rfl
    refine ⟨hzip, ?_⟩
    rw [hzip]
    exact Path.components_join_name (isAbsolute_archiveDir c hl) ⟨by decide, rfl, by decide⟩

/-- A dot in the name of the directory starts no extension, and what is behind the name does not
show. -/
theorem archive_siblings_dotted :
    let l : Layout := ⟨⟨"/w"⟩⟩
    let c : Config := { archive := { dir := "lib//libtorch-1.12.1/./" } }
    let zip := l.archiveZip c
    let fs : FileSystem := { entries := [(["w"], .directory), (["w", "lib"], .directory)] }
    l.root.isAbsolute = true ∧ (l.archiveDir c).fileName? = some "libtorch-1.12.1" ∧
      ["w", "lib", "libtorch-1.12.1"] ∈ fs.nameSpot (l.archiveDir c).bare ∧
      (∃ up, (l.archiveDir c).Names up "libtorch-1.12.1" ∧ zip.Names up "libtorch-1.12.1.zip" ∧
        (Download.partOf zip).Names up "libtorch-1.12.1.part") ∧
      Spared fs ["w", "lib", "libtorch-1.12.1"] zip := by
  intro l c zip fs
  have hroot : l.root.isAbsolute = true := by decide
  have hname : (l.archiveDir c).fileName? = some "libtorch-1.12.1" := by decide +kernel
  have hspot : ["w", "lib", "libtorch-1.12.1"] ∈ fs.nameSpot (l.archiveDir c).bare := by
    decide +kernel
  obtain ⟨siblings, -, spared⟩ := (archive_siblings hroot c).1 _ hname
  exact ⟨hroot, hname, hspot, siblings, spared fs _ hspot⟩

end Layout
end Provision
