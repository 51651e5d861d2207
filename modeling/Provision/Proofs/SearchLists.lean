import Provision.SearchPath

namespace Provision
namespace SearchPath

/-- The entries of a value; an empty value has a single one, which is empty. -/
def entries (value : String) : List String := (value.toList.splitOn ':').map String.ofList

def given : Option String → List String
  | none => []
  | some value => if value = "" then [] else entries value

/-- A value is no more than its entries. -/
theorem intercalate_entries (value : String) : String.intercalate ":" (entries value) = value := by
  rw [← String.toList_inj, String.toList_intercalate, entries, List.map_map]
  have hid : String.toList ∘ String.ofList = id := by
    funext cs
    exact String.toList_ofList
  rw [hid, List.map_id]
  exact List.intercalate_splitOn ':'

theorem entries_append (front back : String) :
    entries (front ++ ":" ++ back) = entries front ++ entries back := by
  have htext : (front ++ ":" ++ back).toList = front.toList ++ ':' :: back.toList := by simp
  rw [entries, htext, List.splitOn_append_cons_self, List.map_append]
  rfl

theorem entries_prepend (entry : String) (previous : Option String) :
    entries (prepend entry previous) = entries entry ++ given previous := by
  cases previous with
  | none => exact (List.append_nil _).symm
  | some value =>
    simp only [prepend, given]
    split
    · exact (List.append_nil _).symm
    · exact entries_append entry value

/-- Characters behind the last piece of a text, none of them a separator, belong to that piece. -/
theorem splitOn_append (cs : List Char) {tail : List Char} (h : ':' ∉ tail) :
    ∃ init last, cs.splitOn ':' = init ++ [last] ∧
      (cs ++ tail).splitOn ':' = init ++ [last ++ tail] := by
  induction cs with
  | nil =>
    refine ⟨[], [], by simp, ?_⟩
    simpa using List.splitOn_eq_singleton h
  | cons c cs ih =>
    obtain ⟨init, last, hcs, hwhole⟩ := ih
    rw [List.cons_append, List.splitOn_cons_eq_if_modifyHead, List.splitOn_cons_eq_if_modifyHead,
      hcs, hwhole]
    by_cases hc : (c == ':') = true
    · exact ⟨[] :: init, last, by simp [hc], by simp [hc]⟩
    · cases init with
      | nil => exact ⟨[], c :: last, by simp [hc], by simp [hc]⟩
      | cons piece init => exact ⟨(c :: piece) :: init, last, by simp [hc], by simp [hc]⟩

/-- A path below another one has the same entries but for the last, which is longer. -/
theorem entries_join (base : Path) {name : String} (hrelative : (Path.mk name).isAbsolute = false)
    (hname : name ≠ "") (hclean : ':' ∉ name.toList) :
    ∃ init last tail, tail ≠ "" ∧ entries base.text = init ++ [last] ∧
      entries (base.join ⟨name⟩).text = init ++ [last ++ tail] := by
  obtain ⟨tail, htail, hcolon, htext⟩ : ∃ tail, tail ≠ "" ∧ ':' ∉ tail.toList ∧
      (base.join ⟨name⟩).text = base.text ++ tail := by
    unfold Path.join
    by_cases hempty : base.text = ""
    · exact ⟨name, hname, hclean, by simp [hempty, Path.chars]⟩
    · have hchars : base.chars.isEmpty = false := by simpa [Path.chars] using hempty
      rw [hrelative, hchars]
      split
      · contradiction
      · split
        · exact ⟨name, hname, hclean, rfl⟩
        · exact ⟨"/" ++ name, by simp, by simpa using hclean, String.append_assoc⟩
  obtain ⟨init, last, hbase, hwhole⟩ := splitOn_append base.text.toList hcolon
  refine ⟨init.map String.ofList, String.ofList last, tail, htail, ?_, ?_⟩
  · rw [entries, hbase]
    simp
  · rw [entries, htext, String.toList_append, hwhole]
    simp

theorem count_entries_join_le (base : Path) {name : String}
    (hrelative : (Path.mk name).isAbsolute = false) (hname : name ≠ "")
    (hclean : ':' ∉ name.toList) :
    (entries (base.join ⟨name⟩).text).count "" ≤ (entries base.text).count "" := by
  obtain ⟨init, last, tail, htail, hbase, hjoin⟩ := entries_join base hrelative hname hclean
  have hfull : last ++ tail ≠ "" := by simp [htail]
  rw [hbase, hjoin, List.count_append, List.count_append, List.count_singleton]
  simp [hfull]

/-- A value that leads to a directory first and then where the previous value led. The only empty
entries are those of the path `base` that the directory lies below, and of the previous value. -/
structure Leads (directory base : Path) (previous : Option String) (value : String) : Prop where
  entries_eq : entries value = entries directory.text ++ given previous
  value_eq : value = String.intercalate ":" (entries directory.text ++ given previous)
  empty_le : (entries value).count "" ≤ (entries base.text).count "" + (given previous).count ""

theorem leads_prepend {directory base : Path}
    (h : (entries directory.text).count "" ≤ (entries base.text).count "")
    (previous : Option String) :
    Leads directory base previous (prepend directory.text previous) where
  entries_eq := entries_prepend directory.text previous
  value_eq := by rw [← entries_prepend, intercalate_entries]
  empty_le := by
    rw [entries_prepend, List.count_append]
    exact Nat.add_le_add_right h _

end SearchPath

def Variable.value? (vars : List Variable) (name : String) : Option String :=
  (vars.find? (·.name = name)).map Variable.value

def cargoPrograms (home : String) : Path := ((Path.mk home).join ⟨".cargo"⟩).join ⟨"bin"⟩

theorem count_cargoPrograms_le (home : String) :
    (SearchPath.entries (cargoPrograms home).text).count "" ≤ (SearchPath.entries home).count "" :=
  Nat.le_trans (SearchPath.count_entries_join_le _ (by decide) (by decide) (by decide))
    (SearchPath.count_entries_join_le ⟨home⟩ (by decide) (by decide) (by decide))

theorem nodup_names_buildVariables (archive : Path) (i : Inherited) :
    ((buildVariables archive i).map Variable.name).Nodup := by
  unfold buildVariables
  cases i.searchPath? <;> simp

theorem value_buildVariables (archive : Path) (i : Inherited) :
    let value? := Variable.value? (buildVariables archive i)
    value? "LIBTORCH" = some archive.text ∧
      value? "LD_LIBRARY_PATH" =
        some (SearchPath.prepend (archive.join ⟨"lib"⟩).text i.libraryPath) ∧
      value? "PATH" = i.searchPath? := by
  simp only [buildVariables, Variable.value?]
  cases i.searchPath? <;> simp

/-- The search paths of a build. Libraries are looked for below the archive first, and programs
below the home directory if there is one; what the caller had comes after that, entry by entry, and
without a home directory the caller's programs are left as they are. -/
theorem build_search_paths (archive : Path) (i : Inherited) :
    let vars := buildVariables archive i
    (vars.map Variable.name).Nodup ∧
      Variable.value? vars "LIBTORCH" = some archive.text ∧
      (∃ value, Variable.value? vars "LD_LIBRARY_PATH" = some value ∧
        SearchPath.Leads (archive.join ⟨"lib"⟩) archive i.libraryPath value) ∧
      match i.home.filter (· ≠ "") with
      | none => Variable.value? vars "PATH" = i.path
      | some home => ∃ value, Variable.value? vars "PATH" = some value ∧
          SearchPath.Leads (cargoPrograms home) ⟨home⟩ i.path value := by
  intro vars
  obtain ⟨harchive, hlibraries, hprograms⟩ := value_buildVariables archive i
  have below : (SearchPath.entries (archive.join ⟨"lib"⟩).text).count "" ≤
      (SearchPath.entries archive.text).count "" :=
    SearchPath.count_entries_join_le archive (by decide) (by decide) (by decide)
  refine ⟨nodup_names_buildVariables archive i, harchive,
    ⟨_, hlibraries, SearchPath.leads_prepend below _⟩, ?_⟩
  rw [hprograms]
  unfold Inherited.searchPath?
  cases i.home with
  | none => rfl
  | some home =>
    by_cases hempty : home = ""
    · subst hempty
      rfl
    · simp only [Option.filter_some, hempty, ne_eq, not_false_eq_true, decide_true, if_true,
        if_false]
      exact ⟨_, rfl, SearchPath.leads_prepend (count_cargoPrograms_le home) i.path⟩

end Provision
