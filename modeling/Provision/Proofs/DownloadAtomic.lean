import Provision.Proofs.Calls
import Provision.Proofs.Files
import Provision.Download

namespace Provision

def Transfer.whole? : Transfer → Option ByteArray
  | .body pieces none => some (pieces.foldl (· ++ ·) .empty)
  | _ => none

namespace FileSystem

def nameSpot (fs : FileSystem) (p : Path) : List Location :=
  match fs.slot p with
  | .ok s => s.location?.toList
  | .error _ => []

/-- Nothing has a path's last name, not even a link. -/
def Missing (fs : FileSystem) (p : Path) : Prop := fs.findUnfollowed p = .error .noEntry

theorem nameSpot_of_slot {fs : FileSystem} {p : Path} {s : Slot} {l : Location}
    (hs : fs.slot p = .ok s) (hl : s.location? = some l) : fs.nameSpot p = [l] := by
  simp [nameSpot, hs, hl]

end FileSystem

namespace Download

open FileSystem (Missing)

variable {fs fs' : FileSystem} {target : Path} {l : Location} {got : ByteArray}
  {states : List FileSystem} {whole? : Option ByteArray}

/-- How a download treats its target, when `whole?` is all of the body: at every moment the target
holds what it held at first or all of the body, and nothing but the target and the temporary file
is touched. In the end the target holds the body exactly if the download succeeded. -/
structure Atomic (fs : FileSystem) (target : Path) (whole? : Option ByteArray) (t : Trail) :
    Prop where
  confined : ∀ st ∈ t.states,
    FileSystem.AgreesOutside (fs.nameSpot target ++ fs.nameSpot (partOf target)) fs st
  whole : ∀ st ∈ t.states, st.held? target = fs.held? target ∨
    ∃ body executable, whole? = some body ∧ st.held? target = some (.file body executable)
  success : t.result = .ok () → (∃ body executable, whole? = some body ∧
    (t.last fs).held? target = some (.file body executable)) ∧
      (t.last fs).Missing (partOf target)
  failure : ∀ reason, t.result = .error reason → (t.last fs).held? target = fs.held? target

/-- What is known of a download's paths: neither is a link, and `l` is where the temporary file
goes, which is not where the target is. -/
structure Beside (fs : FileSystem) (target : Path) (l : Location) : Prop where
  target_start : fs.Grounded (fs.startOf target.text)
  target_no_link : ¬ fs.LinkAt target
  target_apart : ∀ s, fs.slot target = .ok s → s.location? ≠ some l
  part_start : fs.Grounded (fs.startOf (partOf target).text)
  part_no_link : ¬ fs.LinkAt (partOf target)
  part_slot : ∃ front d n, FileSystem.cutLast (FileSystem.stepsOf (partOf target).text) =
      (front, .name n, false) ∧
    fs.slot (partOf target) = .ok ⟨d, .name n, false⟩ ∧ l = d ++ [n]

/-- The temporary file has what came of the body so far, and nothing else has changed. -/
structure Receiving (fs : FileSystem) (l : Location) (got : ByteArray) (st : FileSystem) : Prop
    where
  differs : FileSystem.FilesDiffer [l] fs st
  holds : ∃ executable, st.entry? l = some (.file got executable)

/-- Where a change of the temporary file goes, while nothing but that file has changed. -/
theorem modify_part {st st' : FileSystem} {content : ByteArray → ByteArray}
    (paths : Beside fs target l) (h : FileSystem.FilesDiffer [l] fs st)
    (hst : st.modify (partOf target) content = .ok st') :
    Receiving fs l (content (st.contentAt l)) st' := by
  obtain ⟨front, d, n, hcut, hslot, rfl⟩ := paths.part_slot
  have root : st.Grounded (st.startOf (partOf target).text) := by
    rw [h.start]
    exact h.grounded paths.part_start
  have nolink : ¬ st.LinkAt (partOf target) := fun hlink =>
    paths.part_no_link (h.symm.linkAt hlink)
  obtain ⟨d', executable, hslot', _, rfl⟩ := FileSystem.modify_eq_ok root nolink hcut hst
  rw [h.slot hslot] at hslot'
  cases hslot'
  have hne : d ++ [n] ≠ [] := by simp
  exact ⟨h.put List.mem_cons_self hne _ _, executable, FileSystem.entry_put_self st _ hne⟩

theorem append_part {st st' : FileSystem} {piece : ByteArray} (paths : Beside fs target l)
    (h : Receiving fs l got st) (hst : st.append (partOf target) piece = .ok st') :
    Receiving fs l (got ++ piece) st' := by
  obtain ⟨executable, hgot⟩ := h.holds
  have hcontent : st.contentAt l = got := by
    rw [FileSystem.contentAt, hgot]
  have received := modify_part paths h.differs hst
  rw [hcontent] at received
  exact received

/-- The target holds what it held, whatever becomes of the temporary file. -/
theorem held_target {st : FileSystem} (paths : Beside fs target l)
    (h : FileSystem.FilesDiffer [l] fs st) : st.held? target = fs.held? target := by
  have elsewhere {st : FileSystem} (h : FileSystem.FilesDiffer [l] fs st) :
      ∀ m e, st.find target = .ok (m, e) → m ∉ [l] := by
    intro m e hf hmem
    obtain rfl := List.mem_singleton.mp hmem
    have root : st.Grounded (st.startOf target.text) := by
      rw [h.start]
      exact h.grounded paths.target_start
    have nolink : ¬ st.LinkAt target := fun hlink => paths.target_no_link (h.symm.linkAt hlink)
    rcases FileSystem.leads_to_own root nolink hf with rfl | ⟨s, hs, hl⟩
    · exact FileSystem.not_plain_of_directory (FileSystem.find_eq_ok.mp hf).2
        (h.plain_after _ List.mem_cons_self)
    · exact paths.target_apart s (h.symm.slot hs) hl
  exact h.held (elsewhere (.refl h.plain)) (elsewhere h)

theorem part_slot (paths : Beside fs target l) :
    ∃ s, fs.slot (partOf target) = .ok s ∧ s.location? = some l ∧ s.slashed = false := by
  obtain ⟨_, d, n, _, hslot, rfl⟩ := paths.part_slot
  exact ⟨_, hslot, rfl, rfl⟩

theorem missing_part {st : FileSystem} (paths : Beside fs target l)
    (hslot : ∀ s, fs.slot (partOf target) = .ok s → st.slot (partOf target) = .ok s)
    (hgone : st.entry? l = none) : st.Missing (partOf target) := by
  obtain ⟨s, hs, hl, hslash⟩ := part_slot paths
  rw [Missing, FileSystem.findUnfollowed_slot (hslot s hs) hl hslash, hgone]

/-- A temporary file can always be removed, which leaves all as it was but for that file. -/
theorem remove_part {st : FileSystem} (paths : Beside fs target l) (h : Receiving fs l got st) :
    st.removeFile (partOf target) = .ok (st.erase l) ∧
      FileSystem.FilesDiffer [l] fs (st.erase l) ∧ (st.erase l).Missing (partOf target) := by
  obtain ⟨s, hs, hl, hslash⟩ := part_slot paths
  obtain ⟨executable, he⟩ := h.holds
  have hne := FileSystem.Slot.location_ne hl
  have erased := h.differs.erase List.mem_cons_self hne
  refine ⟨?_, erased, missing_part paths (fun s hs => erased.slot hs) ?_⟩
  · exact FileSystem.removeFile_eq_ok.mpr
      ⟨s, l, _, h.differs.slot hs, hl, he, by simp, hslash, rfl⟩
  · rw [FileSystem.entry_erase st hne, if_pos rfl]

theorem rename_part {st st' : FileSystem} (paths : Beside fs target l)
    (h : Receiving fs l got st) (hst : st.rename (partOf target) target = .ok st') :
    FileSystem.AgreesOutside (fs.nameSpot target ++ fs.nameSpot (partOf target)) fs st' ∧
      (∃ executable, st'.held? target = some (.file got executable)) ∧
      st'.Missing (partOf target) := by
  obtain ⟨s, t, m, l', e, hs, ht, hm, hl', hslash, he, -, hdir, rfl⟩ :=
    FileSystem.rename_eq_ok hst
  obtain ⟨s', hs', hl, -⟩ := part_slot paths
  have hsame := h.differs.slot hs'
  rw [hs] at hsame
  cases hsame
  rw [hl] at hm
  cases hm
  obtain ⟨executable, hgot⟩ := h.holds
  rw [hgot] at he
  cases he
  have ht' := h.differs.symm.slot ht
  have hne : l ≠ l' := by
    rintro rfl
    exact paths.target_apart t ht' hl'
  rw [if_neg hne]
  have hl₀ := FileSystem.Slot.location_ne hl
  have hl₀' := FileSystem.Slot.location_ne hl'
  -- only files can stand at the two places, so both paths keep their slots
  have plain : st.Plain l' := by
    intro e he
    cases e with
    | directory => exact absurd he hdir
    | file content executable => exact ⟨content, executable, rfl⟩
    | link target' =>
      refine absurd (h.differs.symm.linkAt ⟨l', target', ?_⟩) paths.target_no_link
      rw [FileSystem.findUnfollowed_slot ht hl' hslash, he]
  have moved : FileSystem.FilesDiffer [l, l'] st ((st.erase l).put l' (.file got executable)) := by
    refine FileSystem.FilesDiffer.put (.erase (.refl ?_) (by simp) hl₀) (by simp) hl₀' _ _
    intro m hm
    rcases List.mem_cons.mp hm with rfl | hm
    · exact FileSystem.plain_of_file hgot
    · rw [List.mem_singleton.mp hm]
      exact plain
  refine ⟨⟨?_, ?_⟩, ⟨executable, ?_⟩, ?_⟩
  · exact moved.cwd_eq.trans h.differs.cwd_eq
  · intro m hm
    rw [FileSystem.nameSpot_of_slot ht' hl', FileSystem.nameSpot_of_slot hs' hl] at hm
    rw [moved.entry_eq m (by simpa [and_comm] using hm)]
    exact h.differs.entry_eq m fun hmem => hm (List.mem_append_right _ hmem)
  · exact FileSystem.held_of_find (FileSystem.find_of_slot (moved.slot ht) hl' hslash
      (FileSystem.entry_put_self _ _ hl₀'))
  · refine missing_part paths (fun s hs => moved.slot (h.differs.slot hs)) ?_
    rw [FileSystem.entry_put _ _ hne, FileSystem.entry_erase st hl₀, if_pos rfl]

theorem confined_part {st : FileSystem} (paths : Beside fs target l)
    (h : FileSystem.FilesDiffer [l] fs st) :
    FileSystem.AgreesOutside (fs.nameSpot target ++ fs.nameSpot (partOf target)) fs st := by
  obtain ⟨s, hs, hl, -⟩ := part_slot paths
  refine ⟨h.cwd_eq, fun m hm => h.entry_eq m fun hmem => hm ?_⟩
  rw [FileSystem.nameSpot_of_slot hs hl]
  exact List.mem_append_right _ hmem

/-- A download that is given up on its way leaves the target as it was and no temporary file. -/
theorem abandon_atomic {st : FileSystem} (paths : Beside fs target l) (h : Receiving fs l got st)
    (hstates : ∀ st ∈ states, FileSystem.FilesDiffer [l] fs st) (reason : String) :
    Atomic fs target whole? (abandon target reason st states) ∧
      ((abandon target reason st states).last fs).Missing (partOf target) := by
  obtain ⟨hremove, erased, missing⟩ := remove_part paths h
  have hall : ∀ st' ∈ st.erase l :: states, FileSystem.FilesDiffer [l] fs st' := by
    intro st' hmem
    rcases List.mem_cons.mp hmem with rfl | hmem
    · exact erased
    · exact hstates st' hmem
  unfold abandon
  generalize st.removeFile (partOf target) = removed at hremove ⊢
  subst hremove
  refine ⟨⟨?_, ?_, ?_, ?_⟩, missing⟩
  · intro st' hmem
    exact confined_part paths (hall st' hmem)
  · intro st' hmem
    exact .inl (held_target paths (hall st' hmem))
  · intro hok
    cases hok
  · intro _ _
    exact held_target paths erased

theorem settle_atomic {st : FileSystem} (paths : Beside fs target l) (h : Receiving fs l got st)
    (hstates : ∀ st ∈ states, FileSystem.FilesDiffer [l] fs st) (hwhole : whole? = some got) :
    Atomic fs target whole? (settle target st states) ∧
      ((settle target st states).last fs).Missing (partOf target) := by
  unfold settle
  cases hrename : st.rename (partOf target) target with
  | error e => exact abandon_atomic paths h hstates e.message
  | ok st' =>
    obtain ⟨confined, ⟨executable, held⟩, missing⟩ := rename_part paths h hrename
    refine ⟨⟨?_, ?_, fun _ => ⟨⟨got, executable, hwhole, held⟩, missing⟩, ?_⟩, missing⟩
    · intro st'' hmem
      rcases List.mem_cons.mp hmem with rfl | hmem
      · exact confined
      · exact confined_part paths (hstates st'' hmem)
    · intro st'' hmem
      rcases List.mem_cons.mp hmem with rfl | hmem
      · exact .inr ⟨got, executable, hwhole, held⟩
      · exact .inl (held_target paths (hstates st'' hmem))
    · intro reason herror
      cases herror

/-- From the first piece to the end: each piece adds to the temporary file only, so that it has the
whole body when all have come. -/
theorem receive_atomic {st : FileSystem} {broken : Option String} {pieces : List ByteArray}
    (paths : Beside fs target l) (h : Receiving fs l got st)
    (hstates : ∀ st ∈ states, FileSystem.FilesDiffer [l] fs st)
    (hwhole : broken = none → whole? = some (pieces.foldl (· ++ ·) got)) :
    Atomic fs target whole? (receive target broken pieces st states) ∧
      ((receive target broken pieces st states).last fs).Missing (partOf target) := by
  induction pieces generalizing st got states with
  | nil =>
    cases broken with
    | some reason => exact abandon_atomic paths h hstates reason
    | none => exact settle_atomic paths h hstates (hwhole rfl)
  | cons piece rest ih =>
    unfold receive
    cases happend : st.append (partOf target) piece with
    | error e => exact abandon_atomic paths h hstates e.message
    | ok st' =>
      have received := append_part paths h happend
      refine ih received ?_ hwhole
      intro st'' hmem
      rcases List.mem_cons.mp hmem with rfl | hmem
      · exact received.differs
      · exact hstates st'' hmem

theorem untouched_atomic (fs : FileSystem) (target : Path) (whole? : Option ByteArray)
    (reason : String) : Atomic fs target whole? ⟨.error reason, []⟩ where
  confined := by simp
  whole := by simp
  success := by simp
  failure := fun _ _ => rfl

/-- The temporary file of a download to a zip is a name in a directory, and never the zip. -/
theorem part_named {name : String} (hname : target.fileName? = some name)
    (hzip : ".zip".toList <:+ name.toList) :
    (∃ front n, FileSystem.cutLast (FileSystem.stepsOf (partOf target).text) =
        (front, .name n, false) ∧
      ∀ (fs : FileSystem) s d, fs.slot target = .ok s → s.location? ≠ some (d ++ [n])) ∧
    FileSystem.isRooted (partOf target).text = FileSystem.isRooted target.text := by
  have hclean : '/' ∉ "part".toList := by decide
  obtain ⟨front, back, named, hpieces⟩ := Path.segments_withExtension hname hclean
  refine ⟨⟨front.map String.ofList,
    String.ofList (Path.stem name.toList ++ '.' :: "part".toList), ?_, ?_⟩, ?_⟩
  · have hsteps : FileSystem.stepsOf (partOf target).text = front.map String.ofList ++
        [String.ofList (Path.stem name.toList ++ '.' :: "part".toList)] := by
      rw [FileSystem.stepsOf, partOf]
      rw [Path.chars] at hpieces
      rw [hpieces, List.map_append]
      rfl
    have hlen : 5 ≤ (Path.stem name.toList ++ '.' :: "part".toList).length := by
      simp
    have hne (t : String) (ht : t.toList.length < 5) :
        String.ofList (Path.stem name.toList ++ '.' :: "part".toList) ≠ t := by
      rintro rfl
      rw [String.toList_ofList] at ht
      omega
    rw [hsteps]
    exact FileSystem.cutLast_concat _ (hne "" (by decide)) (hne "." (by decide))
      (hne ".." (by decide))
  · intro fs s d hs hl
    -- the two names end in different letters
    have hlast := FileSystem.slot_named named hs hl
    obtain ⟨base, hbase⟩ := hzip
    rw [List.getLast?_concat, Option.some.injEq, ← String.toList_inj, String.toList_ofList,
      String.toList_ofList, ← hbase] at hlast
    have hends := congrArg List.getLast? hlast
    simp at hends
  · exact Path.isAbsolute_withExtension hname hclean

/-- Downloads are atomic. To a path with a name that ends in `.zip`, where neither the path nor that
of the temporary file is a link, a download is atomic whatever comes of the request. Unless no body
came or the temporary file could not be made, in which case nothing was changed at all, there is no
temporary file in the end. This holds where every file has one name: if the temporary file were the
target under another name, filling it would fill the target. -/
theorem fetch_atomic {σ : Type} (network : Network) (url : String) {target : Path} {name : String}
    (site : Site σ) (hname : target.fileName? = some name) (hzip : ".zip".toList <:+ name.toList)
    (hstart : site.fs.Grounded (site.fs.startOf target.text)) (htarget : ¬ site.fs.LinkAt target)
    (hpart : ¬ site.fs.LinkAt (partOf target)) :
    let t := trail site.fs target (network url)
    (Fetcher.web network).fetch url target site =
        (t.result.mapError (.download url), { site with fs := t.last site.fs }) ∧
      Atomic site.fs target (network url).whole? t ∧
      (((∃ reason, network url = .refused reason) ∨
          ∃ e, site.fs.write (partOf target) .empty = .error e) →
        t.states = [] ∧ ∃ reason, t.result = .error reason) ∧
      ((¬ ∃ reason, network url = .refused reason) →
        (∃ fs', site.fs.write (partOf target) .empty = .ok fs') →
          (t.last site.fs).Missing (partOf target)) := by
  intro t
  refine ⟨rfl, ?_⟩
  obtain ⟨⟨front, n, hcut, hapart⟩, hrooted⟩ := part_named hname hzip
  have hpartstart : site.fs.Grounded (site.fs.startOf (partOf target).text) := by
    rw [FileSystem.startOf, hrooted]
    exact hstart
  simp only [t]
  generalize network url = answer
  cases answer with
  | refused reason =>
    refine ⟨untouched_atomic site.fs target _ reason, ?_, ?_⟩
    · intro _
      exact ⟨rfl, reason, rfl⟩
    · intro hbody
      exact absurd ⟨reason, rfl⟩ hbody
  | body pieces broken =>
    unfold trail
    cases hwrite : site.fs.write (partOf target) .empty with
    | error e =>
      refine ⟨untouched_atomic site.fs target _ e.message, ?_, ?_⟩
      · intro _
        exact ⟨rfl, e.message, rfl⟩
      · rintro _ ⟨fs', hcreated⟩
        cases hcreated
    | ok fs' =>
      -- the first write shows where the temporary file is, and all later steps keep to that place
      obtain ⟨d, _, hslot, hplain, -⟩ := FileSystem.modify_eq_ok hpartstart hpart hcut hwrite
      have paths : Beside site.fs target (d ++ [n]) :=
        ⟨hstart, htarget, fun s hs => hapart site.fs s d hs, hpartstart, hpart, front, d, n, hcut,
          hslot, rfl⟩
      have created : Receiving site.fs (d ++ [n]) .empty fs' :=
        modify_part paths (.refl (by simpa using hplain)) hwrite
      have hwhole : broken = none → (Transfer.body pieces broken).whole? =
          some (pieces.foldl (· ++ ·) .empty) := by
        rintro rfl
        rfl
      obtain ⟨atomic, missing⟩ := receive_atomic paths created
        (fun st hmem => List.mem_singleton.mp hmem ▸ created.differs) hwhole
      refine ⟨atomic, ?_, fun _ _ => missing⟩
      rintro (⟨reason, hrefused⟩ | ⟨e, herror⟩)
      · cases hrefused
      · cases herror

def twoPieces : Network := fun _ => .body [⟨#[80, 75]⟩, ⟨#[3, 4]⟩] none

def olderZip : FileSystem where
  entries := [(["w"], .directory), (["w", "libtorch.zip"], .file ⟨#[0]⟩ false)]

/-- The older zip is replaced by the new one as a whole. -/
theorem fetch_atomic_replaced :
    let target : Path := ⟨"/w/libtorch.zip"⟩
    let t := trail olderZip target (twoPieces "http://host/libtorch.zip")
    target.fileName? = some "libtorch.zip" ∧ ".zip".toList <:+ "libtorch.zip".toList ∧
      olderZip.Grounded (olderZip.startOf target.text) ∧ ¬ olderZip.LinkAt target ∧
      ¬ olderZip.LinkAt (partOf target) ∧ t.states.length = 4 ∧ t.result = .ok () ∧
      Atomic olderZip target (some ⟨#[80, 75, 3, 4]⟩) t ∧
      (t.last olderZip).Missing (partOf target) := by
  intro target t
  have hname : target.fileName? = some "libtorch.zip" := by decide +kernel
  have hzip : ".zip".toList <:+ "libtorch.zip".toList := by decide +kernel
  have hstart := FileSystem.grounded_start olderZip (p := target) (by decide +kernel)
  have htarget : ¬ olderZip.LinkAt target := by
    rintro ⟨l, link, h⟩
    have hfile : olderZip.findUnfollowed target =
        .ok (["w", "libtorch.zip"], .file ⟨#[0]⟩ false) := by decide +kernel
    rw [hfile] at h
    cases h
  have hpart : ¬ olderZip.LinkAt (partOf target) := by
    rintro ⟨l, link, h⟩
    have hmissing : olderZip.findUnfollowed (partOf target) = .error .noEntry := by decide +kernel
    rw [hmissing] at h
    cases h
  have hcreated : (olderZip.write (partOf target) .empty).isOk = true := by decide +kernel
  obtain ⟨-, atomic, -, missing⟩ := fetch_atomic twoPieces "http://host/libtorch.zip"
    ⟨olderZip, ()⟩ hname hzip hstart htarget hpart
  refine ⟨hname, hzip, hstart, htarget, hpart, by decide +kernel, by decide +kernel, ?_,
    missing (by simp [twoPieces]) ?_⟩
  · exact atomic
  · cases hwrite : olderZip.write (partOf target) .empty with
    | ok fs' => exact ⟨fs', rfl⟩
    | error e =>
      rw [hwrite] at hcreated
      cases hcreated

end Download
end Provision
