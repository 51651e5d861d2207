import Mathlib.Data.List.TakeWhile
import Provision.Proofs.ExportBytes
import Provision.Proofs.ExportReading
import Provision.Proofs.SearchLists
import Provision.Shell.Run

namespace Provision
namespace Shell

def Does {α : Type} (x : Doing α) (s : State) (a : α) (after : State) : Prop :=
  x s = (.ok a, after)

namespace Does

variable {α β : Type} {s between after : State}

theorem pure (a : α) : Does (pure a) s a s := rfl

theorem bind {x : Doing α} {f : α → Doing β} {a : α} {b : β} (hx : Does x s a between)
    (hf : Does (f a) between b after) : Does (x >>= f) s b after := by
  have h : (x >>= f) s = ExceptT.bindCont f (x s).1 (x s).2 := rfl
  rw [Does, h, hx]
  exact hf

theorem congr {x : Doing α} {a : α} {other : State} (hx : Does x s a after) (h : after = other) :
    Does x s a other := h ▸ hx

theorem get : Does get s s s := rfl

theorem set : Does (set after) s () after := rfl

theorem modify (f : State → State) : Does (modify f) s () (f s) := rfl

theorem observe {x : Doing α} {a : α} (hx : Does x s a after) :
    Does (Doing.observe x) s (.ok a) after := by
  unfold Does Doing.observe
  rw [hx]

theorem ensuring {x : Doing α} {a : α} (hx : Does x s a between) (cleanup : State → State) :
    Does (Doing.ensuring x cleanup) s a (cleanup between) :=
  hx.observe.bind ((modify cleanup).bind (.pure a))

theorem forM_singleton {f : β → Doing Unit} {b : β} (hf : Does (f b) s () after) :
    Does ([b].forM f) s () after := hf.bind (.pure ())

end Does

def Piece.literal : Piece → List Glyph
  | .char c quoted => [if quoted then .quoted c else .bare c]
  | .nothing => [.mark]
  | _ => []

def Word.IsLiteral (w : Word) : Prop := ∀ p ∈ w, p = .nothing ∨ ∃ c quoted, p = .char c quoted

theorem isLiteral_exportWord : exportWord.IsLiteral := by
  intro p hp
  obtain ⟨c, -, rfl⟩ := List.mem_map.1 hp
  exact .inr ⟨c, false, rfl⟩

theorem isLiteral_quoted (value : List Char) :
    Word.IsLiteral (.nothing :: quotedWord value) := by
  intro p hp
  obtain rfl | hp := List.mem_cons.1 hp
  · exact .inl rfl
  · obtain ⟨c, -, rfl⟩ := List.mem_map.1 hp
    exact .inr ⟨c, true, rfl⟩

theorem withHomes_quoted (home : Option String) (value : List Char) :
    Word.withHomes .inValue home (.nothing :: quotedWord value) = .nothing :: quotedWord value := by
  have hsame : Word.expandTilde ['/', ':'] home (.nothing :: quotedWord value) =
      .nothing :: quotedWord value := rfl
  rw [Word.withHomes, Word.expandTildes, hsame,
    List.takeWhile_eq_self_iff.2 (by simp [quotedWord])]
  simp

theorem text_quoted (value : List Char) :
    Glyph.text (List.flatMap Piece.literal (.nothing :: quotedWord value)) =
      String.ofList value := by
  have hquoted : (quotedWord value).flatMap Piece.literal = value.map .quoted := by
    rw [quotedWord, List.flatMap_map, List.map_eq_flatMap]
    rfl
  rw [List.flatMap_cons, hquoted, Glyph.text]
  change String.ofList ((Glyph.mark :: value.map Glyph.quoted).filterMap Glyph.char?) = _
  rw [List.filterMap_cons_none rfl, List.filterMap_map]
  exact congrArg String.ofList List.filterMap_some

namespace Interpreter

variable {i : Interpreter} {w : Word}

theorem does_glyphsStep (hw : w.IsLiteral) (splits : Bool) (s : State) :
    Does (i.glyphsStep splits w) s (w.flatMap Piece.literal) s := by
  have hmap : Does (w.mapM (i.piece splits)) s (w.map Piece.literal) s := by
    induction w with
    | nil => exact .pure _
    | cons p w ih =>
      rw [List.mapM_cons]
      have hp : Does (i.piece splits p) s p.literal s := by
        obtain rfl | ⟨c, quoted, rfl⟩ := hw p (by simp) <;> exact .pure _
      exact hp.bind ((ih fun q hq => hw q (by simp [hq])).bind (.pure _))
  exact hmap.bind (.pure _)

/-- Whether an interpreter knows what words without expansions come to. -/
def Literal (i : Interpreter) : Prop :=
  ∀ w : Word, w.IsLiteral → ∀ splits s, Does (i.glyphs splits w) s (w.flatMap Piece.literal) s

theorem literal_ofDepth (start : Host.Start) (depth : Nat) : (ofDepth start (depth + 1)).Literal :=
  fun _ hw splits s => does_glyphsStep hw splits s

theorem does_tilded {t : Tilde} (hw : ∀ home, w.withHomes t home = w) (s : State) :
    Does (tilded t w) s w s := Does.get.bind (by rw [hw]; exact .pure w)

theorem does_plain (hi : i.Literal) (value : List Char) (s : State) :
    Does (i.plain .inValue (.nothing :: quotedWord value)) s (String.ofList value) s := by
  refine (does_tilded (withHomes_quoted · value) s).bind ?_
  refine (hi _ (isLiteral_quoted value) false s).bind ?_
  rw [text_quoted]
  exact .pure _

theorem does_fields (hi : i.Literal) (s : State) :
    Does (i.fields exportWord) s ["export"] s := by
  have hsplit (separators : List Char) :
      Glyph.split separators (exportWord.flatMap Piece.literal) =
        [exportWord.flatMap Piece.literal] := rfl
  have hspread : Glyph.spread s.fs (exportWord.flatMap Piece.literal) = ["export"] := rfl
  refine (does_tilded (fun home => rfl) s).bind ((hi _ isLiteral_exportWord true s).bind
    (Does.get.bind ?_))
  rw [hsplit]
  cases s.has 'f' with
  | true => exact .pure _
  | false =>
    simp only [Bool.false_eq_true, if_false, List.flatMap_singleton, hspread]
    exact .pure _

theorem does_arguments (hi : i.Literal) {name : List Char} (hn : isName name) (value : List Char)
    (s : State) :
    Does (i.arguments [exportWord, settingWord name value]) s
      ["export", String.ofList name ++ "=" ++ String.ofList value] s := by
  unfold arguments
  simp only [List.foldlM_cons, List.foldlM_nil, setting_exportWord, setting_settingWord hn value]
  refine ((does_fields hi s).bind (.pure _)).bind ?_
  rw [if_pos (by decide)]
  refine Does.bind ((does_plain hi value s).bind ?_) (.pure _)
  exact .pure _

end Interpreter

def replaceVar (v u : Var) : Var := if u.name = v.name then v else u

def placeVar (vars : List Var) (v : Var) : List Var :=
  if vars.any (·.name = v.name) then vars.map (replaceVar v) else vars ++ [v]

section Placing

variable {vars : List Var} {u v w : Var}

theorem placeVar_cons_of_eq (h : w.name = v.name) :
    placeVar (w :: vars) v = v :: vars.map (replaceVar v) := by
  simp [placeVar, replaceVar, h]

theorem placeVar_cons_of_ne (h : w.name ≠ v.name) :
    placeVar (w :: vars) v = w :: placeVar vars v := by
  unfold placeVar
  simp only [List.any_cons, h, decide_false, Bool.false_or, List.map_cons, replaceVar, if_false,
    List.cons_append]
  split <;> rfl

theorem find_map_replaceVar {name : String} (h : name ≠ v.name) :
    (vars.map (replaceVar v)).find? (·.name = name) = vars.find? (·.name = name) := by
  induction vars with
  | nil => rfl
  | cons w vars ih =>
    by_cases hw : w.name = v.name
    · simp [replaceVar, hw, h.symm, ih]
    · simp [List.find?_cons, replaceVar, hw, ih]

theorem find_placeVar (vars : List Var) (v : Var) (name : String) :
    (placeVar vars v).find? (·.name = name) =
      if name = v.name then some v else vars.find? (·.name = name) := by
  induction vars with
  | nil =>
    have hnew : placeVar [] v = [v] := rfl
    by_cases h : name = v.name
    · simp [hnew, h]
    · simp [hnew, h, Ne.symm h]
  | cons w vars ih =>
    by_cases hw : w.name = v.name
    · rw [placeVar_cons_of_eq hw]
      split
      next hn => simp [hn]
      next hn =>
        have hne : w.name ≠ name := fun h => hn (h.symm.trans hw)
        simp [Ne.symm hn, find_map_replaceVar hn, hne]
    · rw [placeVar_cons_of_ne hw]
      simp only [List.find?_cons, ih]
      split <;> simp_all

theorem placeVar_placeVar (h : u.name = v.name) :
    placeVar (placeVar vars u) v = placeVar vars v := by
  induction vars with
  | nil => simp [placeVar, h, replaceVar]
  | cons w vars ih =>
    by_cases hw : w.name = v.name
    · have hreplace : replaceVar v ∘ replaceVar u = replaceVar v := by
        funext w
        by_cases hw : w.name = v.name <;> simp [replaceVar, h, hw]
      rw [placeVar_cons_of_eq (hw.trans h.symm), placeVar_cons_of_eq h, placeVar_cons_of_eq hw,
        List.map_map, hreplace]
    · rw [placeVar_cons_of_ne (h ▸ hw), placeVar_cons_of_ne hw, placeVar_cons_of_ne hw, ih]

end Placing

namespace State

theorem putVar_eq (s : State) (v : Var) : s.putVar v = { s with vars := placeVar s.vars v } := by
  unfold putVar placeVar
  split <;> rfl

theorem var_putVar (s : State) (v : Var) (name : String) :
    (s.putVar v).var? name = if name = v.name then some v else s.var? name := by
  rw [putVar_eq]
  exact find_placeVar s.vars v name

theorem putVar_putVar {s : State} {u v : Var} (h : u.name = v.name) :
    (s.putVar u).putVar v = s.putVar v := by
  simp only [putVar_eq, placeVar_placeVar h]

end State

/-- The variable of a name, which need not be set yet. -/
def varOrNew (vars : List Var) (name : String) : Var :=
  (vars.find? (·.name = name)).getD { name, value := none }

theorem name_varOrNew (vars : List Var) (name : String) : (varOrNew vars name).name = name := by
  unfold varOrNew
  cases h : vars.find? (·.name = name) with
  | none => rfl
  | some v => simpa using List.find?_some h

def exportVar (vars : List Var) (name value : String) : List Var :=
  placeVar vars { varOrNew vars name with value := some value, exported := true }

def exportVars (vars : List Var) (pairs : List (String × String)) : List Var :=
  pairs.foldl (fun vars pair => exportVar vars pair.1 pair.2) vars

/-- Whether a variable can be set, and nothing else changes with it. -/
structure Settable (vars : List Var) (name : String) : Prop where
  isName : isName name.toList
  inert : name ≠ "OPTIND"
  free : (varOrNew vars name).fixed = false

section Exporting

variable {vars : List Var} {name other value : String}

theorem find_exportVar :
    (exportVar vars other value).find? (·.name = name) =
      if name = other then some { varOrNew vars other with value := some value, exported := true }
      else vars.find? (·.name = name) := by
  simp only [exportVar, find_placeVar, name_varOrNew]

theorem Settable.exportVar (h : Settable vars name) :
    Settable (exportVar vars other value) name := by
  refine ⟨h.isName, h.inert, ?_⟩
  rw [varOrNew, find_exportVar]
  split
  next hname => exact hname ▸ h.free
  next => exact h.free

theorem find_exportVars_of_notMem {pairs : List (String × String)}
    (h : ∀ pair ∈ pairs, pair.1 ≠ name) :
    (exportVars vars pairs).find? (·.name = name) = vars.find? (·.name = name) := by
  induction pairs generalizing vars with
  | nil => rfl
  | cons pair pairs ih =>
    obtain ⟨hpair, hpairs⟩ := List.forall_mem_cons.1 h
    exact (ih hpairs).trans (find_exportVar.trans (if_neg (Ne.symm hpair)))

theorem find_exportVars_of_mem {pairs : List (String × String)}
    (hd : (pairs.map Prod.fst).Nodup) {pair : String × String} (hp : pair ∈ pairs) :
    ∃ v, (exportVars vars pairs).find? (·.name = pair.1) = some v ∧ v.value = some pair.2 ∧
      v.exported := by
  induction pairs generalizing vars with
  | nil => cases hp
  | cons first pairs ih =>
    obtain ⟨hfirst, hd⟩ := List.nodup_cons.1 hd
    obtain rfl | hp := List.mem_cons.1 hp
    · have hne : ∀ other ∈ pairs, other.1 ≠ pair.1 := fun other ho he =>
        hfirst (List.mem_map.2 ⟨other, ho, he⟩)
      exact ⟨_, (find_exportVars_of_notMem hne).trans (find_exportVar.trans (if_pos rfl)), rfl, rfl⟩
    · exact ih hd hp

end Exporting

section Marking

variable {s : State} {name value : String} (hset : Settable s.vars name)
include hset

theorem does_changeVar (change : Var → Var) :
    Does (Doing.changeVar name change) s () (s.putVar (change (varOrNew s.vars name))) := by
  refine Does.get.bind ?_
  have hfree : ((s.var? name).getD { name, value := none }).fixed = false := hset.free
  simp only [hfree, Bool.false_eq_true, if_false]
  exact .set

theorem does_setVar :
    Does (Doing.setVar name value) s () (s.putVar { varOrNew s.vars name with
      value := some value
      exported := (varOrNew s.vars name).exported || false || s.has 'a' }) := by
  unfold Doing.setVar
  simp only [hset.isName, Bool.not_true, Bool.false_eq_true, if_false, hset.inert]
  exact Does.get.bind ((does_changeVar hset _).bind (.pure _))

omit hset in
theorem assignment_setting (hn : isName name.toList) :
    Builtin.assignment (name ++ "=" ++ value) = (name, some value) := by
  have hne : ∀ c ∈ name.toList, decide (c ≠ '=') = true := by
    intro c hc
    rw [decide_eq_true_eq]
    rintro rfl
    exact absurd (isNameChar_of_isName hn _ hc) (by decide)
  have hword : (name ++ "=" ++ value).toList = name.toList ++ '=' :: value.toList := by simp
  have htake : (name.toList ++ '=' :: value.toList).takeWhile (fun c => decide (c ≠ '=')) =
      name.toList := by
    rw [List.takeWhile_append_of_pos hne]
    simp
  have hlength : name.toList.length < (name ++ "=" ++ value).length := by
    rw [← String.length_toList, hword]
    simp
  simp only [Builtin.assignment, hword, htake, if_pos hlength]
  simp

omit hset in
theorem does_options (hn : isName name.toList) :
    Does (Builtin.options ['p'] [] [name ++ "=" ++ value]) s ([], [name ++ "=" ++ value]) s := by
  have hword : (name ++ "=" ++ value).toList = name.toList ++ '=' :: value.toList := by simp
  unfold Builtin.options
  rw [hword]
  cases hcs : name.toList with
  | nil => simp [hcs, isName] at hn
  | cons c cs =>
    have hc : c ≠ '-' := by
      rintro rfl
      rw [hcs] at hn
      simp [isName, isNameStart] at hn
    rw [List.cons_append]
    split
    next heq => exact absurd (List.cons.inj heq).1 hc
    next heq => exact absurd (List.cons.inj heq).1 hc
    next => exact .pure _

theorem does_markAll (lead value : String) :
    Does (Builtin.markAll lead (·.exported) ({ · with exported := true }) [name ++ "=" ++ value]) s
      0 { s with vars := exportVar s.vars name value } := by
  refine (does_options hset.isName).bind ((Does.forM_singleton ?_).bind (.pure 0))
  simp only [assignment_setting hset.isName, hset.isName, Bool.not_true, Bool.false_eq_true,
    if_false]
  refine (does_setVar hset).bind (Does.get.bind ?_)
  rw [State.var_putVar, if_pos (name_varOrNew s.vars name).symm, Option.getD_some]
  refine (Does.modify _).congr ((State.putVar_putVar ?_).trans (State.putVar_eq _ _))
  rfl

end Marking

/-- A shell in which nothing is in the way of a command that exports variables: it does what it
reads and does not show it, `export` means what it usually does, and no signal waits. -/
structure State.Ordinary (s : State) : Prop where
  does : s.has 'n' = false
  silent : s.has 'x' = false
  unaliased : s.aliases.lookup "export" = none
  function : s.function? "export" = none
  quiet : s.pending = []

example : State.Ordinary { fs := {} } := ⟨rfl, rfl, rfl, rfl, rfl⟩

namespace Interpreter

variable {i : Interpreter} {p : Purpose} {s : State} {name value : String}

theorem resolve_export (hs : s.Ordinary) (args : List String) :
    s.resolve true ("export" :: args) = ⟨.own "export" args, true, false⟩ := by
  have hown : Builtin.isOwn "export" = true := by simp [Builtin.isOwn, Builtin.action?]
  have hspecial : isSpecial "export" = true := by decide
  unfold State.resolve
  simp [hs.function, hown, hspecial]

theorem own_export (args : List String) :
    i.own p "export" args =
      Builtin.markAll "export" (·.exported) ({ · with exported := true }) args := by
  simp [own, Builtin.action?]

theorem does_act (hset : Settable s.vars name) :
    Does (i.act p ⟨.own "export" [name ++ "=" ++ value], true, false⟩) s ()
      { s with vars := exportVar s.vars name value, status := 0 } := by
  have hspeaking : Does (Doing.speaking "export" (i.own p "export" [name ++ "=" ++ value])) s 0
      { s with vars := exportVar s.vars name value } := by
    have hmark := does_markAll (s := { s with speaker := some "export" }) hset "export" value
    unfold Doing.speaking
    rw [own_export]
    exact Does.get.bind ((Does.modify _).bind (hmark.ensuring _))
  unfold act
  dsimp only
  exact hspeaking.observe.bind (.modify _)

theorem does_command (hs : s.Ordinary) (before : State) (args : List String)
    (hset : Settable s.vars name) :
    Does (i.command p before ⟨.own "export" [name ++ "=" ++ value], true, false⟩ [] args) s ()
      { s with vars := exportVar s.vars name value, status := 0 } := by
  have htrace : Does (trace before args) s () s := by
    refine Does.get.bind ?_
    rw [if_neg (by simp [hs.silent])]
    exact .pure _
  have hassign : Does (i.assign false false []) s [] s := .pure _
  unfold command
  dsimp only
  rw [if_pos rfl]
  exact hassign.bind (htrace.bind (does_act hset))

theorem does_redirected {x : Doing Unit} {after : State} (hx : Does x s () after) :
    Does (i.redirected [] x) s true after := by
  have hredirect : Does (redirect []) s () s := .pure _
  unfold redirected
  refine Does.bind (.pure _) (Does.get.bind (hredirect.observe.bind ?_))
  exact (hx.ensuring _).bind (.pure _)

theorem does_simple (hs : s.Ordinary) (hi : i.Literal) (hset : Settable s.vars name)
    (value : List Char) :
    Does (i.simple p [] [exportWord, settingWord name.toList value] []) s ()
      { s with
        vars := exportVar s.vars name (String.ofList value)
        status := 0
        outputStatus := 0 } := by
  have hs' : State.Ordinary { s with outputStatus := 0 } := ⟨hs.1, hs.2, hs.3, hs.4, hs.5⟩
  have hargs := does_arguments hi hset.isName value { s with outputStatus := 0 }
  rw [String.ofList_toList] at hargs
  refine (Does.modify _).bind (hargs.bind (Does.get.bind ?_))
  simp only [List.isEmpty_cons, Bool.false_eq_true, if_false, resolve_export hs']
  refine (does_redirected (does_command hs' _ _ hset)).bind ?_
  exact .pure _

theorem does_check (hs : s.status = 0) : Does (check p) s () s := by
  refine Does.get.bind ?_
  rw [if_neg (by simp [hs])]
  exact .pure _

theorem does_heed (hs : s.pending = []) : Does i.heed s () s := by
  refine Does.get.bind ?_
  rw [if_neg (by simp [hs])]
  exact .pure _

theorem does_runStep (hs : s.Ordinary) (hi : i.Literal) (hset : Settable s.vars name) (line : Nat)
    (value : List Char) :
    Does (i.runStep p (.simple line [] [exportWord, settingWord name.toList value] [])) s ()
      { s with
        vars := exportVar s.vars name (String.ofList value)
        status := 0
        outputStatus := 0
        line } := by
  have hs' : State.Ordinary { s with line } := ⟨hs.1, hs.2, hs.3, hs.4, hs.5⟩
  unfold runStep
  refine Does.get.bind ?_
  rw [hs.does]
  exact (Does.modify _).bind ((does_simple hs' hi hset value).bind
    ((does_check rfl).bind (does_heed hs.quiet)))

theorem does_display (cs : List Char) (s : State) : Does (display false cs) s () s :=
  Does.get.bind (.pure _)

/-- A reading in which nothing is in the way of the next line is so for a shell that goes on. -/
theorem clear_before {r : Reading} (hs : s.Ordinary) (hr : r.standing = [] ∧ r.awaited = []) :
    Reading.Clear { r with
      nextDocument := s.nextDocument, documents := [], aliases := s.aliases } :=
  ⟨hr.1, hr.2, hs.unaliased⟩

/-- The lines that make settings export the variables one after the other. The induction is on the
settings: each takes the next line of the text. -/
theorem does_lines (start : Host.Start) (depth : Nat) (p : Purpose)
    {pairs : List (String × String)} {fuel n : Nat} {r : Reading} {s : State} (done : Bool)
    (hs : s.Ordinary) (hp : settings? fuel r.rest = some pairs) (hn : pairs.length < n)
    (hr : r.standing = [] ∧ r.awaited = []) (hd : done → s.status = 0)
    (hset : ∀ pair ∈ pairs, Settable s.vars pair.1) :
    ∃ line readTo outputStatus,
      Does (lines (ofDepth start (depth + 2)) p false n done r) s ()
        { s with vars := exportVars s.vars pairs, status := 0, line, readTo, outputStatus } := by
  induction pairs generalizing fuel n r s done with
  | nil =>
    obtain ⟨n, rfl⟩ := Nat.exists_eq_add_one.2 (Nat.lt_of_le_of_lt (Nat.zero_le _) hn)
    obtain ⟨line, hrun⟩ := run_nextLine_end (clear_before hs hr) (settings_nil hp)
    refine ⟨s.line, line, s.outputStatus, ?_⟩
    unfold lines
    refine Does.get.bind ?_
    simp only [hrun]
    refine (does_display _ _).bind ((Does.modify _).bind ?_)
    cases done with
    | true =>
      rw [← hd rfl]
      exact .pure ()
    | false => exact Does.modify _
  | cons pair pairs ih =>
    obtain ⟨n, rfl⟩ := Nat.exists_eq_add_one.2 (Nat.lt_of_le_of_lt (Nat.zero_le _) hn)
    obtain ⟨less, quoted, value, behind, rest, -, hname, hcs, hu, hb, hvalue, hmore⟩ :=
      settings_cons hp
    obtain ⟨place, line, hrun⟩ := run_nextLine (clear_before hs hr) hname hcs hu hb
    obtain ⟨hpair, hpairs⟩ := List.forall_mem_cons.1 hset
    let after : State :=
      { s with
        vars := exportVar s.vars pair.1 pair.2
        status := 0
        outputStatus := 0
        line := place
        readTo := line }
    have hdo (p : Purpose) : Does ((ofDepth start (depth + 2)).run p
        (.simple place [] [exportWord, settingWord pair.1.toList value] []))
        { s with readTo := line } () after := by
      simp only [after, hvalue]
      exact does_runStep (s := { s with readTo := line }) ⟨hs.1, hs.2, hs.3, hs.4, hs.5⟩
        (literal_ofDepth start depth) hpair place value
    obtain ⟨line', readTo, outputStatus, hrest⟩ := ih (s := after) (n := n)
      (r := { r with
        nextDocument := s.nextDocument, documents := [], aliases := s.aliases
        pushed := leftOver behind, rest := rest, line := line }) true
      ⟨hs.1, hs.2, hs.3, hs.4, hs.5⟩ hmore (Nat.lt_of_succ_lt_succ hn) hr (fun _ => rfl)
      (fun other ho => (hpairs other ho).exportVar)
    refine ⟨line', readTo, outputStatus, ?_⟩
    unfold lines
    refine Does.get.bind ?_
    simp only [hrun]
    exact (does_display _ _).bind ((Does.modify _).bind ((hdo _).bind hrest))

/-- A text that makes settings exports the variables, and nothing but them changes with it. -/
theorem does_text (start : Host.Start) (depth : Nat) (p : Purpose) {text : String}
    {pairs : List (String × String)} {s : State} (hs : s.Ordinary)
    (hp : onlySettings? text = some pairs) (hset : ∀ pair ∈ pairs, Settable s.vars pair.1) :
    ∃ line outputStatus, Does ((ofDepth start (depth + 2)).text p text) s ()
      { s with vars := exportVars s.vars pairs, status := 0, line, outputStatus } := by
  have hlength := length_settings hp
  obtain ⟨line, readTo, outputStatus, hlines⟩ := does_lines start depth p
    (n := text.length + 2) (r := { rest := text.toList }) false hs hp (by omega) ⟨rfl, rfl⟩
    (by simp) hset
  exact ⟨line, outputStatus, Does.get.bind (hlines.ensuring _)⟩

end Interpreter

/-- Whether a text that an ordinary shell does exports the variables of some pairs with their
values, as long as none of them is fixed, and does nothing else: no file and no other variable
changes, and nothing is written or started. -/
def ExportsOnly (text : String) (pairs : List (String × String)) : Prop :=
  ∀ (start : Host.Start) (depth : Nat) (p : Purpose) (s : State), s.Ordinary →
    (∀ pair ∈ pairs, ∀ v, s.var? pair.1 = some v → v.fixed = false) →
    ∃ vars line outputStatus,
      let after := { s with vars, status := 0, line, outputStatus }
      Does ((Interpreter.ofDepth start (depth + 2)).text p text) s () after ∧
      (∀ pair ∈ pairs, ∃ v, after.var? pair.1 = some v ∧ v.value = some pair.2 ∧ v.exported) ∧
      ∀ name, (∀ pair ∈ pairs, pair.1 ≠ name) → after.var? name = s.var? name

/-- A text that makes settings by the rules of double quotes exports their variables when a shell
does it. -/
theorem exportsOnly_of_settings {text : String} {pairs : List (String × String)}
    (hp : onlySettings? text = some pairs) (hd : (pairs.map Prod.fst).Nodup)
    (hi : ∀ pair ∈ pairs, pair.1 ≠ "OPTIND") : ExportsOnly text pairs := by
  intro start depth p s hs hfree
  have hset : ∀ pair ∈ pairs, Settable s.vars pair.1 := by
    intro pair hmem
    refine ⟨isName_of_mem_settings hp hmem, hi pair hmem, ?_⟩
    unfold varOrNew
    cases hv : s.vars.find? (·.name = pair.1) with
    | none => rfl
    | some v => exact hfree pair hmem v hv
  obtain ⟨line, outputStatus, hdo⟩ := Interpreter.does_text start depth p hs hp hset
  exact ⟨_, line, outputStatus, hdo, fun pair hmem => find_exportVars_of_mem hd hmem,
    fun name hname => find_exportVars_of_notMem hname⟩

end Shell

open Shell

/-- What is printed for a build, with the end of its last line or without it. By the rules of double
quotes it sets what the build sets and does nothing else just if every value is plain; and then a
shell that does it exports these variables and does nothing else. -/
theorem exports_mean_build_variables (archive : Path) (i : Inherited) {text : String}
    (ht : text = (Reply.exports (buildVariables archive i)).text ∨
      text ++ "\n" = (Reply.exports (buildVariables archive i)).text) :
    (onlySettings? text = some ((buildVariables archive i).map Variable.pair) ↔
      ∀ v ∈ buildVariables archive i, isPlain v.value.toList) ∧
    ((∀ v ∈ buildVariables archive i, isPlain v.value.toList) →
      ExportsOnly (Octets.ofText text) ((buildVariables archive i).map (·.octets.pair))) := by
  have hexports : Variable.IsExportText (buildVariables archive i) text.toList := by
    obtain rfl | ht := ht
    · exact Variable.isExportText_printed _
    · exact Variable.isExportText_unended (by rw [← ht]; simp)
  have hnames : ∀ v ∈ buildVariables archive i, isName v.name.toList := fun v hv =>
    isName_of_mem_buildVariables hv
  refine ⟨Variable.onlySettings_exports_iff hnames hexports, fun hplain => ?_⟩
  have hoctets : onlySettings? (Octets.ofText text) =
      some (((buildVariables archive i).map Variable.octets).map Variable.pair) := by
    have hsame : ∀ v ∈ (buildVariables archive i).map Variable.octets, isName v.name.toList :=
      List.forall_mem_map.2 hnames
    refine (Variable.onlySettings_exports_iff hsame ?_).2 (List.forall_mem_map.2 fun v hv => ?_)
    · rw [Octets.toList_ofText]
      exact Variable.isExportText_octets hnames hexports
    · rw [Variable.octets, Octets.toList_ofText]
      exact isPlain_octets (hplain v hv)
  rw [List.map_map] at hoctets
  refine exportsOnly_of_settings hoctets ?_ (List.forall_mem_map.2 fun v hv => ?_)
  · rw [List.map_map]
    exact nodup_names_buildVariables archive i
  · have hinert : ∀ n ∈ ["LIBTORCH", "LD_LIBRARY_PATH", "PATH"], n ≠ "OPTIND" := by decide
    exact hinert v.name (name_mem_of_mem_buildVariables hv)

theorem plain_build_exported :
    let vars := buildVariables ⟨"/work/libtorch"⟩
      { home := some "/home/dev", libraryPath := some "/opt/lib", path := some "/usr/bin" }
    let pairs := [("LIBTORCH", "/work/libtorch"),
      ("LD_LIBRARY_PATH", "/work/libtorch/lib:/opt/lib"), ("PATH", "/home/dev/.cargo/bin:/usr/bin")]
    onlySettings? (Reply.exports vars).text = some pairs ∧
      ExportsOnly (Octets.ofText (Reply.exports vars).text) pairs := by
  intro vars pairs
  have hplain : ∀ v ∈ vars, isPlain v.value.toList := by decide
  have hmean := exports_mean_build_variables ⟨"/work/libtorch"⟩
    { home := some "/home/dev", libraryPath := some "/opt/lib", path := some "/usr/bin" } (.inl rfl)
  have hoctets : vars.map (·.octets.pair) = pairs := by decide +kernel
  exact ⟨hmean.1.2 hplain, hoctets ▸ hmean.2 hplain⟩

/-- A value with two backslashes in a row loses one of them, and what stands between backquotes in a
value is done as a command. -/
theorem unplain_exports_differ :
    let after (archive : Path) : State :=
      ((Interpreter.ofDepth (fun _ _ => .error .noEntry) 8).text {}
        (Reply.exports (buildVariables archive {})).text : Doing Unit) { fs := {} } |>.2
    (buildVariables ⟨"/opt/a\\\\b"⟩ {}).map Variable.pair =
      [("LIBTORCH", "/opt/a\\\\b"), ("LD_LIBRARY_PATH", "/opt/a\\\\b/lib")] ∧
    (after ⟨"/opt/a\\\\b"⟩).value? "LIBTORCH" = some "/opt/a\\b" ∧
    (after ⟨"/opt/a\\\\b"⟩).value? "LD_LIBRARY_PATH" = some "/opt/a\\b/lib" ∧
    (after ⟨"/opt/\x60echo x >&2\x60"⟩).value? "LIBTORCH" = some "/opt/" ∧
    (after ⟨"/opt/\x60echo x >&2\x60"⟩).gathered 2 = ['x', '\n', 'x', '\n'] := by
  decide +kernel

end Provision
