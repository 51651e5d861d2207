import Mathlib.Data.List.Pairwise
import Provision.CommandLine.Invocation

namespace Provision
namespace CommandLine

/-- An option as it is written in one word. -/
inductive Offered
  | flag (f : Flag)
  | setting (s : Setting) (value : String)
  | verbose
deriving DecidableEq

namespace Offered

def meaning : Offered → Meaning
  | flag f => .flag f
  | setting s _ => .setting s
  | verbose => .verbose

def word : Offered → String
  | flag f => "--" ++ (Meaning.flag f).name
  | setting s value => "--" ++ (Meaning.setting s).name ++ "=" ++ value
  | verbose => "-v"

def value? (s : Setting) : Offered → Option String
  | setting t value => if t = s then some value else none
  | _ => none

theorem value_eq_some {s : Setting} {o : Offered} {v : String} :
    o.value? s = some v ↔ o = .setting s v := by
  cases o with
  | setting t value =>
    by_cases h : t = s
    · simp [value?, h]
    · simp [value?, h]
  | _ => simp [value?]

def Distinct (o p : Offered) : Prop := o.meaning = p.meaning → o = .verbose ∧ p = .verbose

instance : Std.Symm Distinct where
  symm _ _ h heq := (h heq.symm).symm

/-- A value is written that the reader does not refuse. -/
def Fine : Offered → Prop
  | setting s value => s.refusal? value = none
  | _ => True

end Offered

theorem Level.long?_name {level : Level} {m : Meaning} (h : level.knows m = true) :
    level.long? m.name = some m := by
  revert h
  cases level with
  | top => cases m with
    | flag f => cases f <;> decide
    | setting s => cases s <;> decide
    | _ => decide
  | under s => cases s <;> cases m with
    | flag f => cases f <;> decide
    | setting s => cases s <;> decide
    | _ => decide

theorem Level.short?_verbose (level : Level) : level.short? 'v' = some .verbose := by
  cases level with
  | top => decide
  | under s => cases s <;> decide

theorem Word.ofString_flag (f : Flag) :
    Word.ofString (Offered.flag f).word = .long (Meaning.flag f).name none := by
  cases f <;> decide

theorem Word.ofString_setting (s : Setting) (v : String) :
    Word.ofString (Offered.setting s v).word = .long (Meaning.setting s).name (some v) := by
  let name := (Meaning.setting s).name
  have hword : (Offered.setting s v).word.toList =
      '-' :: '-' :: (name.toList ++ '=' :: v.toList) := by
    simp [Offered.word, name]
  have hname : '=' ∉ name.toList ∧ name.toList ≠ [] := by cases s <;> decide
  obtain ⟨c, cs, hcs⟩ := List.exists_cons_of_ne_nil hname.2
  have hcut : cutAtEquals (name.toList ++ '=' :: v.toList) = (name.toList, some v.toList) :=
    cutAtEquals_append hname.1
  rw [hcs] at hcut
  rw [ofString, hword, hcs]
  simp only [List.cons_append] at hcut ⊢
  simp only [hcut, Option.map_some, String.ofList_toList, ← hcs]
  rfl

/-- The word of an option starts with a dash, so it is no subcommand's name and no call for help. -/
theorem Offered.head_word (o : Offered) : o.word.toList.head? = some '-' := by
  cases o with
  | verbose => rfl
  | _ => simp [word]

theorem Subcommand.ofName?_word (o : Offered) : Subcommand.ofName? o.word = none := by
  have hhead := o.head_word
  unfold ofName?
  rw [List.find?_eq_none]
  intro s _ heq
  rw [← of_decide_eq_true heq] at hhead
  revert hhead
  cases s <;> decide

theorem Offered.word_ne_help (o : Offered) : o.word ≠ Given.helpWord := by
  intro heq
  have hhead := o.head_word
  rw [heq] at hhead
  revert hhead
  decide

namespace Given

def ofOffered (os : List Offered) : Given where
  flags f := decide (.flag f ∈ os)
  values s := os.findSome? (Offered.value? s)
  verbose := min (os.count .verbose) verboseLimit

/-- Options that can be given together: only the request for more detail is made more than once. -/
def Together (os : List Offered) : Prop := os.Pairwise Offered.Distinct

theorem settle_ofOffered (os : List Offered) : (ofOffered os).settle = .ok (ofOffered os) := rfl

variable {os : List Offered}

theorem ofOffered_append (os : List Offered) (o : Offered) : ofOffered (os ++ [o]) =
    { flags := fun f => decide (.flag f = o) || (ofOffered os).flags f
      values := fun s => ((ofOffered os).values s).or (o.value? s)
      verbose := min ((ofOffered os).verbose + [o].count .verbose) verboseLimit } := by
  simp only [ofOffered, Given.mk.injEq, and_true]
  refine ⟨funext fun f => ?_, funext fun s => ?_, ?_⟩
  · simp [Bool.or_comm]
  · simp [List.findSome?_append]
  · rw [List.count_append]
    omega

theorem raise_ofOffered {f : Flag} (hnew : .flag f ∉ os) :
    (ofOffered os).raise f = .ok (ofOffered (os ++ [.flag f])) := by
  have hdown : (ofOffered os).flags f = false := decide_eq_false hnew
  rw [raise, hdown, ofOffered_append]
  simp [Offered.value?, ofOffered]

theorem assign_ofOffered {s : Setting} {v : String} (hnew : ∀ v', .setting s v' ∉ os)
    (hfine : s.refusal? v = none) :
    (ofOffered os).assign s v = .ok (ofOffered (os ++ [.setting s v])) := by
  have hnone : (ofOffered os).values s = none := by
    refine List.findSome?_eq_none_iff.mpr fun o ho => ?_
    refine Option.eq_none_iff_forall_ne_some.mpr fun v' hv' => hnew v' ?_
    exact Offered.value_eq_some.mp hv' ▸ ho
  have hvalues : (fun t => if t = s then some v else (ofOffered os).values t) =
      fun t => ((ofOffered os).values t).or ((Offered.setting s v).value? t) := by
    funext t
    by_cases h : t = s
    · rw [if_pos h, h, hnone]
      simp [Offered.value?]
    · simp [Offered.value?, h, Ne.symm h]
  rw [assign, hnone, hfine, ofOffered_append, ← hvalues]
  simp [ofOffered]

theorem takeShort_verbose (level : Level) (os : List Offered) :
    takeShort level (ofOffered os) ['v'] = .ok (ofOffered (os ++ [.verbose])) := by
  rw [takeShort, Level.short?_verbose, ofOffered_append]
  simp only [takeBare, settle_ofOffered, Except.map, takeShort]
  simp [ofOffered, Offered.value?]

/-- Step: a word for an option that was not given yet is taken for that option. -/
theorem read_word {level : Level} {o : Offered} (hknown : level.knows o.meaning = true)
    (hfine : o.Fine) (hnew : ∀ p ∈ os, p.meaning = o.meaning → o = .verbose)
    (rest : List String) :
    read level (ofOffered os) (o.word :: rest) = read level (ofOffered (os ++ [o])) rest := by
  have hplace : (if expectsSubcommand level (ofOffered os) = true then
      Subcommand.ofName? o.word else none) = none := by
    rw [Subcommand.ofName?_word, ite_self]
  have hhelp : (expectsSubcommand level (ofOffered os) && decide (o.word = helpWord)) = false := by
    rw [decide_eq_false o.word_ne_help, Bool.and_false]
  rw [read.eq_def]
  simp only [hplace, hhelp, Bool.false_eq_true, if_false]
  cases o with
  | flag f =>
    have hfresh : .flag f ∉ os := fun h => by cases hnew _ h rfl
    have htake : (ofOffered os).takeLong level (Meaning.flag f).name none =
        .ok (ofOffered (os ++ [.flag f])) := by
      have hlong : level.long? (Meaning.flag f).name = some (.flag f) := Level.long?_name hknown
      simp only [takeLong, hlong, takeBare, settle_ofOffered, Except.bind,
        raise_ofOffered hfresh]
    simp only [Word.ofString_flag, htake]
  | setting s v =>
    have hfresh : ∀ v', .setting s v' ∉ os := fun v' h => by cases hnew _ h rfl
    have htake : (ofOffered os).takeLong level (Meaning.setting s).name (some v) =
        .ok (ofOffered (os ++ [.setting s v])) := by
      have hlong : level.long? (Meaning.setting s).name = some (.setting s) :=
        Level.long?_name hknown
      simp only [takeLong, hlong, settle_ofOffered, Except.bind,
        assign_ofOffered hfresh hfine]
    simp only [Word.ofString_setting, htake]
  | verbose =>
    have hword : Word.ofString Offered.verbose.word = .short ['v'] := by decide
    simp only [hword, takeShort_verbose]

/-- Run: words for options that can be given together are taken for these. -/
theorem read_words (os : List Offered) {level : Level} {more : List Offered}
    (hknown : ∀ o ∈ more, level.knows o.meaning = true) (hfine : ∀ o ∈ more, o.Fine)
    (htogether : Together (os ++ more)) (rest : List String) :
    read level (ofOffered os) (more.map Offered.word ++ rest) =
      read level (ofOffered (os ++ more)) rest := by
  induction more generalizing os with
  | nil => rw [List.map_nil, List.nil_append, List.append_nil]
  | cons o more ih =>
    have hnew : ∀ p ∈ os, p.meaning = o.meaning → o = .verbose := fun p hp heq =>
      ((List.pairwise_append.mp htogether).2.2 p hp o List.mem_cons_self heq).2
    rw [List.map_cons, List.cons_append,
      read_word (hknown o List.mem_cons_self) (hfine o List.mem_cons_self) hnew]
    have happend : os ++ o :: more = os ++ [o] ++ more := List.append_cons os o more
    rw [happend] at htogether ⊢
    exact ih (os ++ [o]) (fun p hp => hknown p (List.mem_cons_of_mem o hp))
      (fun p hp => hfine p (List.mem_cons_of_mem o hp)) htogether

theorem read_subcommand (os : List Offered) (s : Subcommand) (rest : List String) :
    read .top (ofOffered os) (s.name :: rest) = .ok (ofOffered os, some (s, rest)) := by
  cases s <;> rfl

/-- A value is found exactly if it was given: a setting has only one. -/
theorem values_eq_some (h : Together os) {s : Setting} {v : String} :
    (ofOffered os).values s = some v ↔ .setting s v ∈ os := by
  constructor
  · intro hv
    obtain ⟨o, ho, hvalue⟩ := List.exists_of_findSome?_eq_some hv
    exact Offered.value_eq_some.mp hvalue ▸ ho
  · intro hmem
    cases hv : (ofOffered os).values s with
    | none =>
      have hnone := List.findSome?_eq_none_iff.mp hv _ hmem
      rw [Offered.value_eq_some.mpr rfl] at hnone
      cases hnone
    | some v' =>
      obtain ⟨o, ho, hvalue⟩ := List.exists_of_findSome?_eq_some hv
      rw [Offered.value_eq_some.mp hvalue] at ho
      by_contra hne
      have hdistinct : Offered.setting s v' ≠ .setting s v := by
        rintro ⟨⟩
        exact hne rfl
      cases (h.forall ho hmem hdistinct rfl).1

end Given

end CommandLine

open CommandLine

def Task.subcommand : Task → Subcommand
  | .build _ _ => .build
  | .protos _ _ => .protos
  | .env => .env
  | .doctor => .doctor

namespace Invocation

def flag (i : Invocation) : Flag → Bool
  | .json => i.json
  | .dryRun =>
    match i.task with
    | .build _ dryRun | .protos _ dryRun => dryRun
    | .env | .doctor => false

def value? (i : Invocation) : Setting → Option String
  | .root => some i.root.text
  | .config => i.config.map (·.text)
  | .hostRoot => some i.hostRoot.text
  | .variant =>
    match i.task with
    | .build variant _ => variant.map Variant.name
    | _ => none
  | .compiler =>
    match i.task with
    | .protos compiler _ => compiler
    | _ => none

/-- How an invocation has an option written: once, if at all, and the request for more detail as
often as it is made. -/
def given (i : Invocation) : Meaning → List Offered
  | .flag f => if i.flag f then [.flag f] else []
  | .setting s => (i.value? s).toList.map (.setting s)
  | .verbose => List.replicate i.verbose .verbose
  | .help | .version => []

def offered (i : Invocation) : List Offered := Meaning.all.flatMap i.given

variable {i : Invocation}

theorem meaning_of_given {m : Meaning} {o : Offered} (h : o ∈ i.given m) : o.meaning = m := by
  cases m with
  | flag f =>
    simp only [given] at h
    split at h
    · rw [List.mem_singleton.mp h]
      rfl
    · cases h
  | setting s =>
    obtain ⟨v, -, rfl⟩ := List.mem_map.mp h
    rfl
  | verbose =>
    rw [(List.mem_replicate.mp h).2]
    rfl
  | _ => cases h

theorem mem_all (m : Meaning) : m ∈ Meaning.all := by
  cases m with
  | flag f => cases f <;> decide
  | setting s => cases s <;> decide
  | _ => decide

theorem mem_offered {o : Offered} : o ∈ i.offered ↔ o ∈ i.given o.meaning := by
  unfold offered
  rw [List.mem_flatMap]
  constructor
  · rintro ⟨m, -, h⟩
    exact meaning_of_given h ▸ h
  · exact fun h => ⟨o.meaning, mem_all _, h⟩

theorem flag_mem_offered {f : Flag} : .flag f ∈ i.offered ↔ i.flag f = true := by
  rw [mem_offered]
  simp [Offered.meaning, given]

theorem setting_mem_offered {s : Setting} {v : String} :
    .setting s v ∈ i.offered ↔ i.value? s = some v := by
  rw [mem_offered]
  simp [Offered.meaning, given]

theorem together_offered (i : Invocation) : Given.Together i.offered := by
  unfold Given.Together offered
  refine List.pairwise_flatMap.mpr ⟨fun m _ => ?_, ?_⟩
  · cases m with
    | flag f =>
      simp only [given]
      split <;> simp
    | setting s => cases h : i.value? s <;> simp [given, h]
    | verbose => exact List.pairwise_replicate.mpr (.inr fun _ => ⟨rfl, rfl⟩)
    | _ => exact .nil
  · have hdistinct : Meaning.all.Pairwise (· ≠ ·) := by decide
    refine hdistinct.imp fun hne o ho p hp heq => absurd ?_ hne
    rw [← meaning_of_given ho, ← meaning_of_given hp, heq]

theorem count_offered (i : Invocation) : i.offered.count .verbose = i.verbose := by
  have hgiven (m : Meaning) :
      (i.given m).count .verbose = if m = .verbose then i.verbose else 0 := by
    by_cases hm : m = .verbose
    · subst hm
      simp [given]
    · rw [if_neg hm, List.count_eq_zero]
      exact fun h => hm (meaning_of_given h).symm
  rw [offered, List.count_flatMap]
  simp [Meaning.all, hgiven]

theorem knows_offered {o : Offered} (h : o ∈ i.offered) :
    (Level.under i.task.subcommand).knows o.meaning = true := by
  cases o with
  | flag f =>
    have hflag := flag_mem_offered.mp h
    cases f with
    | json => cases i.task <;> rfl
    | dryRun =>
      cases ht : i.task with
      | build | protos => rfl
      | env | doctor =>
        rw [flag, ht] at hflag
        cases hflag
  | setting s v =>
    have hvalue := setting_mem_offered.mp h
    cases s with
    | root | config | hostRoot => cases i.task <;> rfl
    | variant =>
      cases ht : i.task with
      | build => rfl
      | protos | env | doctor =>
        rw [value?, ht] at hvalue
        cases hvalue
    | compiler =>
      cases ht : i.task with
      | protos => rfl
      | build | env | doctor =>
        rw [value?, ht] at hvalue
        cases hvalue
  | verbose => cases i.task <;> rfl

/-- The texts that an invocation gives are such as can be given. -/
structure Writable (i : Invocation) : Prop where
  root : i.root.text ≠ ""
  config : ∀ p, i.config = some p → p.text ≠ ""
  hostRoot : i.hostRoot.text ≠ ""
  verbose : i.verbose ≤ verboseLimit

theorem Writable.fine (h : i.Writable) {o : Offered} (ho : o ∈ i.offered) : o.Fine := by
  cases o with
  | setting s v =>
    have hvalue := setting_mem_offered.mp ho
    cases s with
    | root =>
      cases hvalue
      simp [Offered.Fine, Setting.refusal?, h.root]
    | config =>
      obtain ⟨p, hp, rfl⟩ := Option.map_eq_some_iff.mp hvalue
      simp [Offered.Fine, Setting.refusal?, h.config p hp]
    | hostRoot =>
      cases hvalue
      simp [Offered.Fine, Setting.refusal?, h.hostRoot]
    | variant =>
      simp only [value?] at hvalue
      split at hvalue
      · obtain ⟨variant, -, rfl⟩ := Option.map_eq_some_iff.mp hvalue
        cases variant <;> rfl
      · cases hvalue
    | compiler => rfl
  | _ => trivial

/-- The words of an invocation in some order, those before the subcommand known there, and all
requests for more detail on one side. -/
structure Arranged (i : Invocation) (before after : List Offered) : Prop where
  perm : (before ++ after).Perm i.offered
  known : ∀ o ∈ before, Level.top.knows o.meaning = true
  united : .verbose ∉ before ∨ .verbose ∉ after

namespace Arranged

variable {before after : List Offered}

theorem perm' (h : i.Arranged before after) : (after ++ before).Perm i.offered :=
  List.perm_append_comm.trans h.perm

theorem flags_eq (h : i.Arranged before after) (f : Flag) :
    ((Given.ofOffered after).flags f || (Given.ofOffered before).flags f) = i.flag f := by
  rw [Bool.eq_iff_iff, ← flag_mem_offered, ← h.perm'.mem_iff]
  simp [Given.ofOffered]

theorem values_eq (h : i.Arranged before after) (s : Setting) :
    ((Given.ofOffered after).values s).or ((Given.ofOffered before).values s) = i.value? s := by
  have happend : ((Given.ofOffered after).values s).or ((Given.ofOffered before).values s) =
      (Given.ofOffered (after ++ before)).values s := List.findSome?_append.symm
  have htogether : Given.Together (after ++ before) :=
    i.together_offered.perm h.perm'.symm fun hd => Std.Symm.symm _ _ hd
  rw [happend]
  refine Option.ext fun v => ?_
  rw [Given.values_eq_some htogether, h.perm'.mem_iff, setting_mem_offered]

theorem verbose_eq (h : i.Arranged before after) (hv : i.verbose ≤ verboseLimit) :
    (if (Given.ofOffered after).verbose = 0 then (Given.ofOffered before).verbose
      else (Given.ofOffered after).verbose) = i.verbose := by
  have hcount := h.perm.count_eq .verbose
  rw [List.count_append, count_offered] at hcount
  have hafter : (Given.ofOffered after).verbose = min (after.count .verbose) verboseLimit := rfl
  have hbefore : (Given.ofOffered before).verbose = min (before.count .verbose) verboseLimit := rfl
  rcases h.united with hnone | hnone
  · rw [List.count_eq_zero.mpr hnone] at hcount hbefore
    split <;> omega
  · rw [List.count_eq_zero.mpr hnone] at hcount hafter
    split <;> omega

/-- An option that is known behind a subcommand only is given there. -/
theorem own_flag (h : i.Arranged before after) {f : Flag} (hf : Level.top.knows (.flag f) = false) :
    (Given.ofOffered after).flags f = i.flag f := by
  have hnone : (Given.ofOffered before).flags f = false := by
    refine decide_eq_false fun hmem => ?_
    have hknown := h.known _ hmem
    rw [Offered.meaning, hf] at hknown
    cases hknown
  rw [← h.flags_eq, hnone, Bool.or_false]

theorem own_value (h : i.Arranged before after) {s : Setting}
    (hs : Level.top.knows (.setting s) = false) :
    (Given.ofOffered after).values s = i.value? s := by
  have hnone : (Given.ofOffered before).values s = none := by
    refine List.findSome?_eq_none_iff.mpr fun o ho => ?_
    refine Option.eq_none_iff_forall_ne_some.mpr fun v hv => ?_
    have hknown := h.known o ho
    rw [Offered.value_eq_some.mp hv, Offered.meaning, hs] at hknown
    cases hknown
  rw [← h.values_eq, hnone, Option.or_none]

theorem taskOf_eq (h : i.Arranged before after) :
    taskOf (Given.ofOffered after) i.task.subcommand = i.task := by
  have hdry := h.own_flag (f := .dryRun) rfl
  have hvariant := h.own_value (s := .variant) rfl
  have hcompiler := h.own_value (s := .compiler) rfl
  cases ht : i.task with
  | build variant dryRun =>
    rw [Task.subcommand, taskOf, hdry, hvariant]
    simp only [flag, value?, ht]
    cases variant with
    | none => rfl
    | some v => cases v <;> rfl
  | protos compiler dryRun =>
    rw [Task.subcommand, taskOf, hdry, hcompiler]
    simp only [flag, value?, ht]
  | _ => rfl

theorem ofGiven_eq (h : i.Arranged before after) (hv : i.verbose ≤ verboseLimit)
    (hostRoot : Option String) :
    ofGiven hostRoot (Given.ofOffered before) (Given.ofOffered after) i.task.subcommand = i := by
  simp only [ofGiven, h.flags_eq, h.values_eq, h.verbose_eq hv, h.taskOf_eq, flag, value?,
    Option.getD_some, Option.map_map]
  cases i with
  | mk json root config hostRoot verbose task => cases config <;> rfl

end Arranged

/-- Nothing is left to look at when each value was given with its option. -/
theorem close_ofOffered (os : List Offered) {hostRoot : Option String} (h : hostRoot ≠ some "") :
    (Given.ofOffered os).close hostRoot = .ok (Given.ofOffered os) := by
  simp only [Given.close, Given.settle_ofOffered, Except.bind, h, and_false, if_false]

/-- Invocations are read back from their words. Whatever the order of the options, and on whichever
side of the subcommand's name those stand that are known on both, the words come to the invocation
that they were written for, texts and all; the environment's host root has no say. -/
theorem parse_words (i : Invocation) (hi : i.Writable) {before after : List Offered}
    (h : i.Arranged before after) {hostRoot : Option String} (henv : hostRoot ≠ some "") :
    parse hostRoot (before.map Offered.word ++
      i.task.subcommand.name :: after.map Offered.word) = .ok i := by
  have hbefore : ∀ o ∈ before, o ∈ i.offered := fun o ho => h.perm.mem_iff.mp (by simp [ho])
  have hafter : ∀ o ∈ after, o ∈ i.offered := fun o ho => h.perm.mem_iff.mp (by simp [ho])
  have htogether := List.pairwise_append.mp
    (i.together_offered.perm h.perm.symm fun hd => Std.Symm.symm _ _ hd)
  have htop : Given.read .top {} (before.map Offered.word ++
      i.task.subcommand.name :: after.map Offered.word) =
      .ok (Given.ofOffered before, some (i.task.subcommand, after.map Offered.word)) :=
    (Given.read_words [] h.known (fun o ho => hi.fine (hbefore o ho)) htogether.1 _).trans
      (Given.read_subcommand _ _ _)
  have hunder : Given.read (.under i.task.subcommand) {} (after.map Offered.word) =
      .ok (Given.ofOffered after, none) := by
    have hread := Given.read_words [] (fun o ho => knows_offered (hafter o ho))
      (fun o ho => hi.fine (hafter o ho)) htogether.2.1 []
    rw [List.append_nil] at hread
    rw [show ({} : Given) = Given.ofOffered [] from rfl, hread]
    rfl
  rw [parse, htop]
  simp only [bind, Except.bind, hunder, close_ofOffered _ henv, pure, Except.pure,
    h.ofGiven_eq hi.verbose]

/-- An invocation with an empty compiler and texts that look like options, some of its words before
the subcommand and some behind it. -/
theorem parse_words_protos :
    let i : Invocation :=
      { json := true, root := ⟨"a=b"⟩, config := some ⟨"-c d"⟩, hostRoot := ⟨"--json"⟩, verbose := 2
        task := .protos (some "") true }
    let before : List Offered := [.verbose, .setting .hostRoot "--json", .verbose]
    let after : List Offered := [.setting .compiler "", .setting .config "-c d", .flag .json,
      .setting .root "a=b", .flag .dryRun]
    i.Writable ∧ i.Arranged before after ∧
      parse (some "/other") (["-v", "--host-root=--json", "-v"] ++ "protos" ::
        ["--compiler=", "--config=-c d", "--json", "--root=a=b", "--dry-run"]) = .ok i := by
  intro i before after
  have hi : i.Writable := ⟨by decide, by rintro p ⟨⟩; decide, by decide, by decide⟩
  have harranged : i.Arranged before after := ⟨by decide, by decide, .inr (by decide)⟩
  exact ⟨hi, harranged, parse_words i hi harranged (by decide)⟩

end Invocation
end Provision
