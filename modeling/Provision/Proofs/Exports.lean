import Provision.Shell.Token
import Provision.Tool

namespace Provision

namespace Shell

/-- Reads what stands up to a closing double quote and returns also what stands behind the quote.
There is nothing to return where an expansion starts or the text ends. -/
def unquote? : List Char → Option (List Char × List Char)
  | [] => none
  | '"' :: rest => some ([], rest)
  | '\\' :: '\n' :: rest => unquote? rest
  | '\\' :: c :: rest =>
    (unquote? rest).map (fun (text, behind) =>
      ((if Mode.double.isEscapable c then [c] else ['\\', c]) ++ text, behind))
  | c :: rest =>
    if c = '$' || c = '\x60' then none
    else (unquote? rest).map (fun (text, behind) => (c :: text, behind))

/-- Reads the start of a line that exports a variable; the value follows. -/
def exported? (cs : List Char) : Option (String × List Char) :=
  match cs with
  | 'e' :: 'x' :: 'p' :: 'o' :: 'r' :: 't' :: ' ' :: setting =>
    let name := setting.takeWhile isNameChar
    match setting.dropWhile isNameChar with
    | '=' :: '"' :: value => if isName name then some (String.ofList name, value) else none
    | _ => none
  | _ => none

def behindLine? : List Char → Option (List Char)
  | [] => some []
  | '\n' :: rest => some rest
  | _ => none

theorem length_behindLine {cs rest : List Char} (h : behindLine? cs = some rest) :
    rest.length ≤ cs.length := by
  unfold behindLine? at h
  split at h
  · obtain rfl := Option.some.inj h
    exact Nat.le_refl _
  · obtain rfl := Option.some.inj h
    exact Nat.le_succ _
  · cases h

/-- The settings that a text makes, in order, if each of its lines, at most `fuel` of them, exports
a variable with a value between double quotes and does nothing else. -/
def settings? : (fuel : Nat) → List Char → Option (List (String × String))
  | _, [] => some []
  | 0, _ :: _ => none
  | fuel + 1, cs => do
    let (name, quoted) ← exported? cs
    let (value, behind) ← unquote? quoted
    let rest ← behindLine? behind
    return (name, String.ofList value) :: (← settings? fuel rest)

/-- The settings that a text makes, if it does nothing else. -/
def onlySettings? (text : String) : Option (List (String × String)) :=
  settings? text.length text.toList

/-- Whether a value means itself between double quotes once its own double quotes are protected:
no character in it starts an expansion, and no backslash has a meaning where it stands. -/
def isPlain : List Char → Bool
  | [] => true
  | '\\' :: c :: rest => !Mode.double.isEscapable c && c ≠ '\n' && isPlain rest
  | c :: rest => (c = '"' || !Mode.double.isEscapable c) && isPlain rest

theorem eq_of_isEscapable {c : Char} (h : Mode.double.isEscapable c) :
    c = '\\' ∨ c = '\x60' ∨ c = '$' ∨ c = '"' := by
  simpa [Mode.isEscapable, or_assoc] using h

def protect (value : List Char) : List Char :=
  value.flatMap (fun c => if c = '"' then ['\\', '"'] else [c])

@[simp] theorem protect_nil : protect [] = [] := rfl

@[simp] theorem protect_quote (rest : List Char) :
    protect ('"' :: rest) = '\\' :: '"' :: protect rest := rfl

theorem protect_cons {c : Char} (hc : c ≠ '"') (rest : List Char) :
    protect (c :: rest) = c :: protect rest := by
  simp [protect, hc]

section Unquoting

variable {c : Char} (rest : List Char)

theorem unquote_bare (hc : Mode.double.isEscapable c = false) :
    unquote? (c :: rest) =
      (unquote? rest).map (fun (text, behind) => (c :: text, behind)) := by
  simp only [Mode.isEscapable, Bool.or_eq_false_iff, decide_eq_false_iff_not] at hc
  rw [unquote?] <;> simp_all

theorem unquote_escaped (hc : Mode.double.isEscapable c) :
    unquote? ('\\' :: c :: rest) =
      (unquote? rest).map (fun (text, behind) => (c :: text, behind)) := by
  have hn : c ≠ '\n' := by
    rintro rfl
    simp [Mode.isEscapable] at hc
  rw [unquote?] <;> simp_all

theorem unquote_expansion (hc : c = '\x60' ∨ c = '$') : unquote? (c :: rest) = none := by
  obtain rfl | rfl := hc <;> rfl

theorem unquote_kept (hc : Mode.double.isEscapable c = false) (hn : c ≠ '\n') :
    unquote? ('\\' :: c :: rest) =
      (unquote? rest).map (fun (text, behind) => ('\\' :: c :: text, behind)) := by
  rw [unquote?] <;> simp_all

end Unquoting

theorem unquote_protect {value : List Char} (h : isPlain value) (rest : List Char) :
    unquote? (protect value ++ '"' :: rest) = some (value, rest) := by
  fun_induction isPlain value with
  | case1 => rfl
  | case2 c value ih =>
    simp only [Bool.and_eq_true, Bool.not_eq_true', decide_eq_true_eq] at h
    obtain ⟨⟨hc, hn⟩, hv⟩ := h
    have hq : c ≠ '"' := by
      rintro rfl
      simp [Mode.isEscapable] at hc
    rw [protect_cons (by decide), protect_cons hq, List.cons_append, List.cons_append,
      unquote_kept _ hc hn, ih hv]
    rfl
  | case3 c value hb ih =>
    simp only [Bool.and_eq_true, Bool.or_eq_true, decide_eq_true_eq, Bool.not_eq_true'] at h
    obtain ⟨rfl | hc, hv⟩ := h
    · rw [protect_quote, List.cons_append, List.cons_append, unquote_escaped _ (by decide), ih hv]
      rfl
    · have hq : c ≠ '"' := by
        rintro rfl
        simp [Mode.isEscapable] at hc
      rw [protect_cons hq, List.cons_append, unquote_bare _ hc, ih hv]
      rfl

/-- What a value that is read back wrongly comes to: it is shorter than the value, or it runs past
the closing quote that a backslash at the value's end protects, up to the next line's value. -/
def Garbles (value text : List Char) : Prop :=
  text.length < value.length ∨ (value.getLast? = some '\\' ∧ text.getLast? = some '=')

theorem Garbles.append {value text : List Char} (h : Garbles value text) {front read : List Char}
    (hf : read.length ≤ front.length) : Garbles (front ++ value) (read ++ text) := by
  obtain hl | ⟨hv, ht⟩ := h
  · left
    simp only [List.length_append]
    omega
  · right
    simp [List.getLast?_append, hv, ht]

theorem Garbles.ne {value text : List Char} (h : Garbles value text) : text ≠ value := by
  rintro rfl
  obtain hl | ⟨hv, ht⟩ := h
  · omega
  · simp [hv] at ht

/-- Where less is read than stands in front, what follows cannot make up for it. -/
theorem garbles_of_lost {value text : List Char} (h : text = value ∨ Garbles value text)
    (front read : List Char) (hf : read.length < front.length) :
    Garbles (front ++ value) (read ++ text) := by
  obtain rfl | hg := h
  · left
    simp only [List.length_append]
    omega
  · exact hg.append (Nat.le_of_lt hf)

theorem some_of_map {o : Option (List Char × List Char)} (read : List Char)
    {text behind : List Char}
    (h : o.map (fun (text, behind) => (read ++ text, behind)) = some (text, behind)) :
    ∃ more, o = some (more, behind) ∧ text = read ++ more := by
  obtain ⟨⟨more, behind'⟩, ho, he⟩ := Option.map_eq_some_iff.1 h
  obtain ⟨rfl, rfl⟩ := Prod.mk.inj he
  exact ⟨more, ho, rfl⟩

/-- A text of which nothing can be read that does not end at the next line's value. -/
def Fences (rest : List Char) : Prop :=
  ∀ text behind, unquote? rest = some (text, behind) → text.getLast? = some '='

theorem plain_or_garbles {value rest text behind : List Char} (hr : Fences rest)
    (h : unquote? (protect value ++ '"' :: rest) = some (text, behind)) :
    (isPlain value ∧ text = value ∧ behind = rest) ∨ Garbles value text := by
  fun_induction isPlain value generalizing text with
  | case1 =>
    simp only [protect_nil, List.nil_append, unquote?, Option.some.injEq, Prod.mk.injEq] at h
    exact .inl ⟨rfl, h.1.symm, h.2.symm⟩
  | case2 c value ih =>
    rw [protect_cons (by decide)] at h
    by_cases hq : c = '"'
    · subst hq
      have hc : unquote? ('\\' :: '\\' :: '"' :: (protect value ++ '"' :: rest)) =
          some (['\\'], protect value ++ '"' :: rest) := rfl
      rw [protect_quote, List.cons_append, List.cons_append, List.cons_append, hc] at h
      obtain ⟨rfl, -⟩ := Prod.mk.inj (Option.some.inj h)
      exact .inr (.inl (by simp))
    rw [protect_cons hq, List.cons_append, List.cons_append] at h
    by_cases hn : c = '\n'
    · subst hn
      exact .inr (garbles_of_lost ((ih h).imp_left (·.2.1)) ['\\', '\n'] [] (by simp))
    cases hc : Mode.double.isEscapable c with
    | true =>
      rw [unquote_escaped _ hc] at h
      obtain ⟨more, hm, rfl⟩ := some_of_map [c] h
      exact .inr (garbles_of_lost ((ih hm).imp_left (·.2.1)) ['\\', c] [c] (by simp))
    | false =>
      rw [unquote_kept _ hc hn] at h
      obtain ⟨more, hm, rfl⟩ := some_of_map ['\\', c] h
      obtain ⟨hp, rfl, rfl⟩ | hg := ih hm
      · exact .inl ⟨by simp [hn, hp], rfl, rfl⟩
      · exact .inr (hg.append (Nat.le_refl ['\\', c].length))
  | case3 c value hb ih =>
    by_cases hq : c = '"'
    · subst hq
      rw [protect_quote, List.cons_append, List.cons_append, unquote_escaped _ (by decide)] at h
      obtain ⟨more, hm, rfl⟩ := some_of_map ['"'] h
      obtain ⟨hp, rfl, rfl⟩ | hg := ih hm
      · exact .inl ⟨by simp [hp], rfl, rfl⟩
      · exact .inr (hg.append (Nat.le_refl ['"'].length))
    rw [protect_cons hq, List.cons_append] at h
    cases hc : Mode.double.isEscapable c with
    | false =>
      rw [unquote_bare _ hc] at h
      obtain ⟨more, hm, rfl⟩ := some_of_map [c] h
      obtain ⟨hp, rfl, rfl⟩ | hg := ih hm
      · exact .inl ⟨by simp [hp], rfl, rfl⟩
      · exact .inr (hg.append (Nat.le_refl [c].length))
    | true =>
      obtain rfl | hx : c = '\\' ∨ (c = '\x60' ∨ c = '$') := by
        simpa [hq] using eq_of_isEscapable hc
      · -- A backslash at the value's end: its closing quote is taken for a part of it.
        obtain rfl : value = [] := by
          cases value with
          | nil => rfl
          | cons d value => exact absurd rfl (hb d value rfl)
        rw [protect_nil, List.nil_append, unquote_escaped _ (by decide)] at h
        obtain ⟨more, hm, rfl⟩ := some_of_map ['"'] h
        exact .inr (.inr ⟨rfl, by simp [List.getLast?_cons, hr _ _ hm]⟩)
      · rw [unquote_expansion _ hx] at h
        cases h

/-- Up to the next line's value: a printed value comes back just if it is plain. -/
theorem unquote_protect_iff {value rest behind : List Char} (hr : Fences rest) :
    unquote? (protect value ++ '"' :: rest) = some (value, behind) ↔
      isPlain value ∧ behind = rest := by
  constructor
  · intro h
    obtain ⟨hp, -, hb⟩ | hg := plain_or_garbles hr h
    · exact ⟨hp, hb⟩
    · exact absurd rfl hg.ne
  · rintro ⟨hp, rfl⟩
    exact unquote_protect hp behind

theorem unquote_append {cs : List Char} (hcs : ∀ c ∈ cs, Mode.double.isEscapable c = false)
    (rest : List Char) :
    unquote? (cs ++ rest) =
      (unquote? rest).map (fun (text, behind) => (cs ++ text, behind)) := by
  induction cs with
  | nil => simp
  | cons c cs ih =>
    rw [List.cons_append, unquote_bare _ (hcs c (by simp)), ih (fun d hd => hcs d (by simp [hd])),
      Option.map_map]
    rfl

theorem isEscapable_of_isNameChar {c : Char} (hc : isNameChar c) :
    Mode.double.isEscapable c = false := by
  rw [Bool.eq_false_iff]
  intro he
  obtain rfl | rfl | rfl | rfl := eq_of_isEscapable he <;> exact absurd hc (by decide)

theorem isNameChar_of_isName {cs : List Char} (h : isName cs) : ∀ c ∈ cs, isNameChar c := by
  cases cs with
  | nil => simp
  | cons c cs =>
    simp only [isName, Bool.and_eq_true, List.all_eq_true] at h
    intro d hd
    obtain rfl | hd := List.mem_cons.1 hd
    · simp only [isNameStart, isNameChar, Char.isAlphanum, Bool.or_eq_true] at h ⊢
      exact h.1.imp_left .inl
    · exact h.2 d hd

theorem exported_eq {cs quoted : List Char} {name : String}
    (h : exported? cs = some (name, quoted)) :
    isName name.toList ∧ cs = "export ".toList ++ (name.toList ++ '=' :: '"' :: quoted) := by
  unfold exported? at h
  split at h
  next setting =>
    dsimp only at h
    split at h
    next value hdrop =>
      split at h
      next hn =>
        obtain ⟨rfl, rfl⟩ := Prod.mk.inj (Option.some.inj h)
        refine ⟨by rwa [String.toList_ofList], ?_⟩
        rw [← hdrop]
        simp
      next => cases h
    next => cases h
  next => cases h

theorem settings_iff {fuel : Nat} {cs : List Char} (hcs : cs ≠ [])
    {pairs : List (String × String)} :
    settings? (fuel + 1) cs = some pairs ↔
      ∃ name quoted value behind rest more, exported? cs = some (name, quoted) ∧
        unquote? quoted = some (value, behind) ∧ behindLine? behind = some rest ∧
        settings? fuel rest = some more ∧ pairs = (name, String.ofList value) :: more := by
  rw [settings?]
  · simp only [Option.bind_eq_bind, Option.bind_eq_some_iff, Prod.exists, Option.pure_def,
      Option.some.injEq]
    constructor
    · rintro ⟨name, quoted, he, value, behind, hu, rest, hb, more, hs, rfl⟩
      exact ⟨name, quoted, value, behind, rest, more, he, hu, hb, hs, rfl⟩
    · rintro ⟨name, quoted, value, behind, rest, more, he, hu, hb, hs, rfl⟩
      exact ⟨name, quoted, he, value, behind, hu, rest, hb, more, hs, rfl⟩
  · exact hcs

theorem settings_nil {fuel : Nat} {cs : List Char} (h : settings? fuel cs = some []) : cs = [] := by
  cases cs with
  | nil => rfl
  | cons c cs =>
    cases fuel with
    | zero => cases h
    | succ fuel =>
      obtain ⟨_, _, _, _, _, _, _, _, _, _, hpairs⟩ := (settings_iff (by simp)).1 h
      cases hpairs

theorem settings_cons {fuel : Nat} {cs : List Char} {pair : String × String}
    {pairs : List (String × String)} (h : settings? fuel cs = some (pair :: pairs)) :
    ∃ less quoted value behind rest, fuel = less + 1 ∧ isName pair.1.toList ∧
      cs = "export ".toList ++ (pair.1.toList ++ '=' :: '"' :: quoted) ∧
      unquote? quoted = some (value, behind) ∧ behindLine? behind = some rest ∧
      pair.2 = String.ofList value ∧ settings? less rest = some pairs := by
  have hcs : cs ≠ [] := by
    rintro rfl
    simp [settings?] at h
  cases fuel with
  | zero =>
    cases cs with
    | nil => exact absurd rfl hcs
    | cons c cs => cases h
  | succ less =>
    obtain ⟨name, quoted, value, behind, rest, more, he, hu, hb, hs, hpairs⟩ :=
      (settings_iff hcs).1 h
    obtain ⟨rfl, rfl⟩ := List.cons.inj hpairs
    obtain ⟨hn, hcs⟩ := exported_eq he
    exact ⟨less, quoted, value, behind, rest, rfl, hn, hcs, hu, hb, rfl, hs⟩

theorem length_settings {fuel : Nat} {cs : List Char} {pairs : List (String × String)}
    (h : settings? fuel cs = some pairs) : pairs.length ≤ fuel := by
  induction pairs generalizing fuel cs with
  | nil => exact Nat.zero_le _
  | cons pair pairs ih =>
    obtain ⟨less, -, -, -, rest, rfl, -, -, -, -, -, hmore⟩ := settings_cons h
    exact Nat.succ_le_succ (ih hmore)

theorem isName_of_mem_settings {fuel : Nat} {cs : List Char} {pair : String × String}
    {pairs : List (String × String)} (h : settings? fuel cs = some pairs) (hp : pair ∈ pairs) :
    isName pair.1.toList := by
  induction pairs generalizing fuel cs with
  | nil => cases hp
  | cons first pairs ih =>
    obtain ⟨less, -, -, -, rest, -, hname, -, -, -, -, hmore⟩ := settings_cons h
    obtain rfl | hp := List.mem_cons.1 hp
    · exact hname
    · exact ih hmore hp

end Shell

namespace Variable

open Shell

theorem exportLine_append (v : Variable) (rest : List Char) :
    v.exportLine.toList ++ rest =
      "export ".toList ++ (v.name.toList ++
        '=' :: '"' :: (protect v.value.toList ++ '"' :: rest)) := by
  simp [exportLine, protect]

theorem exported_exportLine {v : Variable} (hn : isName v.name.toList) (rest : List Char) :
    exported? (v.exportLine.toList ++ rest) =
      some (v.name, protect v.value.toList ++ '"' :: rest) := by
  have hchars := isNameChar_of_isName hn
  rw [exportLine_append]
  change exported? ('e' :: 'x' :: 'p' :: 'o' :: 'r' :: 't' :: ' ' :: (v.name.toList ++
    '=' :: '"' :: (protect v.value.toList ++ '"' :: rest))) = _
  rw [exported?, List.takeWhile_append_of_pos hchars, List.dropWhile_append_of_pos hchars]
  simp [isNameChar, hn]

theorem text_exports_cons (v : Variable) (vs : List Variable) :
    (Reply.exports (v :: vs)).text.toList =
      v.exportLine.toList ++ '\n' :: (Reply.exports vs).text.toList := by
  simp [Reply.text, Reply.lines, Reply.line, String.join_cons]

theorem text_exports_ends (v : Variable) (vs : List Variable) :
    ∃ cs, (Reply.exports (v :: vs)).text.toList = cs ++ ['\n'] := by
  induction vs generalizing v with
  | nil => exact ⟨v.exportLine.toList, text_exports_cons v []⟩
  | cons w vs ih =>
    obtain ⟨cs, hcs⟩ := ih w
    exact ⟨v.exportLine.toList ++ '\n' :: cs, by rw [text_exports_cons, hcs]; simp⟩

def IsExportText : List Variable → List Char → Prop
  | [], cs => cs = []
  | v :: vs, cs => ∃ behind rest, cs = v.exportLine.toList ++ behind ∧
      behindLine? behind = some rest ∧ IsExportText vs rest

theorem isExportText_printed (vs : List Variable) :
    IsExportText vs (Reply.exports vs).text.toList := by
  induction vs with
  | nil => rfl
  | cons v vs ih => exact ⟨_, _, text_exports_cons v vs, rfl, ih⟩

/-- Where another command's output is put into words, the end of its last line is lost. -/
theorem isExportText_unended {vs : List Variable} {cs : List Char}
    (h : cs ++ ['\n'] = (Reply.exports vs).text.toList) : IsExportText vs cs := by
  induction vs generalizing cs with
  | nil => simp [Reply.text, Reply.lines, String.join] at h
  | cons v vs ih =>
    rw [text_exports_cons] at h
    cases vs with
    | nil => exact ⟨[], [], by simpa using List.append_cancel_right h, rfl, rfl⟩
    | cons w vs =>
      obtain ⟨rest, hrest⟩ := text_exports_ends w vs
      rw [hrest, ← List.cons_append, ← List.append_assoc] at h
      exact ⟨_, rest, List.append_cancel_right h, rfl, ih hrest.symm⟩

theorem fences_behind {vs : List Variable} (hn : ∀ v ∈ vs, isName v.name.toList)
    {behind rest : List Char} (hb : behindLine? behind = some rest) (h : IsExportText vs rest) :
    Fences behind := by
  intro text beyond hread
  unfold behindLine? at hb
  split at hb
  · cases hread
  next =>
    obtain rfl := Option.some.inj hb
    cases vs with
    | nil =>
      cases h
      cases hread
    | cons v vs =>
      obtain ⟨behind, rest, rfl, -, -⟩ := h
      have hsplit (cs : List Char) :
          '\n' :: ("export ".toList ++ (v.name.toList ++ '=' :: cs)) =
            ("\nexport ".toList ++ v.name.toList ++ ['=']) ++ cs := by
        simp
      have hbare : ∀ c ∈ "\nexport ".toList ++ v.name.toList ++ ['='],
          Mode.double.isEscapable c = false := by
        simp only [List.forall_mem_append]
        refine ⟨⟨by simp [Mode.isEscapable], fun c hc => ?_⟩, by simp [Mode.isEscapable]⟩
        exact isEscapable_of_isNameChar (isNameChar_of_isName (hn v (by simp)) c hc)
      rw [exportLine_append, hsplit, unquote_append hbare, unquote?] at hread
      obtain ⟨rfl, -⟩ := Prod.mk.inj (Option.some.inj hread)
      simp [List.getLast?_append, List.getLast?_cons]
  · cases hb

theorem length_le_of_isExportText {vs : List Variable} {cs : List Char}
    (h : IsExportText vs cs) : vs.length ≤ cs.length := by
  induction vs generalizing cs with
  | nil => exact Nat.zero_le _
  | cons v vs ih =>
    obtain ⟨behind, rest, rfl, hb, hrest⟩ := h
    have hlength := ih hrest
    have hbehind := length_behindLine hb
    rw [exportLine_append]
    simp
    omega

/-- A printed text sets variables just as they are, and does nothing else, if all their values are
plain, and only then. -/
theorem settings_exports_iff {vs : List Variable} (hn : ∀ v ∈ vs, isName v.name.toList)
    {cs : List Char} (hcs : IsExportText vs cs) {fuel : Nat} (hf : vs.length ≤ fuel) :
    settings? fuel cs = some (vs.map Variable.pair) ↔ ∀ v ∈ vs, isPlain v.value.toList := by
  induction vs generalizing cs fuel with
  | nil =>
    obtain rfl : cs = [] := hcs
    simp [settings?]
  | cons v vs ih =>
    obtain ⟨fuel, rfl⟩ := Nat.exists_eq_add_one.2 (Nat.lt_of_lt_of_le (Nat.succ_pos _) hf)
    obtain ⟨behind, rest, rfl, hb, hrest⟩ := hcs
    have hv := hn v (by simp)
    have hvs : ∀ w ∈ vs, isName w.name.toList := fun w hw => hn w (by simp [hw])
    have hne : v.exportLine.toList ++ behind ≠ [] := by simp [exportLine_append]
    rw [settings_iff hne, exported_exportLine hv, List.forall_mem_cons,
      ← ih hvs hrest (Nat.le_of_succ_le_succ hf)]
    constructor
    · rintro ⟨name, quoted, value, behind', rest', more, he, hu, hb', hs, hpairs⟩
      obtain ⟨rfl, rfl⟩ := Prod.mk.inj (Option.some.inj he)
      simp only [List.map_cons, pair, List.cons.injEq, Prod.mk.injEq, true_and] at hpairs
      obtain ⟨hvalue, rfl⟩ := hpairs
      obtain rfl : value = v.value.toList := by rw [hvalue, String.toList_ofList]
      obtain ⟨hp, rfl⟩ := (unquote_protect_iff (fences_behind hvs hb hrest)).1 hu
      obtain rfl := Option.some.inj (hb.symm.trans hb')
      exact ⟨hp, hs⟩
    · rintro ⟨hp, hs⟩
      exact ⟨_, _, _, _, _, _, rfl, unquote_protect hp _, hb, hs, by simp [pair]⟩

theorem onlySettings_exports_iff {vs : List Variable} (hn : ∀ v ∈ vs, isName v.name.toList)
    {text : String} (ht : IsExportText vs text.toList) :
    onlySettings? text = some (vs.map Variable.pair) ↔ ∀ v ∈ vs, isPlain v.value.toList :=
  settings_exports_iff hn ht (String.length_toList ▸ length_le_of_isExportText ht)

end Variable

theorem name_mem_of_mem_buildVariables {archive : Path} {i : Inherited} {v : Variable}
    (hv : v ∈ buildVariables archive i) : v.name ∈ ["LIBTORCH", "LD_LIBRARY_PATH", "PATH"] := by
  simp only [buildVariables, List.mem_append, List.mem_cons, List.mem_map, Option.mem_toList,
    List.not_mem_nil, or_false] at hv ⊢
  obtain (rfl | rfl) | ⟨path, -, rfl⟩ := hv <;> simp

theorem isName_of_mem_buildVariables {archive : Path} {i : Inherited} {v : Variable}
    (hv : v ∈ buildVariables archive i) : Shell.isName v.name.toList := by
  have hall : ∀ n ∈ ["LIBTORCH", "LD_LIBRARY_PATH", "PATH"], Shell.isName n.toList := by decide
  exact hall _ (name_mem_of_mem_buildVariables hv)

end Provision
