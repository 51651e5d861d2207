import Provision.Report

namespace Provision

namespace Json

/-- Every line of a text but the first starts with a blank. -/
inductive Indented : List Char → Prop
  | nil : Indented []
  | cons {c : Char} {rest : List Char} (blank : c = '\n' → rest.head? = some ' ')
    (others : Indented rest) : Indented (c :: rest)

theorem indented_of_one_line {t : List Char} (h : '\n' ∉ t) : Indented t := by
  induction t with
  | nil => exact .nil
  | cons c rest ih =>
    refine .cons ?_ (ih fun hmem => h (List.mem_cons_of_mem c hmem))
    rintro rfl
    exact absurd List.mem_cons_self h

theorem Indented.append {a b : List Char} (ha : Indented a) (hb : Indented b) :
    Indented (a ++ b) := by
  induction ha with
  | nil => exact hb
  | cons blank _ ih =>
    rw [List.cons_append]
    refine .cons (fun hnew => ?_) ih
    rw [List.head?_append, blank hnew, Option.some_or]

/-- The line behind a line of an indented text is not a closing brace. -/
theorem Indented.ne_closing {t s s' : List Char} (ht : Indented ('\n' :: t)) :
    '\x7d' :: s ≠ t ++ '\n' :: s' := by
  cases ht with
  | cons blank _ =>
    have hhead := blank rfl
    cases t with
    | nil => cases hhead
    | cons c t =>
      intro heq
      rw [List.head?_cons, ← (List.cons.inj heq).1] at hhead
      simp at hhead

theorem Indented.cut {a b r r' : List Char} (ha : Indented a) (hb : Indented b)
    (h : a ++ '\n' :: '\x7d' :: r = b ++ '\n' :: '\x7d' :: r') : a = b ∧ r = r' := by
  induction ha generalizing b with
  | nil =>
    cases hb with
    | nil =>
      simp only [List.nil_append, List.cons.injEq, true_and] at h
      exact ⟨rfl, h⟩
    | cons blank others =>
      obtain ⟨rfl, hrest⟩ := List.cons.inj h
      exact absurd hrest (Indented.cons blank others).ne_closing
  | cons blank others ih =>
    cases hb with
    | nil =>
      obtain ⟨rfl, hrest⟩ := List.cons.inj h
      exact absurd hrest.symm (Indented.cons blank others).ne_closing
    | cons _ others' =>
      obtain ⟨rfl, hrest⟩ := List.cons.inj h
      obtain ⟨rfl, htail⟩ := ih others' hrest
      exact ⟨rfl, htail⟩

theorem newline_not_mem_escapedChar (c : Char) : '\n' ∉ escapedChar c := by
  have control : ∀ n : Fin 32,
      '\n' ∉ ['\\', 'u', '0', '0', hexDigit (n / 16), hexDigit (n % 16)] := by decide
  unfold escapedChar
  split <;> try decide
  rename_i hnew _ _
  split
  · rename_i hlt
    exact control ⟨c.toNat, hlt⟩
  · intro hmem
    exact hnew (List.mem_singleton.mp hmem).symm

theorem indented_quoted (s : String) : Indented (quoted s).toList := by
  refine indented_of_one_line fun hmem => ?_
  simp only [quoted, String.toList_append, String.toList_ofList, List.mem_append] at hmem
  rcases hmem with (hmem | hmem) | hmem
  · simp at hmem
  · obtain ⟨c, -, hc⟩ := List.mem_flatMap.mp hmem
    exact newline_not_mem_escapedChar c hc
  · simp at hmem

theorem indented_indentation (depth : Nat) : Indented (indentation (depth + 1)).toList := by
  have htext : (indentation (depth + 1)).toList =
      '\n' :: ' ' :: List.replicate (2 * depth + 1) ' ' := by
    simp only [indentation, String.toList_append, String.toList_ofList, Nat.mul_add]
    rfl
  rw [htext, ← List.replicate_succ]
  refine .cons (fun _ => rfl) (indented_of_one_line fun hmem => ?_)
  exact absurd (List.eq_of_mem_replicate hmem) (by decide)

mutual

theorem indented_render (depth : Nat) (v : Json) : Indented (render (depth + 1) v).toList := by
  have word (t : String) (h : '\n' ∉ t.toList) : Indented t.toList := indented_of_one_line h
  match v with
  | null => exact word "null" (by decide)
  | bool true => exact word "true" (by decide)
  | bool false => exact word "false" (by decide)
  | string t => exact indented_quoted t
  | array [] => exact word "[]" (by decide)
  | array (v :: vs) =>
    simp only [render, String.toList_append]
    refine .append (.append ?_ (indented_indentation depth)) (indented_of_one_line (by decide))
    refine .append (.append ?_ (indented_render (depth + 1) v))
      (indented_renderItems (depth + 1) vs)
    exact .append (indented_of_one_line (by decide)) (indented_indentation (depth + 1))
  | object [] => exact word "\x7b\x7d" (by decide)
  | object ((name, v) :: fields) =>
    simp only [render, String.toList_append]
    refine .append (.append ?_ (indented_indentation depth)) (indented_of_one_line (by decide))
    refine .append (.append ?_ (indented_render (depth + 1) v))
      (indented_renderFields (depth + 1) fields)
    refine .append (.append ?_ (indented_quoted name)) (indented_of_one_line (by decide))
    exact .append (indented_of_one_line (by decide)) (indented_indentation (depth + 1))

theorem indented_renderItems (depth : Nat) (vs : List Json) :
    Indented (renderItems (depth + 1) vs).toList := by
  match vs with
  | [] => exact .nil
  | v :: vs =>
    simp only [renderItems, String.toList_append]
    refine .append (.append ?_ (indented_render depth v)) (indented_renderItems depth vs)
    exact .append (indented_of_one_line (by decide)) (indented_indentation depth)

theorem indented_renderFields (depth : Nat) (fields : List (String × Json)) :
    Indented (renderFields (depth + 1) fields).toList := by
  match fields with
  | [] => exact .nil
  | (name, v) :: fields =>
    simp only [renderFields, String.toList_append]
    refine .append (.append ?_ (indented_render depth v)) (indented_renderFields depth fields)
    refine .append (.append ?_ (indented_quoted name)) (indented_of_one_line (by decide))
    exact .append (indented_of_one_line (by decide)) (indented_indentation depth)

end

/-- The text of an object with fields closes with the first line that is not indented. -/
theorem pretty_object (name : String) (v : Json) (fields : List (String × Json)) :
    ∃ inner, Indented inner ∧
      (object ((name, v) :: fields)).pretty.toList = inner ++ ['\n', '\x7d'] := by
  refine ⟨("\x7b" ++ indentation 1 ++ quoted name ++ ": " ++ render 1 v ++
    renderFields 1 fields).toList, ?_, ?_⟩
  · simp only [String.toList_append]
    refine .append (.append ?_ (indented_render 0 v)) (indented_renderFields 0 fields)
    refine .append (.append ?_ (indented_quoted name)) (indented_of_one_line (by decide))
    exact .append (indented_of_one_line (by decide)) (indented_indentation 0)
  · rw [pretty, render, String.toList_append, String.toList_append, List.append_assoc]
    rfl

end Json

/-- The text of an envelope, which says whether a run succeeded. -/
inductive Envelope : Bool → String → Prop
  | success (data : Json) :
    Envelope true ((Json.object [("ok", .bool true), ("data", data)]).pretty ++ "\n")
  | failure (code message : String) :
    Envelope false ((Json.object [("ok", .bool false),
      ("error", .object [("code", .string code), ("message", .string message)])]).pretty ++ "\n")

namespace Envelope

variable {ok ok' : Bool} {t t' r r' : String}

theorem text (h : Envelope ok t) :
    ∃ inner, Json.Indented inner ∧ t.toList = inner ++ ['\n', '\x7d', '\n'] := by
  have closed {name : String} {v : Json} {fields : List (String × Json)} :
      ∃ inner, Json.Indented inner ∧ ((Json.object ((name, v) :: fields)).pretty ++ "\n").toList =
        inner ++ ['\n', '\x7d', '\n'] := by
    obtain ⟨inner, hinner, htext⟩ := Json.pretty_object name v fields
    refine ⟨inner, hinner, ?_⟩
    rw [String.toList_append, htext, List.append_assoc]
    rfl
  cases h with
  | success data => exact closed
  | failure code message => exact closed

theorem verdict (h : Envelope ok t) : t.toList[10]? = some (if ok then 't' else 'f') := by
  cases h with
  | success data =>
    simp only [Json.pretty, Json.render, String.toList_append]
    rfl
  | failure code message =>
    simp only [Json.pretty, Json.render, String.toList_append]
    rfl

/-- An envelope can be cut off from whatever was written after it. -/
theorem cut (h : Envelope ok t) (h' : Envelope ok' t') (heq : t ++ r = t' ++ r') :
    ok = ok' ∧ t = t' ∧ r = r' := by
  obtain ⟨inner, hinner, ht⟩ := h.text
  obtain ⟨inner', hinner', ht'⟩ := h'.text
  have hchars := congrArg String.toList heq
  rw [String.toList_append, String.toList_append, ht, ht', List.append_assoc,
    List.append_assoc] at hchars
  obtain ⟨rfl, hrest⟩ := hinner.cut hinner' hchars
  have htext : t = t' := String.ext (ht.trans ht'.symm)
  subst htext
  refine ⟨?_, rfl, String.ext (List.cons.inj hrest).2⟩
  have hverdict := h.verdict.symm.trans h'.verdict
  cases ok <;> cases ok' <;> first | rfl | exact absurd hverdict (by decide)

end Envelope

/-- A text that is a row of envelopes, with what each of them says. -/
inductive Envelopes : List Bool → String → Prop
  | none : Envelopes [] ""
  | more {ok : Bool} {oks : List Bool} {t rest : String} (first : Envelope ok t)
    (others : Envelopes oks rest) : Envelopes (ok :: oks) (t ++ rest)

namespace Envelopes

variable {oks oks' : List Bool} {t : String}

theorem one {ok : Bool} (h : Envelope ok t) : Envelopes [ok] t := by
  rw [← String.append_empty (s := t)]
  exact .more h .none

theorem two {ok ok' : Bool} {t' : String} (h : Envelope ok t) (h' : Envelope ok' t') :
    Envelopes [ok, ok'] (t ++ t') :=
  .more h (.one h')

theorem ne_empty {ok : Bool} (h : Envelopes (ok :: oks) t) : t ≠ "" := by
  rintro rfl
  generalize hempty : "" = t at h
  cases h with
  | more first _ =>
    obtain ⟨inner, -, htext⟩ := first.text
    have hchars := congrArg String.toList hempty
    rw [String.toList_append, htext] at hchars
    simp at hchars

theorem unique (h : Envelopes oks t) (h' : Envelopes oks' t) : oks = oks' := by
  induction h generalizing oks' with
  | none =>
    cases oks' with
    | nil => rfl
    | cons ok oks' => exact absurd rfl h'.ne_empty
  | @more ok oks t rest first others ih =>
    generalize htext : t ++ rest = text at h'
    cases h' with
    | none => exact absurd htext (more first others).ne_empty
    | more first' others' =>
      obtain ⟨rfl, rfl, rfl⟩ := first.cut first' htext
      rw [ih others']

end Envelopes
end Provision
