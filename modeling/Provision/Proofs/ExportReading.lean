import Provision.Proofs.Exports
import Provision.Shell.Program

namespace Provision.Shell

/-- Reading that moves on from one text to another, wherever it is begun, and changes nothing else
but the line. -/
def Reads {α : Type} (x : Reader α) (r : Reading) (cs : List Char) (a : α) (rest : List Char) :
    Prop :=
  ∀ line, ∃ line', x.run { r with rest := cs, line } = .ok (a, { r with rest, line := line' })

namespace Reads

variable {α β : Type} {r : Reading} {cs middle rest : List Char} {c : Char}

theorem pure (a : α) : Reads (pure a) r cs a cs := fun line => ⟨line, rfl⟩

theorem bind {x : Reader α} {f : α → Reader β} {a : α} {b : β} (hx : Reads x r cs a middle)
    (hf : Reads (f a) r middle b rest) : Reads (x >>= f) r cs b rest := by
  intro line
  obtain ⟨line', hx⟩ := hx line
  obtain ⟨line'', hf⟩ := hf line'
  exact ⟨line'', by rw [StateT.run_bind, hx]; exact hf⟩

theorem congr {x : Reader α} {a b : α} (hx : Reads x r cs a rest) (h : a = b) :
    Reads x r cs b rest := h ▸ hx

theorem get {f : Reading → Reader β} {b : β}
    (hf : ∀ line, Reads (f { r with rest := cs, line }) r cs b rest) :
    Reads (get >>= f) r cs b rest := fun line => hf line line

theorem skip : Reads Reader.skip r (c :: cs) () cs := by
  intro line
  exact ⟨if c = '\n' then line + 1 else line, rfl⟩

theorem peek : Reads Reader.peek? r cs cs.head? cs := fun line => ⟨line, rfl⟩

theorem take : Reads Reader.take? r (c :: cs) (some c) cs := peek.bind (skip.bind (.pure _))

/-- Lines are joined only where a backslash stands. -/
theorem join (hc : c ≠ '\\') : Reads Reader.join r (c :: cs) () (c :: cs) := by
  intro line
  have h : Reader.behindJoins (c :: cs) = (0, c :: cs) := by
    rw [Reader.behindJoins]
    exact fun rest h => hc (List.cons.inj h).1
  exact ⟨line, by simp [Reader.join, h]; rfl⟩

theorem peekJoined (hc : c ≠ '\\') :
    Reads Reader.peekJoined? r (c :: cs) (some c) (c :: cs) := (join hc).bind peek

end Reads

def quotedWord (cs : List Char) : Word := cs.map (.char · true)

/-- Whether a character outside quotes stands for itself and does not end a word. -/
def isLetter (c : Char) : Bool := isNameChar c || c = '='

theorem ne_of_isLetter {c d : Char} (hc : isLetter c) (hd : isLetter d = false) : c ≠ d := by
  rintro rfl
  simp [hd] at hc

theorem isLetter_of_endsWord {c : Char} (h : endsWord c) : isLetter c = false := by
  simp only [endsWord, Bool.or_eq_true, decide_eq_true_eq, or_assoc] at h
  obtain rfl | rfl | rfl | rfl | rfl | rfl | rfl | rfl | rfl | rfl := h <;> rfl

theorem isLetter_of_isName {name : List Char} (hn : isName name) : ∀ c ∈ name, isLetter c :=
  fun c hc => by simp [isLetter, isNameChar_of_isName hn c hc]

theorem reads_escaped {c : Char} (hn : c ≠ '\n') (r : Reading) (cs : List Char) :
    Reads (Word.escaped .double) r (c :: cs)
      (quotedWord (if Mode.double.isEscapable c then [c] else ['\\', c])) cs := by
  unfold Word.escaped
  refine Reads.take.bind ?_
  cases hc : Mode.double.isEscapable c with
  | false =>
    simp only [hc, Mode.isQuoted, ne_eq, reduceCtorEq, not_false_eq_true, decide_true,
      Bool.and_self, Bool.not_false, if_true, Bool.false_eq_true, if_false]
    exact .pure _
  | true =>
    simp only [hc, Bool.not_true, Bool.and_false, Bool.false_eq_true, if_true, if_false]
    exact .pure _

theorem reads_join (r : Reading) (cs : List Char) :
    Reads (Word.escaped .double) r ('\n' :: cs) [] cs := Reads.take.bind (.pure _)

section Words

variable {inner : Inner} {r : Reading} {cs middle rest : List Char} {fuel : Nat}
  {w inside word : Word} {c : Char}

theorem reads_closing :
    Reads (Word.read inner (fuel + 1) .double 0 w) r ('"' :: cs) w.reverse cs :=
  Reads.peek.bind (Reads.skip.bind (.pure _))

theorem reads_backslash {more : Word} (he : Reads (Word.escaped .double) r cs more middle)
    (hm : Reads (Word.read inner fuel .double 0 (more.reverse ++ w)) r middle word rest) :
    Reads (Word.read inner (fuel + 1) .double 0 w) r ('\\' :: cs) word rest :=
  Reads.peek.bind (Reads.skip.bind (he.bind hm))

theorem reads_meaningless (hc : Mode.double.isEscapable c = false)
    (hm : Reads (Word.read inner fuel .double 0 (.char c true :: w)) r cs word rest) :
    Reads (Word.read inner (fuel + 1) .double 0 w) r (c :: cs) word rest := by
  obtain ⟨⟨⟨h1, h2⟩, h3⟩, h4⟩ : ((c ≠ '\\' ∧ c ≠ '\x60') ∧ c ≠ '$') ∧ c ≠ '"' := by
    simpa [Mode.isEscapable] using hc
  rw [Word.read]
  refine Reads.peek.bind ?_
  simp only [List.head?_cons, h1, h2, h3, h4, Mode.isQuoted, reduceCtorEq, ne_eq,
    not_false_eq_true, decide_true, decide_false, Bool.or_self, Bool.and_self, Bool.not_true,
    Bool.false_and, Bool.and_false, Bool.and_true, Bool.false_eq_true, if_false]
  exact Reads.skip.bind hm

theorem reads_letter (hc : isLetter c)
    (hm : Reads (Word.read inner fuel .bare 0 (.char c false :: w)) r cs word rest) :
    Reads (Word.read inner (fuel + 1) .bare 0 w) r (c :: cs) word rest := by
  have hend : endsWord c = false :=
    Bool.eq_false_iff.2 fun he => by simp [isLetter_of_endsWord he] at hc
  rw [Word.read]
  refine Reads.peek.bind ?_
  have hne (d : Char) (hd : isLetter d = false) : c ≠ d := ne_of_isLetter hc hd
  simp only [List.head?_cons, hend, hne '\\' rfl, hne '\'' rfl, hne '"' rfl, hne '$' rfl,
    hne '\x60' rfl, reduceCtorEq, decide_false, Bool.or_self, Bool.false_and, Bool.and_false,
    Bool.false_eq_true, if_false]
  exact Reads.skip.bind hm

theorem reads_letters {letters : List Char} (hl : ∀ c ∈ letters, isLetter c)
    (hm : Reads (Word.read inner fuel .bare 0 ((letters.map (.char · false)).reverse ++ w)) r cs
      word rest) :
    Reads (Word.read inner (fuel + letters.length) .bare 0 w) r (letters ++ cs) word rest := by
  induction letters generalizing w with
  | nil => exact hm
  | cons c letters ih =>
    simp only [List.mem_cons, forall_eq_or_imp] at hl
    exact reads_letter hl.1 (ih hl.2 (by simpa using hm))

theorem reads_wordEnd (hc : ∀ c, cs.head? = some c → endsWord c) :
    Reads (Word.read inner (fuel + 1) .bare 0 w) r cs w.reverse cs := by
  rw [Word.read]
  refine Reads.peek.bind ?_
  cases hcs : cs.head? with
  | none => exact .pure _
  | some c =>
    simp only [hc c hcs, decide_true, Bool.true_or, Bool.and_self, if_true]
    exact .pure _

theorem reads_quotes (hd : Reads (Word.read inner fuel .double 0 []) r cs inside middle)
    (hm : Reads (Word.read inner fuel .bare 0 ((quotedSection inside).reverse ++ w)) r middle word
      rest) :
    Reads (Word.read inner (fuel + 1) .bare 0 w) r ('"' :: cs) word rest :=
  Reads.peek.bind (Reads.skip.bind (hd.bind hm))

theorem reads_double (inner : Inner) {text : List Char} (h : unquote? cs = some (text, rest))
    (hf : cs.length ≤ fuel) (w : Word) :
    Reads (Word.read inner fuel .double 0 w) r cs (w.reverse ++ quotedWord text) rest := by
  fun_induction unquote? cs generalizing fuel w text with
  | case1 => cases h
  | case2 cs =>
    obtain ⟨rfl, rfl⟩ := Prod.mk.inj (Option.some.inj h)
    obtain ⟨fuel, rfl⟩ := Nat.exists_eq_add_one.2 (Nat.lt_of_lt_of_le (Nat.succ_pos _) hf)
    rw [quotedWord, List.map_nil, List.append_nil]
    exact reads_closing
  | case3 cs ih =>
    obtain ⟨fuel, rfl⟩ := Nat.exists_eq_add_one.2 (Nat.lt_of_lt_of_le (Nat.succ_pos _) hf)
    simp only [List.length_cons] at hf
    exact reads_backslash (reads_join r cs) (ih h (by omega) w)
  | case4 c cs hn ih =>
    obtain ⟨fuel, rfl⟩ := Nat.exists_eq_add_one.2 (Nat.lt_of_lt_of_le (Nat.succ_pos _) hf)
    simp only [List.length_cons] at hf
    obtain ⟨more, hm, rfl⟩ := some_of_map _ h
    refine reads_backslash (reads_escaped hn r cs) ?_
    have hread := ih hm (show cs.length ≤ fuel by omega)
      ((quotedWord (if Mode.double.isEscapable c then [c] else ['\\', c])).reverse ++ w)
    simpa [quotedWord] using hread
  | case5 c cs h1 h2 h3 hc => cases h
  | case6 c cs h1 h2 h3 hc ih =>
    obtain ⟨fuel, rfl⟩ := Nat.exists_eq_add_one.2 (Nat.lt_of_lt_of_le (Nat.succ_pos _) hf)
    simp only [List.length_cons] at hf
    obtain ⟨more, hm, rfl⟩ := some_of_map [c] h
    -- A backslash comes here only at the end of the text, where no quote closes any more.
    have hs : c ≠ '\\' := by
      rintro rfl
      cases cs with
      | nil => cases hm
      | cons d cs => exact h3 d cs rfl rfl
    have hq : c ≠ '"' := h1
    have hb : Mode.double.isEscapable c = false := by
      simpa [Mode.isEscapable, hs, hq, and_comm] using hc
    exact reads_meaningless hb (by simpa [quotedWord] using ih hm (by omega) (.char c true :: w))

end Words

def exportWord : Word := "export".toList.map (.char · false)

def settingWord (name value : List Char) : Word :=
  (name ++ ['=']).map (.char · false) ++ .nothing :: quotedWord value

theorem quotedSection_quotedWord (cs : List Char) :
    quotedSection (quotedWord cs) = .nothing :: quotedWord cs := by
  cases cs <;> rfl

theorem bareText_letters (letters : List Char) :
    Word.bareText? (letters.map (.char · false)) = some (String.ofList letters) := by
  have h : letters.mapM (fun c => some c) = some letters := by
    simpa using List.mapM_pure (m := Option) (l := letters) (f := id)
  simp [Word.bareText?, Function.comp_def, h]

theorem bareText_exportWord : exportWord.bareText? = some "export" := by decide

theorem bareText_settingWord (name value : List Char) :
    (settingWord name value).bareText? = none := by
  simp [settingWord, Word.bareText?]

theorem asReserved_exportWord : (Token.word exportWord).asReserved = .word exportWord := rfl

theorem setting_exportWord : setting? exportWord = none := by decide

theorem setting_settingWord {name : List Char} (hn : isName name) (value : List Char) :
    setting? (settingWord name value) =
      some (String.ofList name, .nothing :: quotedWord value) := by
  have hne : ∀ c ∈ name, c ≠ '=' := by
    rintro c hc rfl
    exact absurd (isNameChar_of_isName hn _ hc) (by decide)
  have hw : settingWord name value =
      name.map (.char · false) ++ .char '=' false :: .nothing :: quotedWord value := by
    simp [settingWord]
  unfold setting?
  rw [hw, List.takeWhile_append_of_pos (by simpa using hne)]
  simp [bareText_letters, hn]

def lineEnd : List Char → Token
  | [] => .ends
  | _ :: _ => .newline

theorem eq_newline_of_behindLine {behind rest : List Char} (hb : behindLine? behind = some rest)
    {c : Char} (hc : behind.head? = some c) : c = '\n' := by
  unfold behindLine? at hb
  split at hb
  · cases hc
  · exact (Option.some.inj hc).symm
  · cases hb

section Tokens

variable {inner : Inner} {r : Reading} {name value quoted cs behind rest : List Char} {t : Token}
  {fuel : Nat}

theorem reads_bareWord (letters : List Char) (hl : ∀ c ∈ letters, isLetter c)
    (hc : ∀ c, cs.head? = some c → endsWord c) :
    Reads (Word.readAll inner .bare) r (letters ++ cs) (letters.map (.char · false)) cs := by
  refine Reads.get fun line => ?_
  obtain ⟨fuel, hfuel⟩ : ∃ fuel, 2 * (letters ++ cs).length + 2 = fuel + 1 + letters.length := by
    refine ⟨2 * cs.length + letters.length + 1, ?_⟩
    simp
    omega
  rw [hfuel]
  exact reads_letters hl ((reads_wordEnd hc).congr (by simp))

theorem reads_settingWord (inner : Inner) (r : Reading) (hn : isName name)
    (h : unquote? quoted = some (value, behind)) (hb : behindLine? behind = some rest) :
    Reads (Word.readAll inner .bare) r (name ++ '=' :: '"' :: quoted) (settingWord name value)
      behind := by
  refine Reads.get fun line => ?_
  obtain ⟨fuel, hfuel, hf⟩ : ∃ fuel, 2 * (name ++ '=' :: '"' :: quoted).length + 2 =
      fuel + 1 + 1 + (name ++ ['=']).length ∧ quoted.length ≤ fuel + 1 := by
    refine ⟨2 * quoted.length + name.length + 3, ?_, by omega⟩
    simp
    omega
  have hl : ∀ c ∈ name ++ ['='], isLetter c := by
    simp only [List.forall_mem_append]
    exact ⟨isLetter_of_isName hn, List.all_eq_true.1 (by decide)⟩
  rw [hfuel, show name ++ '=' :: '"' :: quoted = (name ++ ['=']) ++ '"' :: quoted by simp]
  refine reads_letters hl (reads_quotes (reads_double inner h hf []) ?_)
  rw [List.reverse_nil, List.nil_append, quotedSection_quotedWord]
  refine (reads_wordEnd fun c hc => ?_).congr (by simp [settingWord])
  obtain rfl := eq_newline_of_behindLine hb hc
  rfl

theorem reads_wordToken {c : Char} {w : Word} (hc : isLetter c)
    (hd : ∀ d, behind.head? = some d → d ≠ '<' ∧ d ≠ '>')
    (hw : Reads (Word.readAll inner .bare) r (c :: cs) w behind) :
    Reads (Token.read inner false (fuel + 1)) r (c :: cs) (.word w) behind := by
  have hword : Reads (Token.wordOrRedirect inner false) r (c :: cs) (.word w) behind := by
    unfold Token.wordOrRedirect
    refine hw.bind (Reads.peek.bind ?_)
    cases hhead : behind.head? with
    | none => exact .pure _
    | some d =>
      cases Token.descriptor? w with
      | none => exact .pure _
      | some descriptor =>
        simp only [hd d hhead, decide_false, Bool.or_self, Bool.false_eq_true, if_false]
        exact .pure _
  rw [Token.read]
  have hne (d : Char) (hd : isLetter d = false) : c ≠ d := ne_of_isLetter hc hd
  refine (Reads.peekJoined (hne '\\' rfl)).bind ?_
  simp only [hne ' ' rfl, hne '\t' rfl, hne '#' rfl, hne '\n' rfl, hne '&' rfl, hne '|' rfl,
    hne ';' rfl, hne '(' rfl, hne ')' rfl, decide_false, Bool.or_self, Bool.false_eq_true, if_false]
  exact hword

theorem reads_blank (ht : Reads (Token.read inner false fuel) r cs t rest) :
    Reads (Token.read inner false (fuel + 1)) r (' ' :: cs) t rest :=
  (Reads.peekJoined (by decide)).bind (Reads.skip.bind ht)

theorem reads_take (hp : r.pushed = none)
    (ht : ∀ fuel, cs.length ≤ fuel → Reads (Token.read inner false (fuel + 1)) r cs t rest) :
    Reads (Token.take inner false) r cs t rest := by
  refine Reads.get fun line => ?_
  simp only [hp]
  exact ht _ (Nat.le_refl _)

theorem reads_exportToken (hp : r.pushed = none) :
    Reads (Token.take inner false) r ("export ".toList ++ quoted) (.word exportWord)
      (' ' :: quoted) := by
  have hspace : ∀ c, (' ' :: quoted).head? = some c → c = ' ' := fun c hc =>
    (Option.some.inj hc).symm
  refine reads_take hp fun _ _ => reads_wordToken (by decide) (fun c hc => ?_)
    (reads_bareWord "export".toList (List.all_eq_true.1 (by decide)) fun c hc => ?_)
  · simp [hspace c hc]
  · simp [hspace c hc, endsWord]

theorem reads_settingToken (hp : r.pushed = none) (hn : isName name)
    (h : unquote? quoted = some (value, behind)) (hb : behindLine? behind = some rest) :
    Reads (Token.take inner false) r (' ' :: (name ++ '=' :: '"' :: quoted))
      (.word (settingWord name value)) behind := by
  refine reads_take hp fun fuel hf => ?_
  obtain ⟨fuel, rfl⟩ := Nat.exists_eq_add_one.2 (Nat.lt_of_lt_of_le (Nat.succ_pos _) hf)
  have hw := reads_settingWord inner r hn h hb
  cases name with
  | nil => cases hn
  | cons c name =>
    refine reads_blank (reads_wordToken (isLetter_of_isName hn c (by simp)) (fun d hd => ?_) hw)
    obtain rfl := eq_newline_of_behindLine hb hd
    decide

theorem reads_lineEnd (hp : r.pushed = none) (hb : behindLine? behind = some rest) :
    Reads (Token.take inner false) r behind (lineEnd behind) rest := by
  refine reads_take hp fun fuel _ => ?_
  unfold behindLine? at hb
  split at hb
  · obtain rfl := Option.some.inj hb
    exact fun line => ⟨line, rfl⟩
  · obtain rfl := Option.some.inj hb
    exact (Reads.peekJoined (by decide)).bind (Reads.skip.bind (.pure _))
  · cases hb

end Tokens

def Turns {α : Type} (x : Reader α) (r : Reading) (cs : List Char) (good : α → Prop)
    (after : Reading) (rest : List Char) : Prop :=
  ∀ line, ∃ a line', good a ∧
    x.run { r with rest := cs, line } = .ok (a, { after with rest, line := line' })

namespace Turns

variable {α β : Type} {r after last : Reading} {cs middle rest : List Char} {good : α → Prop}
  {fine : β → Prop}

theorem ofReads {x : Reader α} {a : α} (h : Reads x r cs a rest) :
    Turns x r cs (· = a) r rest := fun line =>
  let ⟨line', h⟩ := h line
  ⟨a, line', rfl, h⟩

theorem pure {a : α} (ha : good a) : Turns (pure a) r cs good r cs := fun line =>
  ⟨a, line, ha, rfl⟩

theorem bind {x : Reader α} {f : α → Reader β} (hx : Turns x r cs good after middle)
    (hf : ∀ a, good a → Turns (f a) after middle fine last rest) :
    Turns (x >>= f) r cs fine last rest := by
  intro line
  obtain ⟨a, line', ha, hx⟩ := hx line
  obtain ⟨b, line'', hb, hf⟩ := hf a ha line'
  exact ⟨b, line'', hb, by rw [StateT.run_bind, hx]; exact hf⟩

theorem next {x : Reader α} {f : α → Reader β} {a : α} (hx : Turns x r cs (· = a) after middle)
    (hf : Turns (f a) after middle fine last rest) : Turns (x >>= f) r cs fine last rest :=
  hx.bind (by rintro _ rfl; exact hf)

theorem mono {x : Reader α} {better : α → Prop} (hx : Turns x r cs good after rest)
    (h : ∀ a, good a → better a) : Turns x r cs better after rest := by
  intro line
  obtain ⟨a, line', ha, hx⟩ := hx line
  exact ⟨a, line', h a ha, hx⟩

theorem get {f : Reading → Reader β}
    (hf : ∀ line, Turns (f { r with rest := cs, line }) r cs fine last rest) :
    Turns (get >>= f) r cs fine last rest := fun line => hf line line

theorem putBack (t : Token) :
    Turns (Token.putBack t) r cs (· = ()) { r with pushed := some t } cs := fun line =>
  ⟨(), line, rfl, rfl⟩

end Turns

/-- Whether a token means itself where it is read: it is no name that stands for something else. -/
structure Reading.Keeps (r : Reading) (t : Token) : Prop where
  standing : r.standing = []
  unaliased : ∀ w name, t = .word w → w.bareText? = some name → r.aliases.lookup name = none

/-- Whether nothing waits to be read but the text, and `export` stands for itself. -/
structure Reading.Clear (r : Reading) : Prop where
  standing : r.standing = []
  awaited : r.awaited = []
  unaliased : r.aliases.lookup "export" = none

namespace Reading.Clear

variable {r : Reading} (hr : r.Clear)
include hr

theorem unpushed : Reading.Clear { r with pushed := none } :=
  ⟨hr.standing, hr.awaited, hr.unaliased⟩

theorem keeps_lineEnd (behind : List Char) : r.Keeps (lineEnd behind) :=
  ⟨hr.standing, by cases behind <;> rintro _ _ ⟨⟩⟩

theorem keeps_export : r.Keeps (.word exportWord) := by
  refine ⟨hr.standing, ?_⟩
  rintro _ name ⟨⟩ ht
  obtain rfl := Option.some.inj (bareText_exportWord.symm.trans ht)
  exact hr.unaliased

theorem keeps_setting (name value : List Char) : r.Keeps (.word (settingWord name value)) := by
  refine ⟨hr.standing, ?_⟩
  rintro _ text ⟨⟩ ht
  rw [bareText_settingWord] at ht
  cases ht

end Reading.Clear

section Commands

variable {inner : Inner} {r after : Reading} {cs rest : List Char} {t : Token}

theorem turns_pushed :
    Turns (Token.take inner false) { r with pushed := some t } cs (· = t)
      { r with pushed := none } cs := fun line => ⟨t, line, rfl, rfl⟩

theorem turns_passStanding (hs : r.standing = []) (before : Nat) :
    Turns (Token.passStanding before) r cs (· = false) r cs := fun line =>
  ⟨false, line, rfl, by simp [Token.passStanding, hs]; rfl⟩

theorem turns_stand {name : String} (ha : r.aliases.lookup name = none) :
    Turns (Token.stand name) r cs (· = false) r cs := fun line =>
  ⟨false, line, rfl, by simp [Token.stand, ha]; rfl⟩

theorem turns_named {take : Reader Token} (ht : Turns take r cs (· = t) after rest)
    (hk : after.Keeps t) (fuel : Nat) (starts : Bool) :
    Turns (Token.named take fuel starts) r cs (· = t) after rest := by
  cases fuel with
  | zero => exact ht
  | succ fuel =>
    refine Turns.get fun line => ht.next ((turns_passStanding hk.standing _).next ?_)
    cases t with
    | word w =>
      cases hw : (if starts then w.bareText? else none) with
      | none =>
        simp only [Bool.false_or, hw]
        exact .pure rfl
      | some name =>
        have hb : w.bareText? = some name := by
          cases starts <;> simp_all
        simp only [Bool.false_or, hw]
        exact (turns_stand (hk.unaliased w name rfl hb)).next (.pure rfl)
    | _ => exact .pure rfl

theorem turns_steps : Turns Reader.steps r cs (cs.length + 1 < ·) r cs := fun line =>
  ⟨_, line, Nat.lt_of_lt_of_le (Nat.lt_succ_self _) (Nat.le_mul_of_pos_right _ (by omega)), rfl⟩

theorem turns_next (ht : Turns (Token.take inner false) r cs (· = t) after rest)
    (hk : after.Keeps t) (starts : Bool) :
    Turns (Token.next inner starts) r cs (· = t) after rest :=
  turns_steps.bind fun fuel _ => turns_named ht hk fuel starts

theorem turns_first (ht : Turns (Token.take inner false) r cs (· = t) after rest)
    (hk : after.Keeps t) (hr : t.asReserved = t) :
    Turns (Token.first inner false) r cs (· = t) after rest := by
  have hsame : Turns (pure t.asReserved) after rest (· = t) after rest := .pure hr
  exact turns_steps.bind fun fuel _ => turns_named (ht.next hsame) hk fuel true

theorem turns_awaited (hr : r.Clear) :
    Turns (Awaited.readAll inner) { r with pushed := none } cs (· = ()) { r with pushed := none }
      cs := fun line => ⟨(), line, rfl, by simp [Awaited.readAll, hr.awaited]; rfl⟩

end Commands

/-- The command that exports a variable, wherever it stands. -/
def Exports (name value : List Char) (c : Script) : Prop :=
  ∃ line, c = .simple line [] [exportWord, settingWord name value] []

/-- What is put back of a line that is read: the end of the text, where the line ends with it. -/
def leftOver : List Char → Option Token
  | [] => some .ends
  | _ :: _ => none

section ExportLine

variable {g : Grammar} {r : Reading} {name value quoted behind rest : List Char} (hr : r.Clear)
include hr

/-- The end of the line, once put back, is the next token wherever one is asked for. -/
theorem turns_lineEnd (starts : Bool) :
    Turns (Token.next g.inner starts) { r with pushed := some (lineEnd behind) } rest
      (· = lineEnd behind) { r with pushed := none } rest :=
  turns_next turns_pushed (hr.unpushed.keeps_lineEnd behind) starts

theorem turns_simple (hn : isName name) (h : unquote? quoted = some (value, behind))
    (hb : behindLine? behind = some rest) (start : Nat) {fuel : Nat} (hf : 3 ≤ fuel) :
    Turns (g.simple start fuel {}) { r with pushed := some (.word exportWord) }
      (' ' :: (name ++ '=' :: '"' :: quoted))
      (· = .simple start [] [exportWord, settingWord name value] [])
      { r with pushed := some (lineEnd behind) } rest := by
  have hclear := hr.unpushed
  have hscript : (({} : Parts).add exportWord).add (settingWord name value) =
      { words := [exportWord, settingWord name value] } := by
    simp [Parts.add, setting_exportWord]
  obtain ⟨fuel, rfl⟩ := Nat.exists_eq_add_of_le' hf
  unfold Grammar.simple
  refine (turns_next turns_pushed hclear.keeps_export _).next ?_
  dsimp only
  unfold Grammar.simple
  refine (turns_next (.ofReads (reads_settingToken rfl hn h hb)) (hclear.keeps_setting _ _) _).next
    ?_
  dsimp only
  unfold Grammar.simple
  rw [hscript]
  refine (turns_next (.ofReads (reads_lineEnd rfl hb)) (hclear.keeps_lineEnd behind) _).next ?_
  cases behind <;> exact (Turns.putBack _).next (.pure rfl)

theorem turns_command (hn : isName name) (h : unquote? quoted = some (value, behind))
    (hb : behindLine? behind = some rest) :
    Turns (g.commandStep (.word exportWord)) { r with pushed := none }
      (' ' :: (name ++ '=' :: '"' :: quoted)) (Exports name value)
      { r with pushed := some (lineEnd behind) } rest := by
  refine Turns.get fun line => (Turns.putBack _).next (turns_steps.bind fun fuel hf => ?_)
  have hsteps : 3 ≤ fuel := by
    simp at hf
    omega
  exact (turns_simple hr hn h hb line hsteps).mono fun c hc => ⟨_, hc⟩

theorem turns_pipeline (hn : isName name) (h : unquote? quoted = some (value, behind))
    (hb : behindLine? behind = some rest) :
    Turns g.pipeline { r with pushed := some (.word exportWord) }
      (' ' :: (name ++ '=' :: '"' :: quoted)) (Exports name value)
      { r with pushed := some (lineEnd behind) } rest := by
  have hpiped (fuel : Nat) : Turns (g.piped (fuel + 1) (.word exportWord)) { r with pushed := none }
      (' ' :: (name ++ '=' :: '"' :: quoted)) (fun cs => ∃ c, Exports name value c ∧ cs = [c])
      { r with pushed := some (lineEnd behind) } rest := by
    unfold Grammar.piped
    refine (turns_command hr hn h hb).bind fun c hc => (turns_lineEnd hr _).next ?_
    cases behind <;> exact (Turns.putBack _).next (.pure ⟨c, hc, rfl⟩)
  unfold Grammar.pipeline
  refine (turns_next turns_pushed hr.unpushed.keeps_export _).next ?_
  refine turns_steps.bind fun fuel hf => ?_
  obtain ⟨fuel, rfl⟩ := Nat.exists_eq_add_one.2 (Nat.lt_of_le_of_lt (Nat.zero_le _) hf)
  refine (hpiped fuel).bind ?_
  rintro _ ⟨c, hc, rfl⟩
  exact .pure hc

theorem turns_alternatives (c : Script) (fuel : Nat) :
    Turns (g.alternatives fuel c) { r with pushed := some (lineEnd behind) } rest (· = c)
      { r with pushed := some (lineEnd behind) } rest := by
  cases fuel with
  | zero => exact .pure rfl
  | succ fuel =>
    unfold Grammar.alternatives
    refine (turns_lineEnd hr _).next ?_
    cases behind <;> exact (Turns.putBack _).next (.pure rfl)

/-- Behind a command nothing is left of its line. -/
theorem turns_rest (depth : Nat) (c : Script) :
    Turns ((Grammar.ofDepth (depth + 1)).list .line (some c)) { r with pushed := some .newline }
      rest (· = some c) { r with pushed := none } rest := by
  show Turns (Grammar.listStep _ .line (some c)) _ _ _ _ _
  unfold Grammar.listStep
  refine (turns_first turns_pushed (hr.unpushed.keeps_lineEnd ['\n']) rfl).next ?_
  exact (turns_awaited hr).next (.pure rfl)

theorem turns_list (hn : isName name) (h : unquote? quoted = some (value, behind))
    (hb : behindLine? behind = some rest) (depth : Nat) :
    Turns ((Grammar.ofDepth (depth + 2)).list .line none) { r with pushed := none }
      ("export ".toList ++ (name ++ '=' :: '"' :: quoted))
      (fun c? => ∃ c, Exports name value c ∧ c? = some c) { r with pushed := leftOver behind }
      rest := by
  show Turns (Grammar.listStep (Grammar.ofDepth (depth + 1)) .line none) _ _ _ _ _
  unfold Grammar.listStep
  refine (turns_first (.ofReads (reads_exportToken rfl)) hr.unpushed.keeps_export
    asReserved_exportWord).next ((Turns.putBack _).next ?_)
  rw [if_neg (by simp)]
  refine turns_steps.bind fun fuel _ => (turns_pipeline hr hn h hb).bind fun c hc => ?_
  refine (turns_alternatives hr c fuel).next ((turns_lineEnd hr _).next ?_)
  cases behind with
  | nil => exact (turns_awaited hr).next ((Turns.putBack _).next (.pure ⟨c, hc, rfl⟩))
  | cons d behind =>
    exact (Turns.putBack _).next ((turns_rest hr depth c).mono fun a ha => ⟨c, hc, ha⟩)

theorem turns_begin (cs : List Char) :
    Turns (modify fun r => { r with pushed := none, awaited := [] } : Reader Unit) r cs (· = ())
      { r with pushed := none } cs := fun line => ⟨(), line, rfl, by rw [← hr.awaited]; rfl⟩

theorem run_nextLine (hn : isName name)
    (hcs : r.rest = "export ".toList ++ (name ++ '=' :: '"' :: quoted))
    (h : unquote? quoted = some (value, behind)) (hb : behindLine? behind = some rest) :
    ∃ start line, Reading.nextLine.run r =
      .ok (some (.simple start [] [exportWord, settingWord name value] []),
        { r with pushed := leftOver behind, rest, line }) := by
  have hget : Turns (get : Reader Reading) { r with pushed := leftOver behind } rest
      (fun _ => True) { r with pushed := leftOver behind } rest := fun line =>
    ⟨_, line, trivial, rfl⟩
  have hline : Turns Reading.nextLine r ("export ".toList ++ (name ++ '=' :: '"' :: quoted))
      (fun c? => ∃ c, Exports name value c ∧ c? = some c) { r with pushed := leftOver behind }
      rest := by
    refine (turns_begin hr _).next (turns_steps.bind fun steps _ => ?_)
    refine (turns_list hr hn h hb (6 * steps + 58)).bind ?_
    rintro _ ⟨c, hc, rfl⟩
    exact hget.bind fun after _ => .pure ⟨c, hc, rfl⟩
  obtain ⟨_, line, ⟨_, ⟨start, rfl⟩, rfl⟩, hrun⟩ := hline r.line
  rw [← hcs] at hrun
  exact ⟨start, line, hrun⟩

theorem run_nextLine_end (hcs : r.rest = []) :
    ∃ line, Reading.nextLine.run r = .ok (none, { r with pushed := some .ends, line }) := by
  have hlist (g : Grammar) : Turns (g.listStep .line none) { r with pushed := none } []
      (· = none) { r with pushed := some .ends } [] := by
    unfold Grammar.listStep
    refine (turns_first (.ofReads (reads_lineEnd rfl rfl)) (hr.unpushed.keeps_lineEnd []) rfl).next
      ?_
    exact (turns_awaited hr).next ((Turns.putBack _).next (.pure rfl))
  have hget : Turns (get : Reader Reading) { r with pushed := some .ends } []
      (fun after => ∃ line, after = { r with pushed := some .ends, rest := [], line })
      { r with pushed := some .ends } [] := fun line => ⟨_, line, ⟨line, rfl⟩, rfl⟩
  have hline : Turns Reading.nextLine r [] (· = none) { r with pushed := some .ends } [] := by
    refine (turns_begin hr _).next (turns_steps.bind fun steps _ => ?_)
    refine Turns.next (hlist (Grammar.ofDepth (6 * steps + 59))) (hget.bind ?_)
    rintro _ ⟨line, rfl⟩
    exact .pure rfl
  obtain ⟨_, line, rfl, hrun⟩ := hline r.line
  rw [← hcs] at hrun
  exact ⟨line, hrun⟩

end ExportLine

end Provision.Shell
