import Provision.Proofs.Exports
import Provision.Shell.Octets

namespace Provision
namespace Shell
namespace Octets

theorem toList_loop (b : ByteArray) (i : Nat) (before : List UInt8) :
    ByteArray.toList.loop b i before = before.reverse ++ b.data.toList.drop i := by
  fun_induction ByteArray.toList.loop b i before with
  | case1 i before h ih =>
    have hi : i < b.data.toList.length := h
    rw [ih, List.drop_eq_getElem_cons hi]
    have hget : b.get! i = b.data.toList[i] := by
      rw [Array.getElem_toList]
      exact getElem!_pos b.data i h
    simp [hget]
  | case2 i before h =>
    have hi : b.data.toList.length ≤ i := Nat.le_of_not_lt h
    simp [List.drop_eq_nil_of_le hi]

def ofChar (c : Char) : List Char := (String.utf8EncodeChar c).map (fun b => Char.ofNat b.toNat)

theorem toList_ofText (s : String) : (ofText s).toList = s.toList.flatMap ofChar := by
  have hutf8 : s.toUTF8 = s.toList.utf8Encode := String.utf8Encode_toList.symm
  have hbytes : s.toUTF8.toList = s.toList.flatMap String.utf8EncodeChar := by
    rw [ByteArray.toList, toList_loop, hutf8, List.utf8Encode, List.data_toByteArray]
    rfl
  rw [ofText, String.toList_ofList, ofBytes, hbytes, List.map_flatMap]
  rfl

theorem ofChar_of_lt {c : Char} (h : c.toNat < 128) : ofChar c = [c] := by
  have hv : c.val.toNat ≤ 127 := Nat.le_of_lt_succ h
  have hb : (UInt8.ofNat c.val.toNat).toNat = c.toNat :=
    Nat.mod_eq_of_lt (Nat.lt_of_lt_of_le h (by decide))
  simp only [ofChar, String.utf8EncodeChar, hv, if_true, List.map_cons, List.map_nil, hb,
    Char.ofNat_toNat]

theorem toNat_ofNat_byte (b : UInt8) : (Char.ofNat b.toNat).toNat = b.toNat := by
  have hvalid : b.toNat.isValidChar := .inl (Nat.lt_of_lt_of_le b.toNat_lt (by decide))
  rw [Char.ofNat, dif_pos hvalid]
  rfl

theorem le_of_mem_ofChar {c d : Char} (h : 128 ≤ c.toNat) (hd : d ∈ ofChar c) : 128 ≤ d.toNat := by
  obtain ⟨b, hb, rfl⟩ := List.mem_map.1 hd
  rw [toNat_ofNat_byte]
  have hv : ¬ c.val.toNat ≤ 127 := Nat.not_le_of_lt h
  have hlead (n m k : Nat) (hm : 0 < m) (hk : 128 ≤ k) (hs : m + k ≤ 256) :
      128 ≤ (UInt8.ofNat (n % m + k)).toNat := by
    have := Nat.mod_lt n hm
    rw [UInt8.toNat_ofNat', Nat.mod_eq_of_lt (by omega)]
    omega
  simp only [String.utf8EncodeChar, hv, if_false] at hb
  split at hb
  · simp only [List.mem_cons, List.not_mem_nil, or_false] at hb
    obtain rfl | rfl := hb <;> exact hlead _ _ _ (by decide) (by decide) (by decide)
  · split at hb
    · simp only [List.mem_cons, List.not_mem_nil, or_false] at hb
      obtain rfl | rfl | rfl := hb <;> exact hlead _ _ _ (by decide) (by decide) (by decide)
    · simp only [List.mem_cons, List.not_mem_nil, or_false] at hb
      obtain rfl | rfl | rfl | rfl := hb <;> exact hlead _ _ _ (by decide) (by decide) (by decide)

theorem mem_ofChar {c d : Char} (hd : d ∈ ofChar c) : d = c ∨ 128 ≤ d.toNat := by
  by_cases hc : c.toNat < 128
  · rw [ofChar_of_lt hc] at hd
    exact .inl (List.mem_singleton.1 hd)
  · exact .inr (le_of_mem_ofChar (Nat.le_of_not_lt hc) hd)

theorem ofChar_ne_nil (c : Char) : ofChar c ≠ [] := by
  simp only [ofChar, String.utf8EncodeChar]
  split
  · simp
  · split
    · simp
    · split <;> simp

theorem flatMap_ofChar_of_lt {cs : List Char} (h : ∀ c ∈ cs, c.toNat < 128) :
    cs.flatMap ofChar = cs := by
  induction cs with
  | nil => rfl
  | cons c cs ih =>
    rw [List.flatMap_cons, ofChar_of_lt (h c (by simp)), ih fun d hd => h d (by simp [hd])]
    rfl

end Octets

theorem isEscapable_of_mem_ofChar {c d : Char} (hc : Mode.double.isEscapable c = false)
    (hd : d ∈ Octets.ofChar c) : Mode.double.isEscapable d = false := by
  obtain rfl | hd := Octets.mem_ofChar hd
  · exact hc
  · rw [Bool.eq_false_iff]
    intro he
    obtain rfl | rfl | rfl | rfl := eq_of_isEscapable he <;> exact absurd hd (by decide)

theorem ne_of_mem_ofChar {c d e : Char} (he : e.toNat < 128) (hc : c ≠ e)
    (hd : d ∈ Octets.ofChar c) : d ≠ e := by
  rintro rfl
  obtain rfl | hd := Octets.mem_ofChar hd
  · exact hc rfl
  · omega

theorem lt_of_isNameChar {c : Char} (h : isNameChar c) : c.toNat < 128 := by
  have hbelow (last : Char) (hl : last.toNat < 128) (hc : c.val ≤ last.val) : c.toNat < 128 :=
    Nat.lt_of_le_of_lt (UInt32.le_iff_toNat_le.1 hc) hl
  simp only [isNameChar, Char.isAlphanum, Bool.or_eq_true, decide_eq_true_eq] at h
  obtain (halpha | hdigit) | rfl := h
  · obtain hupper | hlower := Bool.or_eq_true_iff.1 halpha
    · exact hbelow 'Z' (by decide) (of_decide_eq_true hupper).2
    · exact hbelow 'z' (by decide) (of_decide_eq_true (Bool.and_eq_true_iff.1 hlower).2)
  · exact hbelow '9' (by decide) (of_decide_eq_true (Bool.and_eq_true_iff.1 hdigit).2)
  · decide

theorem isPlain_append {cs : List Char} (hcs : ∀ c ∈ cs, Mode.double.isEscapable c = false)
    (rest : List Char) : isPlain (cs ++ rest) = isPlain rest := by
  induction cs with
  | nil => rfl
  | cons c cs ih =>
    have hc := hcs c (by simp)
    have hb : c ≠ '\\' := by
      rintro rfl
      simp [Mode.isEscapable] at hc
    rw [List.cons_append, isPlain, ih fun d hd => hcs d (by simp [hd])]
    · simp [hc]
    · exact fun _ _ h _ => hb h

theorem isPlain_octets {value : List Char} (h : isPlain value) :
    isPlain (value.flatMap Octets.ofChar) := by
  fun_induction isPlain value with
  | case1 => rfl
  | case2 c value ih =>
    simp only [Bool.and_eq_true, Bool.not_eq_true', decide_eq_true_eq] at h
    obtain ⟨⟨hc, hn⟩, hv⟩ := h
    have hslash : Octets.ofChar '\\' = ['\\'] := Octets.ofChar_of_lt (by decide)
    have hchars := fun d (hd : d ∈ Octets.ofChar c) => isEscapable_of_mem_ofChar hc hd
    have hlines : ∀ d ∈ Octets.ofChar c, d ≠ '\n' := fun d hd => ne_of_mem_ofChar (by decide) hn hd
    rw [List.flatMap_cons, List.flatMap_cons, hslash]
    cases hbytes : Octets.ofChar c with
    | nil => exact absurd hbytes (Octets.ofChar_ne_nil c)
    | cons d ds =>
      rw [hbytes] at hchars hlines
      have hrest := isPlain_append (fun e (he : e ∈ ds) => hchars e (by simp [he]))
        (value.flatMap Octets.ofChar)
      simp [isPlain, hchars d, hlines d, hrest, ih hv]
  | case3 c value hb ih =>
    simp only [Bool.and_eq_true, Bool.or_eq_true, decide_eq_true_eq, Bool.not_eq_true'] at h
    obtain ⟨rfl | hc, hv⟩ := h
    · have hquote : Octets.ofChar '"' = ['"'] := Octets.ofChar_of_lt (by decide)
      rw [List.flatMap_cons, hquote]
      simp [isPlain, ih hv]
    · rw [List.flatMap_cons, isPlain_append fun d hd => isEscapable_of_mem_ofChar hc hd]
      exact ih hv

theorem protect_append (cs ds : List Char) : protect (cs ++ ds) = protect cs ++ protect ds := by
  simp [protect]

theorem protect_of_notMem {cs : List Char} (h : '"' ∉ cs) : protect cs = cs := by
  induction cs with
  | nil => rfl
  | cons c cs ih =>
    simp only [List.mem_cons, not_or] at h
    rw [protect_cons (Ne.symm h.1), ih h.2]

theorem protect_octets (value : List Char) :
    (protect value).flatMap Octets.ofChar = protect (value.flatMap Octets.ofChar) := by
  induction value with
  | nil => rfl
  | cons c value ih =>
    by_cases hc : c = '"'
    · subst hc
      have hquote : Octets.ofChar '"' = ['"'] := Octets.ofChar_of_lt (by decide)
      have hslash : Octets.ofChar '\\' = ['\\'] := Octets.ofChar_of_lt (by decide)
      simp [hquote, hslash, ih]
    · have hbytes : protect (Octets.ofChar c) = Octets.ofChar c :=
        protect_of_notMem fun hd => ne_of_mem_ofChar (by decide) hc hd rfl
      rw [protect_cons hc, List.flatMap_cons, List.flatMap_cons, protect_append, hbytes, ih]

theorem behindLine_octets {cs rest : List Char} (h : behindLine? cs = some rest) :
    behindLine? (cs.flatMap Octets.ofChar) = some (rest.flatMap Octets.ofChar) := by
  unfold behindLine? at h
  split at h
  · obtain rfl := Option.some.inj h
    rfl
  · obtain rfl := Option.some.inj h
    have hnewline : Octets.ofChar '\n' = ['\n'] := Octets.ofChar_of_lt (by decide)
    rw [List.flatMap_cons, hnewline]
    rfl
  · cases h

end Shell

namespace Variable

def octets (v : Variable) : Variable := { v with value := Shell.Octets.ofText v.value }

theorem exportLine_octets {v : Variable} (hn : Shell.isName v.name.toList) :
    v.exportLine.toList.flatMap Shell.Octets.ofChar = v.octets.exportLine.toList := by
  have hname : v.name.toList.flatMap Shell.Octets.ofChar = v.name.toList :=
    Shell.Octets.flatMap_ofChar_of_lt fun c hc =>
      Shell.lt_of_isNameChar (Shell.isNameChar_of_isName hn c hc)
  have hfront : "export ".toList.flatMap Shell.Octets.ofChar = "export ".toList :=
    Shell.Octets.flatMap_ofChar_of_lt (by simp)
  have hopen : ['=', '"'].flatMap Shell.Octets.ofChar = ['=', '"'] :=
    Shell.Octets.flatMap_ofChar_of_lt (by simp)
  have hline (w : Variable) : w.exportLine.toList =
      "export ".toList ++ w.name.toList ++ ['=', '"'] ++ Shell.protect w.value.toList ++ ['"'] := by
    rw [← List.append_nil w.exportLine.toList, exportLine_append]
    simp
  rw [hline, hline]
  simp only [List.flatMap_append, hfront, hname, hopen, Shell.protect_octets, octets,
    Shell.Octets.toList_ofText]
  rfl

/-- The bytes of a printed text are the text that is printed for the bytes of the values. -/
theorem isExportText_octets {vs : List Variable} (hn : ∀ v ∈ vs, Shell.isName v.name.toList)
    {cs : List Char} (h : IsExportText vs cs) :
    IsExportText (vs.map octets) (cs.flatMap Shell.Octets.ofChar) := by
  induction vs generalizing cs with
  | nil =>
    cases h
    rfl
  | cons v vs ih =>
    obtain ⟨behind, rest, rfl, hb, hrest⟩ := h
    refine ⟨behind.flatMap Shell.Octets.ofChar, rest.flatMap Shell.Octets.ofChar, ?_,
      Shell.behindLine_octets hb, ih (fun w hw => hn w (by simp [hw])) hrest⟩
    rw [List.flatMap_append, exportLine_octets (hn v (by simp))]

end Variable
end Provision
