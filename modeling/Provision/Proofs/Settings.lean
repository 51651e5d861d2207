import Provision.Config.Decode
import Provision.Proofs.Calls

namespace Provision

open Toml (Value Entries)

inductive Kind
  | variant
  | text
  | texts
deriving DecidableEq

/-- The value of a setting. -/
inductive Datum
  | variant (v : Variant)
  | text (t : String)
  | texts (ts : List String)
deriving DecidableEq

def Datum.kind : Datum → Kind
  | variant _ => .variant
  | text _ => .text
  | texts _ => .texts

/-- How a document states a value. -/
inductive States : Value → Datum → Prop
  | text (t : String) : States (.string t) (.text t)
  | texts (ofHeaders : Bool) (ts : List String) :
    States (.array ofHeaders (ts.map .string)) (.texts ts)
  | variant (v : Variant) : States (.string v.name) (.variant v)
  /-- The variant as the only key of a table. -/
  | keyed (origin : Toml.Origin) (v : Variant) {e : Value} (he : e.isEmpty = true) :
    States (.table origin [(v.name, e)]) (.variant v)

inductive Section
  | archive
  | build
  | protos
  | privilege
deriving DecidableEq

inductive Key
  | variant
  | cpuUrl
  | cudaUrl
  | dir
  | cpuSha256
  | cudaSha256
  | program
  | args
  | serverDir
  | compiler
  | protoDir
  | files
  | outDir
  | includes
  | helper
deriving DecidableEq

namespace Section

def all : List Section := [archive, build, protos, privilege]

def name : Section → String
  | archive => "archive"
  | build => "build"
  | protos => "protos"
  | privilege => "privilege"

def keys : Section → List Key
  | archive => [.variant, .cpuUrl, .cudaUrl, .dir, .cpuSha256, .cudaSha256]
  | build => [.program, .args, .serverDir]
  | protos => [.compiler, .protoDir, .files, .outDir, .includes]
  | privilege => [.helper]

end Section

namespace Key

def part : Key → Section
  | variant | cpuUrl | cudaUrl | dir | cpuSha256 | cudaSha256 => .archive
  | program | args | serverDir => .build
  | compiler | protoDir | files | outDir | includes => .protos
  | helper => .privilege

def name : Key → String
  | variant => "variant"
  | cpuUrl => "cpu_url"
  | cudaUrl => "cuda_url"
  | dir => "dir"
  | cpuSha256 => "cpu_sha256"
  | cudaSha256 => "cuda_sha256"
  | program => "program"
  | args => "args"
  | serverDir => "server_dir"
  | compiler => "compiler"
  | protoDir => "proto_dir"
  | files => "files"
  | outDir => "out_dir"
  | includes => "includes"
  | helper => "helper"

def kind : Key → Kind
  | variant => .variant
  | args | compiler | files | includes | helper => .texts
  | _ => .text

/-- What settings have for a key; a checksum may be absent. -/
def datum? (c : Config) : Key → Option Datum
  | variant => some (.variant c.archive.variant)
  | cpuUrl => some (.text c.archive.cpuUrl)
  | cudaUrl => some (.text c.archive.cudaUrl)
  | dir => some (.text c.archive.dir)
  | cpuSha256 => c.archive.cpuSha256.map .text
  | cudaSha256 => c.archive.cudaSha256.map .text
  | program => some (.text c.build.program)
  | args => some (.texts c.build.args)
  | serverDir => some (.text c.build.serverDir)
  | compiler => some (.texts c.protos.compiler)
  | protoDir => some (.text c.protos.protoDir)
  | files => some (.texts c.protos.files)
  | outDir => some (.text c.protos.outDir)
  | includes => some (.texts c.protos.includes)
  | helper => some (.texts c.privilege.helper)

def valueIn? (k : Key) : Value → Option Value
  | .table _ es => Entries.value? es k.name
  | .array _ items => items[k.part.keys.idxOf k]?
  | _ => none

end Key

/-- What can stand for a section: a table, an array with the settings in their order, and a date,
which sets none. -/
def Toml.Value.isSection : Value → Bool
  | .table _ _ | .array _ _ | .moment _ => true
  | _ => false

def Key.given? (es : Entries) (k : Key) : Option Value :=
  (Entries.value? es k.part.name).bind k.valueIn?

/-- The document gives the setting a value of another type. -/
def Key.Fails (es : Entries) (k : Key) : Prop :=
  ∃ u, k.given? es = some u ∧ ¬ ∃ d : Datum, d.kind = k.kind ∧ States u d

/-- Something else is in the section's place, or one of its settings has a value of another type. -/
def Section.Refused (es : Entries) (s : Section) : Prop :=
  (∃ v, Entries.value? es s.name = some v ∧ v.isSection = false) ∨ ∃ k ∈ s.keys, k.Fails es

def Mistyped (es : Entries) : Prop :=
  (∃ (s : Section) (v : Value), Entries.value? es s.name = some v ∧ v.isSection = false) ∨
    ∃ k : Key, k.Fails es

theorem Section.Refused.mistyped {es : Entries} {s : Section} (h : s.Refused es) :
    Mistyped es := by
  rcases h with ⟨v, hv, hother⟩ | ⟨k, -, hk⟩
  · exact .inl ⟨s, v, hv, hother⟩
  · exact .inr ⟨k, hk⟩

theorem Key.mem_keys (k : Key) : k ∈ k.part.keys := by
  cases k <;> decide

theorem Section.mem_all (s : Section) : s ∈ all := by
  cases s <;> decide

namespace Config

structure SetBy (es : Entries) (S : List Key) (c : Config) : Prop where
  sections : ∀ s : Section, ∀ v ∈ Entries.value? es s.name, v.isSection = true
  given : ∀ k ∈ S, ∃ u ∈ k.given? es, ∃ d ∈ k.datum? c, States u d
  others : ∀ k, k ∉ S → k.given? es = none

def overlay (S : List Key) (c : Config) : Config :=
  let pick (k : Key) : Config := if k ∈ S then c else {}
  { archive :=
    { variant := (pick .variant).archive.variant
      cpuUrl := (pick .cpuUrl).archive.cpuUrl
      cudaUrl := (pick .cudaUrl).archive.cudaUrl
      dir := (pick .dir).archive.dir
      cpuSha256 := (pick .cpuSha256).archive.cpuSha256
      cudaSha256 := (pick .cudaSha256).archive.cudaSha256 }
    build :=
    { program := (pick .program).build.program
      args := (pick .args).build.args
      serverDir := (pick .serverDir).build.serverDir }
    protos :=
    { compiler := (pick .compiler).protos.compiler
      protoDir := (pick .protoDir).protos.protoDir
      files := (pick .files).protos.files
      outDir := (pick .outDir).protos.outDir
      includes := (pick .includes).protos.includes }
    privilege := { helper := (pick .helper).privilege.helper } }

end Config

theorem string_eq_some {v : Value} {t : String} : v.string? = some t ↔ States v (.text t) := by
  constructor
  · intro h
    cases v with
    | string s =>
      cases h
      exact .text t
    | _ => cases h
  · rintro ⟨⟩
    rfl

theorem mapM_string {items : List Value} {ts : List String} :
    items.mapM Value.string? = some ts ↔ items = ts.map .string := by
  induction items generalizing ts with
  | nil => cases ts <;> simp
  | cons v items ih =>
    rw [List.mapM_cons]
    constructor
    · intro h
      obtain ⟨t, ht, h⟩ := Option.bind_eq_some_iff.mp h
      obtain ⟨rest, hrest, h⟩ := Option.bind_eq_some_iff.mp h
      cases h
      cases string_eq_some.mp ht
      rw [ih.mp hrest, List.map_cons]
    · intro h
      cases ts with
      | nil => cases h
      | cons t rest =>
        obtain ⟨rfl, hrest⟩ := List.cons.inj h
        rw [ih.mpr hrest]
        rfl

theorem strings_eq_some {v : Value} {ts : List String} :
    v.strings? = some ts ↔ States v (.texts ts) := by
  constructor
  · intro h
    cases v with
    | array ofHeaders items =>
      rw [mapM_string.mp h]
      exact .texts ofHeaders ts
    | _ => cases h
  · rintro ⟨⟩
    exact mapM_string.mpr rfl

theorem ofName_eq_some {t : String} {v : Variant} : Variant.ofName? t = some v ↔ t = v.name := by
  constructor
  · intro h
    unfold Variant.ofName? at h
    split at h <;> cases h <;> rfl
  · rintro rfl
    cases v <;> rfl

theorem variant_eq_some {v : Value} {x : Variant} :
    v.variant? = some x ↔ States v (.variant x) := by
  constructor
  · intro h
    unfold Value.variant? at h
    split at h
    · rw [ofName_eq_some.mp h]
      exact .variant x
    · split at h
      · rename_i he
        rw [ofName_eq_some.mp h]
        exact .keyed _ x he
      · cases h
    · cases h
  · rintro h
    cases h with
    | variant => exact ofName_eq_some.mpr rfl
    | keyed origin _ he => simp only [Value.variant?, he, if_true, ofName_eq_some]

theorem fields_of_section {v : Value} (s : Section) (h : v.isSection = true) :
    v.fields? (s.keys.map Key.name) = some (s.keys.map (·.valueIn? v)) := by
  cases v with
  | table origin es => cases s <;> rfl
  | array ofHeaders items => cases s <;> rfl
  | moment text => cases s <;> rfl
  | _ => cases h

theorem fields_of_other {v : Value} (names : List String) (h : v.isSection = false) :
    v.fields? names = none := by
  cases v with
  | table | array | moment => cases h
  | _ => rfl

/-- A document without a section gives none of its settings. -/
theorem Section.given_eq {es : Entries} (s : Section) (v? : Option Value)
    (h : Entries.value? es s.name = v?) :
    s.keys.map (·.given? es) = s.keys.map fun k => v?.bind k.valueIn? := by
  subst h
  cases s <;> rfl

namespace Config

variable {es : Entries} {S : List Key} {c : Config} {α β : Type}

structure Assembles (s : Section) (decode : Value → Option α) (initial : α)
    (assemble : List (Option Value) → Option α) : Prop where
  decode_eq : ∀ v, decode v = (v.fields? (s.keys.map Key.name)).bind assemble
  initial_eq : assemble (s.keys.map fun _ => none) = some initial

/-- A section that is not there is like one that gives nothing. -/
theorem Assembles.field_eq {s : Section} {decode : Value → Option α} {initial : α}
    {assemble : List (Option Value) → Option α} (h : Assembles s decode initial assemble)
    (hs : ∀ v, Entries.value? es s.name = some v → v.isSection = true) :
    field decode initial (Entries.value? es s.name) = assemble (s.keys.map (·.given? es)) := by
  cases hv : Entries.value? es s.name with
  | none =>
    rw [s.given_eq none hv]
    exact h.initial_eq.symm
  | some v =>
    rw [s.given_eq (some v) hv, field, h.decode_eq, fields_of_section s (hs v hv)]
    rfl

/-- A field comes out as it is in the overlay, whatever reads values of its kind. -/
theorem field_overlay (wrap : α → Option Datum) {decode : Value → Option α} {k : Key}
    (h : SetBy es S c) (get : Config → α) (hget : k.datum? c = wrap (get c))
    (hdecode : ∀ {v d a}, States v d → wrap a = some d → decode v = some a) :
    field decode (get {}) (k.given? es) = some (get (if k ∈ S then c else {})) := by
  by_cases hk : k ∈ S
  · obtain ⟨u, hu, d, hd, hstates⟩ := h.given k hk
    rw [Option.mem_def.mp hu, if_pos hk]
    exact hdecode hstates (hget ▸ hd)
  · rw [h.others k hk, if_neg hk]
    rfl

theorem field_text (h : SetBy es S c) (k : Key) (get : Config → String)
    (hget : k.datum? c = some (.text (get c))) :
    field Value.string? (get {}) (k.given? es) = some (get (if k ∈ S then c else {})) :=
  field_overlay (fun t => some (.text t)) h get hget fun hstates ha =>
    string_eq_some.mpr (Option.some.inj ha ▸ hstates)

theorem field_texts (h : SetBy es S c) (k : Key) (get : Config → List String)
    (hget : k.datum? c = some (.texts (get c))) :
    field Value.strings? (get {}) (k.given? es) = some (get (if k ∈ S then c else {})) :=
  field_overlay (fun ts => some (.texts ts)) h get hget fun hstates ha =>
    strings_eq_some.mpr (Option.some.inj ha ▸ hstates)

theorem field_checksum (h : SetBy es S c) (k : Key) (get : Config → Option String)
    (hget : k.datum? c = (get c).map .text) :
    field (fun v => v.string?.map some) (get {}) (k.given? es) =
      some (get (if k ∈ S then c else {})) :=
  field_overlay (Option.map .text) h get hget fun hstates ha => by
    obtain ⟨t, rfl, rfl⟩ := Option.map_eq_some_iff.mp ha
    rw [string_eq_some.mpr hstates]
    rfl

theorem field_variant (h : SetBy es S c) :
    field Value.variant? ({} : Config).archive.variant (Key.variant.given? es) =
      some (if .variant ∈ S then c else {}).archive.variant :=
  field_overlay (fun v => some (.variant v)) h (·.archive.variant) rfl fun hstates ha =>
    variant_eq_some.mpr (Option.some.inj ha ▸ hstates)

theorem bind_of_some {x : Option α} {a : α} (h : x = some a) (f : α → Option β) :
    x.bind f = f a := by
  rw [h]
  rfl

theorem archive_overlay (h : SetBy es S c) :
    field archiveOf? {} (Entries.value? es Section.archive.name) =
      some (overlay S c).archive := by
  have assembles : Assembles .archive archiveOf? {} _ := ⟨fun _ => rfl, rfl⟩
  rw [assembles.field_eq (h.sections .archive)]
  refine (bind_of_some (field_variant h) _).trans ?_
  refine (bind_of_some (field_text h .cpuUrl (·.archive.cpuUrl) rfl) _).trans ?_
  refine (bind_of_some (field_text h .cudaUrl (·.archive.cudaUrl) rfl) _).trans ?_
  refine (bind_of_some (field_text h .dir (·.archive.dir) rfl) _).trans ?_
  refine (bind_of_some (field_checksum h .cpuSha256 (·.archive.cpuSha256) rfl) _).trans ?_
  refine (bind_of_some (field_checksum h .cudaSha256 (·.archive.cudaSha256) rfl) _).trans ?_
  rfl

theorem build_overlay (h : SetBy es S c) :
    field buildOf? {} (Entries.value? es Section.build.name) = some (overlay S c).build := by
  have assembles : Assembles .build buildOf? {} _ := ⟨fun _ => rfl, rfl⟩
  rw [assembles.field_eq (h.sections .build)]
  refine (bind_of_some (field_text h .program (·.build.program) rfl) _).trans ?_
  refine (bind_of_some (field_texts h .args (·.build.args) rfl) _).trans ?_
  refine (bind_of_some (field_text h .serverDir (·.build.serverDir) rfl) _).trans ?_
  rfl

theorem protos_overlay (h : SetBy es S c) :
    field protosOf? {} (Entries.value? es Section.protos.name) = some (overlay S c).protos := by
  have assembles : Assembles .protos protosOf? {} _ := ⟨fun _ => rfl, rfl⟩
  rw [assembles.field_eq (h.sections .protos)]
  refine (bind_of_some (field_texts h .compiler (·.protos.compiler) rfl) _).trans ?_
  refine (bind_of_some (field_text h .protoDir (·.protos.protoDir) rfl) _).trans ?_
  refine (bind_of_some (field_texts h .files (·.protos.files) rfl) _).trans ?_
  refine (bind_of_some (field_text h .outDir (·.protos.outDir) rfl) _).trans ?_
  refine (bind_of_some (field_texts h .includes (·.protos.includes) rfl) _).trans ?_
  rfl

theorem privilege_overlay (h : SetBy es S c) :
    field privilegeOf? {} (Entries.value? es Section.privilege.name) =
      some (overlay S c).privilege := by
  have assembles : Assembles .privilege privilegeOf? {} _ := ⟨fun _ => rfl, rfl⟩
  rw [assembles.field_eq (h.sections .privilege)]
  refine (bind_of_some (field_texts h .helper (·.privilege.helper) rfl) _).trans ?_
  rfl

theorem ofEntries_overlay (h : SetBy es S c) : ofEntries? es = some (overlay S c) := by
  refine (bind_of_some (archive_overlay h) _).trans ?_
  refine (bind_of_some (build_overlay h) _).trans ?_
  refine (bind_of_some (protos_overlay h) _).trans ?_
  refine (bind_of_some (privilege_overlay h) _).trans ?_
  rfl

theorem bind_eq_none {x : Option α} {f : α → Option β} {P : Prop} (hf : ∀ a, f a = none ↔ P) :
    x.bind f = none ↔ x = none ∨ P := by
  cases x with
  | none => simp
  | some a => simp [hf]

/-- What no reader of a kind takes states nothing of that kind. -/
theorem decode_eq_none {decode : Value → Option α} {kind : Kind} {wrap : α → Datum} {u : Value}
    (hkind : ∀ d : Datum, d.kind = kind ↔ ∃ a, wrap a = d)
    (hdecode : ∀ a, decode u = some a ↔ States u (wrap a)) :
    decode u = none ↔ ¬ ∃ d : Datum, d.kind = kind ∧ States u d := by
  rw [Option.eq_none_iff_forall_ne_some]
  constructor
  · rintro hnone ⟨d, hd, hstates⟩
    obtain ⟨a, rfl⟩ := (hkind d).mp hd
    exact hnone a ((hdecode a).mpr hstates)
  · exact fun hnone a ha => hnone ⟨wrap a, (hkind _).mpr ⟨a, rfl⟩, (hdecode a).mp ha⟩

theorem kind_text (d : Datum) : d.kind = .text ↔ ∃ t, .text t = d := by
  cases d <;> simp [Datum.kind]

theorem kind_texts (d : Datum) : d.kind = .texts ↔ ∃ ts, .texts ts = d := by
  cases d <;> simp [Datum.kind]

theorem kind_variant (d : Datum) : d.kind = .variant ↔ ∃ v, .variant v = d := by
  cases d <;> simp [Datum.kind]

theorem field_eq_none {decode : Value → Option α} {k : Key}
    (hdecode : ∀ u, decode u = none ↔ ¬ ∃ d : Datum, d.kind = k.kind ∧ States u d) (initial : α) :
    field decode initial (k.given? es) = none ↔ k.Fails es := by
  unfold Key.Fails
  cases hu : k.given? es with
  | none => simp [field]
  | some u => simp [field, hdecode]

theorem text_refused {k : Key} (hk : k.kind = .text) (initial : String) :
    field Value.string? initial (k.given? es) = none ↔ k.Fails es :=
  field_eq_none (fun _ => hk ▸ decode_eq_none kind_text fun _ => string_eq_some) initial

theorem texts_refused {k : Key} (hk : k.kind = .texts) (initial : List String) :
    field Value.strings? initial (k.given? es) = none ↔ k.Fails es :=
  field_eq_none (fun _ => hk ▸ decode_eq_none kind_texts fun _ => strings_eq_some) initial

theorem checksum_refused {k : Key} (hk : k.kind = .text) (initial : Option String) :
    field (fun v => v.string?.map some) initial (k.given? es) = none ↔ k.Fails es :=
  field_eq_none (fun _ => Option.map_eq_none_iff.trans <|
    hk ▸ decode_eq_none kind_text fun _ => string_eq_some) initial

theorem variant_refused (initial : Variant) :
    field Value.variant? initial (Key.variant.given? es) = none ↔ Key.variant.Fails es :=
  field_eq_none (k := .variant) (fun _ => decode_eq_none kind_variant fun _ => variant_eq_some)
    initial

/-- A section is refused exactly if something else is in its place, or one of its settings is. -/
theorem Assembles.refused {s : Section} {decode : Value → Option α} {initial : α}
    {assemble : List (Option Value) → Option α} (h : Assembles s decode initial assemble)
    (hnone : assemble (s.keys.map (·.given? es)) = none ↔ ∃ k ∈ s.keys, k.Fails es) :
    field decode initial (Entries.value? es s.name) = none ↔ s.Refused es := by
  by_cases hs : ∃ v, Entries.value? es s.name = some v ∧ v.isSection = false
  · obtain ⟨v, hv, hother⟩ := hs
    have hrefused : s.Refused es := .inl ⟨v, hv, hother⟩
    simp only [hv, field, h.decode_eq, fields_of_other _ hother, Option.bind_none, hrefused]
  · have hsections : ∀ v, Entries.value? es s.name = some v → v.isSection = true := by
      intro v hv
      rw [← Bool.not_eq_false]
      exact fun hother => hs ⟨v, hv, hother⟩
    rw [h.field_eq hsections, hnone]
    exact ⟨.inr, fun h => h.resolve_left hs⟩

theorem archive_refused : field archiveOf? {} (Entries.value? es Section.archive.name) = none ↔
    Section.archive.Refused es := by
  have assembles : Assembles .archive archiveOf? {} _ := ⟨fun _ => rfl, rfl⟩
  refine assembles.refused ?_
  refine (bind_eq_none fun _ => bind_eq_none fun _ => bind_eq_none fun _ => bind_eq_none fun _ =>
    bind_eq_none fun _ => bind_eq_none (P := False) fun _ => by simp).trans ?_
  simp only [Section.keys, List.mem_cons, List.not_mem_nil, exists_eq_or_imp, exists_eq_left,
    or_false]
  exact or_congr (variant_refused _) <| or_congr (text_refused rfl _) <|
    or_congr (text_refused rfl _) <| or_congr (text_refused rfl _) <|
    or_congr (checksum_refused rfl _) (checksum_refused rfl _)

theorem build_refused : field buildOf? {} (Entries.value? es Section.build.name) = none ↔
    Section.build.Refused es := by
  have assembles : Assembles .build buildOf? {} _ := ⟨fun _ => rfl, rfl⟩
  refine assembles.refused ?_
  refine (bind_eq_none fun _ => bind_eq_none fun _ => bind_eq_none (P := False) fun _ =>
    by simp).trans ?_
  simp only [Section.keys, List.mem_cons, List.not_mem_nil, exists_eq_or_imp, exists_eq_left,
    or_false]
  exact or_congr (text_refused rfl _) <| or_congr (texts_refused rfl _) (text_refused rfl _)

theorem protos_refused : field protosOf? {} (Entries.value? es Section.protos.name) = none ↔
    Section.protos.Refused es := by
  have assembles : Assembles .protos protosOf? {} _ := ⟨fun _ => rfl, rfl⟩
  refine assembles.refused ?_
  refine (bind_eq_none fun _ => bind_eq_none fun _ => bind_eq_none fun _ => bind_eq_none fun _ =>
    bind_eq_none (P := False) fun _ => by simp).trans ?_
  simp only [Section.keys, List.mem_cons, List.not_mem_nil, exists_eq_or_imp, exists_eq_left,
    or_false]
  exact or_congr (texts_refused rfl _) <| or_congr (text_refused rfl _) <|
    or_congr (texts_refused rfl _) <| or_congr (text_refused rfl _) (texts_refused rfl _)

theorem privilege_refused :
    field privilegeOf? {} (Entries.value? es Section.privilege.name) = none ↔
      Section.privilege.Refused es := by
  have assembles : Assembles .privilege privilegeOf? {} _ := ⟨fun _ => rfl, rfl⟩
  refine assembles.refused ?_
  refine (bind_eq_none (P := False) fun _ => by simp).trans ?_
  simp only [Section.keys, List.mem_cons, List.not_mem_nil, exists_eq_left, or_false]
  exact texts_refused rfl _

/-- A document is refused exactly if it is mistyped, however much of it is in order. -/
theorem ofEntries_refused : ofEntries? es = none ↔ Mistyped es := by
  have hsections : ofEntries? es = none ↔ Section.archive.Refused es ∨ Section.build.Refused es ∨
      Section.protos.Refused es ∨ Section.privilege.Refused es := by
    refine (bind_eq_none fun _ => bind_eq_none fun _ => bind_eq_none fun _ =>
      bind_eq_none (P := False) fun _ => by simp).trans ?_
    rw [or_false]
    exact or_congr archive_refused <| or_congr build_refused <| or_congr protos_refused
      privilege_refused
  rw [hsections]
  constructor
  · rintro (h | h | h | h) <;> exact h.mistyped
  · rintro (⟨s, v, hv, hother⟩ | ⟨k, hk⟩)
    · have h : s.Refused es := .inl ⟨v, hv, hother⟩
      cases s <;> simp [h]
    · have h : k.part.Refused es := .inr ⟨k, k.mem_keys, hk⟩
      revert h
      generalize k.part = s
      intro h
      cases s <;> simp [h]

def Holds (fs : FileSystem) (p : Path) (es : Entries) : Prop :=
  ∃ bytes text, fs.read p = .ok bytes ∧ String.fromUTF8? bytes = some text ∧
    Toml.parse? text = some es

def invalid (p : Path) : Failure := ⟨malformed, ["invalid config " ++ p.text]⟩

theorem readFrom_document {fs : FileSystem} {p : Path} (h : Holds fs p es) :
    readFrom fs p = match ofEntries? es with
      | some c => .ok c
      | none => .error (invalid p) := by
  obtain ⟨bytes, text, hread, htext, hparse⟩ := h
  simp only [readFrom, hread, htext, ofText?, hparse, Option.bind_some]
  rfl

theorem load_of_source {fs : FileSystem} {root p : Path} {named : Option Path}
    (h : source? fs root named = some p) : load fs root named = readFrom fs p := by
  rw [load, h]

theorem read_of_absent {fs : FileSystem} {p : Path} (h : fs.has p = false) :
    ∃ e, fs.read p = .error e := by
  unfold FileSystem.has at h
  unfold FileSystem.read
  cases hf : fs.find p with
  | error e => exact ⟨e, rfl⟩
  | ok found =>
    rw [hf] at h
    cases h

/-- Settings from a document are those that it sets, over the defaults, and no setting has a say in
another. With something else than a section in a section's place, or one setting of another type,
the document is refused as a whole, whatever else it sets. A file that is named is the only one
that is looked at, and must be there. -/
theorem load_overlays :
    (∀ (fs : FileSystem) (root : Path) (named : Option Path) (p : Path) (es : Entries),
      source? fs root named = some p → Holds fs p es →
        (∀ (S : List Key) (c : Config), SetBy es S c →
          load fs root named = .ok (overlay S c)) ∧
        (load fs root named = .error (invalid p) ↔ Mistyped es)) ∧
    (∀ (fs fs' : FileSystem) (root root' p : Path), fs'.read p = fs.read p →
      load fs' root' (some p) = load fs root (some p)) ∧
    ∀ (fs : FileSystem) (root p : Path), fs.has p = false → ∃ e, fs.read p = .error e ∧
      load fs root (some p) =
        .error ((Failure.ofIo e).withContext ("failed to read config " ++ p.text)) := by
  refine ⟨fun fs root named p es hsource hholds => ?_, fun fs fs' root root' p hread => ?_,
    fun fs root p habsent => ?_⟩
  · rw [load_of_source hsource, readFrom_document hholds]
    refine ⟨fun S c h => by rw [ofEntries_overlay h], ?_⟩
    rw [← ofEntries_refused]
    cases ofEntries? es <;> simp
  · rw [load_of_source rfl, load_of_source rfl, readFrom, readFrom, hread]
  · obtain ⟨e, he⟩ := read_of_absent habsent
    refine ⟨e, he, ?_⟩
    rw [load_of_source rfl, readFrom, he]

instance : (u : Value) → (d : Datum) → Decidable (States u d)
  | _, .variant _ => decidable_of_iff _ variant_eq_some
  | _, .text _ => decidable_of_iff _ string_eq_some
  | _, .texts _ => decidable_of_iff _ strings_eq_some

instance (es : Entries) (S : List Key) (c : Config) : Decidable (SetBy es S c) :=
  decidable_of_iff
    ((∀ s ∈ Section.all, ∀ v ∈ Entries.value? es s.name, v.isSection = true) ∧
      (∀ k ∈ S, ∃ u ∈ k.given? es, ∃ d ∈ k.datum? c, States u d) ∧
      ∀ s ∈ Section.all, ∀ k ∈ s.keys, k ∉ S → k.given? es = none)
    ⟨fun ⟨sections, given, others⟩ => ⟨fun s => sections s s.mem_all, given,
        fun k => others k.part k.part.mem_all k k.mem_keys⟩,
      fun h => ⟨fun s _ => h.sections s, h.given, fun _ _ k _ => h.others k⟩⟩

def workspaceWith (text : String) : FileSystem :=
  { entries := [(["w"], .directory), (["w", "bastion-dev.toml"], .file text.toUTF8 false)] }

/-- Two settings of one section and one of another, with keys that mean nothing: the others keep
their defaults. A file that is named and not there is not made up for by the workspace's own. -/
theorem load_overlays_three :
    let text := "note = 1\n[build]\nargs = [\"b\"]\nlevel = 3\n[archive]\ndir = \"lib\"\n" ++
      "variant = \"cuda\"\n"
    let fs := workspaceWith text
    let p : Path := ⟨"/w/bastion-dev.toml"⟩
    let S : List Key := [.variant, .dir, .args]
    let c : Config := { archive := { variant := .cuda, dir := "lib" }, build := { args := ["b"] } }
    source? fs ⟨"/w"⟩ none = some p ∧ (∃ es, Holds fs p es ∧ SetBy es S c) ∧
      load fs ⟨"/w"⟩ none = .ok (overlay S c) ∧ fs.has ⟨"/x.toml"⟩ = false ∧
      ∃ e, load fs ⟨"/w"⟩ (some ⟨"/x.toml"⟩) = .error e ∧
        e.contexts = ["failed to read config /x.toml"] := by
  intro text fs p S c
  have hsource : source? fs ⟨"/w"⟩ none = some p := by decide +kernel
  have hread : fs.read p = .ok text.toUTF8 := by decide +kernel
  have htext : String.fromUTF8? text.toUTF8 = some text := by decide +kernel
  have hset : ∃ es ∈ Toml.parse? text, SetBy es S c := by decide +kernel
  have habsent : fs.has ⟨"/x.toml"⟩ = false := by decide +kernel
  obtain ⟨es, hes, hset⟩ := hset
  have hholds : Holds fs p es := ⟨_, _, hread, htext, hes⟩
  obtain ⟨overlays, -, missing⟩ := load_overlays
  obtain ⟨e, -, he⟩ := missing fs ⟨"/w"⟩ ⟨"/x.toml"⟩ habsent
  exact ⟨hsource, ⟨es, hholds, hset⟩, (overlays fs ⟨"/w"⟩ none p es hsource hholds).1 S c hset,
    habsent, _, he, rfl⟩

/-- A date in the place of a section, which is neither a table nor an array, sets nothing and is not
refused. -/
theorem date_for_section_loads :
    let text := "archive = 1979-05-27\n"
    (∃ es v, Holds (workspaceWith text) ⟨"/w/bastion-dev.toml"⟩ es ∧
      Entries.value? es "archive" = some v ∧ (∀ origin fields, v ≠ .table origin fields) ∧
      ∀ ofHeaders items, v ≠ .array ofHeaders items) ∧
    load (workspaceWith text) ⟨"/w"⟩ none = .ok {} := by
  intro text
  have hread : (workspaceWith text).read ⟨"/w/bastion-dev.toml"⟩ = .ok text.toUTF8 := by
    decide +kernel
  have htext : String.fromUTF8? text.toUTF8 = some text := by decide +kernel
  have hdate : ∃ es ∈ Toml.parse? text, ∃ v ∈ Entries.value? es "archive",
      (match v with | .moment _ => true | _ => false) = true := by
    decide +kernel
  have hload : load (workspaceWith text) ⟨"/w"⟩ none = .ok {} := by decide +kernel
  obtain ⟨es, hes, v, hv, hmoment⟩ := hdate
  refine ⟨⟨es, v, ⟨_, _, hread, htext, hes⟩, hv, ?_, ?_⟩, hload⟩
  · rintro origin fields rfl
    cases hmoment
  · rintro ofHeaders items rfl
    cases hmoment

end Config

end Provision
