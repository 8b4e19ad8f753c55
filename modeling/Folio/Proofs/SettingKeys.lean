import Folio.Proofs.JsonEntries
import Folio.Settings

namespace Folio
open Json

namespace Settings

inductive Key where
  | databasePath
  | outputDirectory
  | fontsDirectory
  | fontFamily
  | fallbackFontFamily
  | host
  | port
  | logFilter
  | sanitize
  | seedSample
deriving DecidableEq

namespace Key

def name : Key → String
  | databasePath => "database_path"
  | outputDirectory => "output_directory"
  | fontsDirectory => "fonts_directory"
  | fontFamily => "font_family"
  | fallbackFontFamily => "fallback_font_family"
  | host => "host"
  | port => "port"
  | logFilter => "log_filter"
  | sanitize => "sanitize"
  | seedSample => "seed_sample"

abbrev Value : Key → Type
  | port => Nat
  | sanitize => SanitizePolicy
  | seedSample => Bool
  | databasePath | outputDirectory | fontsDirectory | fontFamily | fallbackFontFamily | host
  | logFilter => String

def get : (k : Key) → Settings → k.Value
  | databasePath, c => c.databasePath
  | outputDirectory, c => c.outputDirectory
  | fontsDirectory, c => c.fontsDirectory
  | fontFamily, c => c.fontFamily
  | fallbackFontFamily, c => c.fallbackFontFamily
  | host, c => c.host
  | port, c => c.port
  | logFilter, c => c.logFilter
  | sanitize, c => c.sanitize
  | seedSample, c => c.seedSample

def set : (k : Key) → k.Value → Settings → Settings
  | databasePath, v, c => { c with databasePath := v }
  | outputDirectory, v, c => { c with outputDirectory := v }
  | fontsDirectory, v, c => { c with fontsDirectory := v }
  | fontFamily, v, c => { c with fontFamily := v }
  | fallbackFontFamily, v, c => { c with fallbackFontFamily := v }
  | host, v, c => { c with host := v }
  | port, v, c => { c with port := v }
  | logFilter, v, c => { c with logFilter := v }
  | sanitize, v, c => { c with sanitize := v }
  | seedSample, v, c => { c with seedSample := v }

/-- The settings with these values under their keys. -/
def ofKeys (value : (k : Key) → k.Value) : Settings where
  databasePath := value databasePath
  outputDirectory := value outputDirectory
  fontsDirectory := value fontsDirectory
  fontFamily := value fontFamily
  fallbackFontFamily := value fallbackFontFamily
  host := value host
  port := value port
  logFilter := value logFilter
  sanitize := value sanitize
  seedSample := value seedSample

def default (k : Key) : k.Value :=
  k.get {}

/-- The kind of value that a settings file gives under the key. -/
def reader : (k : Key) → Reader k.Value
  | port => Int.toNat <$> intBetween 0 65535
  | sanitize => SanitizePolicy.variants.read
  | seedSample => bool
  | databasePath | outputDirectory | fontsDirectory | fontFamily | fallbackFontFamily | host
  | logFilter => string

/-- The value that a text under the key stands for, if it is one of the wanted kind. -/
def value? (k : Key) (text : List Char) : Option k.Value :=
  match k.reader text with
  | .ok (v, []) => some v
  | _ => none

/-- What the environment says instead. -/
def override? (env : Environment) : (k : Key) → Option k.Value
  | databasePath => env.lookup "REPORT_DATABASE"
  | outputDirectory => env.lookup "REPORT_OUTPUT_DIR"
  | fontsDirectory => env.lookup "REPORT_FONTS_DIR"
  | host => env.lookup "REPORT_HOST"
  | port => (env.lookup "REPORT_PORT").bind port?
  | fontFamily | fallbackFontFamily | logFilter | sanitize | seedSample => none

theorem get_ofKeys (value : (k : Key) → k.Value) (k : Key) : k.get (ofKeys value) = value k := by
  cases k <;> rfl

theorem get_set_self (k : Key) (v : k.Value) (c : Settings) : k.get (k.set v c) = v := by
  cases k <;> rfl

theorem get_set_ne {k other : Key} (h : other ≠ k) (v : k.Value) (c : Settings) :
    other.get (k.set v c) = other.get c := by
  cases k <;> cases other <;> first | rfl | exact absurd rfl h

theorem ext_get {a b : Settings} (h : ∀ k : Key, k.get a = k.get b) : a = b :=
  congrArg ofKeys (funext h)

def all : List Key :=
  [databasePath, outputDirectory, fontsDirectory, fontFamily, fallbackFontFamily, host, port,
    logFilter, sanitize, seedSample]

theorem mem_all (k : Key) : k ∈ all := by
  cases k <;> decide

def names : List String :=
  all.map name

theorem nodup_names : names.Nodup := by
  decide

theorem name_injective {k other : Key} (h : k.name = other.name) : k = other :=
  List.inj_on_of_nodup_map nodup_names (mem_all k) (mem_all other) h

end Key

theorem map_key_members : shape.members.map Member.key = Key.names :=
  rfl

/-- Under its name a key is read as a value of its kind and set to it. -/
theorem find?_name (k : Key) : ∃ m, shape.members.find? (·.key == k.name) = some m ∧
    m.read = k.set <$> k.reader := by
  cases k
  case port => exact ⟨_, rfl, comp_map Int.toNat Key.port.set (intBetween 0 65535)⟩
  all_goals exact ⟨_, rfl, rfl⟩

theorem find?_unknown {key : String} (h : ∀ k : Key, key ≠ k.name) :
    shape.members.find? (·.key == key) = none := by
  rw [List.find?_eq_none]
  intro m hm hkey
  have hname : m.key ∈ Key.names := map_key_members ▸ List.mem_map_of_mem hm
  obtain ⟨k, -, hk⟩ := List.mem_map.mp hname
  exact h k ((beq_iff_eq.mp hkey).symm.trans hk.symm)

theorem scalar_policy : Scalar SanitizePolicy.variants.read := by
  refine .variants fun tag content h => ?_
  simp only [SanitizePolicy.variants] at h
  split at h
  · cases h
    exact ⟨.replace .null _, .replace .null _⟩
  · cases h
    exact ⟨.replace .null _, .replace .null _⟩
  · cases h

theorem lenient : shape.Lenient where
  optional := by simp [shape, optionalMember]
  openEnded := rfl
  distinct := Key.nodup_names
  scalar := by
    simp only [shape, List.forall_mem_cons]
    refine ⟨.map .string _, .map .string _, .map .string _, .map .string _, .map .string _,
      .map .string _, .map (.intBetween 0 65535) _, .map .string _, .map scalar_policy _,
      .map .bool _, List.forall_mem_nil _⟩

/-- No key that is known comes twice, and under each stands a value of its kind. -/
structure Sound (es : List KeyText) : Prop where
  once : ∀ k : Key, (es.map Prod.fst).count k.name ≤ 1
  kinds : ∀ (k : Key) (text : List Char), (k.name, text) ∈ es → ∃ v, k.value? text = some v

theorem sound_nil : Sound [] :=
  ⟨fun _ => Nat.zero_le _, nofun⟩

/-- The value under a key, if the key is present. -/
def entryValue? (es : List KeyText) (k : Key) : Option k.Value :=
  (es.lookup k.name).bind k.value?

section Entries

variable {k : Key} {key : String} {text : List Char} {es : List KeyText}

theorem entryValue?_cons_self : entryValue? ((k.name, text) :: es) k = k.value? text := by
  rw [entryValue?, List.lookup_cons_self, Option.bind_some]

theorem entryValue?_cons_ne (h : key ≠ k.name) :
    entryValue? ((key, text) :: es) k = entryValue? es k := by
  rw [entryValue?, entryValue?, List.lookup_cons, beq_eq_false_iff_ne.mpr h.symm]

theorem entryValue?_eq_none (h : k.name ∉ es.map Prod.fst) : entryValue? es k = none := by
  have hlookup : es.lookup k.name = none := by
    rw [List.lookup_eq_none_iff]
    intro e he
    refine bne_iff_ne.mpr fun hname => h ?_
    rw [hname]
    exact List.mem_map_of_mem he
  rw [entryValue?, hlookup, Option.bind_none]

theorem sound_cons_unknown (h : ∀ k : Key, key ≠ k.name) :
    Sound ((key, text) :: es) ↔ Sound es := by
  have hcount (k : Key) : (((key, text) :: es).map Prod.fst).count k.name
      = (es.map Prod.fst).count k.name :=
    List.count_cons_of_ne (h k)
  constructor
  · intro hs
    exact ⟨fun k => hcount k ▸ hs.once k,
      fun k text hm => hs.kinds k text (List.mem_cons_of_mem _ hm)⟩
  · intro hs
    refine ⟨fun k => hcount k ▸ hs.once k, fun k text hm => ?_⟩
    obtain he | hm := List.mem_cons.mp hm
    · exact absurd (Prod.mk.inj he).1.symm (h k)
    · exact hs.kinds k text hm

theorem sound_cons_known : Sound ((k.name, text) :: es) ↔
    k.name ∉ es.map Prod.fst ∧ (∃ v, k.value? text = some v) ∧ Sound es := by
  constructor
  · intro hs
    have honce := hs.once k
    rw [List.map_cons, List.count_cons_self] at honce
    refine ⟨List.count_eq_zero.mp (by omega), hs.kinds k text List.mem_cons_self, ?_⟩
    exact ⟨fun other => Nat.le_trans List.count_le_count_cons (hs.once other),
      fun other text hm => hs.kinds other text (List.mem_cons_of_mem _ hm)⟩
  · rintro ⟨hnew, hkind, hs⟩
    constructor
    · intro other
      rw [List.map_cons]
      by_cases he : other = k
      · subst he
        have hzero := List.count_eq_zero.mpr hnew
        rw [List.count_cons_self]
        omega
      · rw [List.count_cons_of_ne fun hname => he (Key.name_injective hname.symm)]
        exact hs.once other
    · intro other text' hm
      obtain he | hm := List.mem_cons.mp hm
      · obtain ⟨hname, rfl⟩ := Prod.mk.inj he
        obtain rfl := Key.name_injective hname
        exact hkind
      · exact hs.kinds other text' hm

/-- A key that stands there once is found in any order. -/
theorem lookup_of_perm {other : List KeyText} (hp : es.Perm other)
    (hc : (es.map Prod.fst).count key ≤ 1) : es.lookup key = other.lookup key := by
  induction hp with
  | nil => rfl
  | cons e hp ih =>
    rw [List.map_cons, List.count_cons] at hc
    rw [List.lookup_cons, List.lookup_cons, ih (by omega)]
  | swap e f es =>
    simp only [List.map_cons, List.count_cons] at hc
    rw [List.lookup_cons, List.lookup_cons, List.lookup_cons, List.lookup_cons]
    by_cases he : e.1 = key
    · by_cases hf : f.1 = key
      · simp [he, hf] at hc
      · rw [beq_eq_false_iff_ne.mpr (Ne.symm hf)]
    · rw [beq_eq_false_iff_ne.mpr (Ne.symm he)]
  | trans hp hq ih ih' =>
    rw [ih hc, ih' ((hp.map Prod.fst).count_eq key ▸ hc)]

theorem Sound.of_perm {other : List KeyText} (hp : es.Perm other) (hs : Sound es) :
    Sound other where
  once k := (hp.map Prod.fst).count_eq k.name ▸ hs.once k
  kinds k text hm := hs.kinds k text (hp.mem_iff.mpr hm)

/-- A key that has been set counts as if it had been set before. -/
theorem getD_cons_known {v : k.Value} (hv : k.value? text = some v)
    (hlast : k.name ∉ es.map Prod.fst) (other : Key) (a : Settings) :
    (entryValue? ((k.name, text) :: es) other).getD (other.get a)
      = (entryValue? es other).getD (other.get (k.set v a)) := by
  by_cases he : other = k
  · subst he
    rw [entryValue?_cons_self, hv, entryValue?_eq_none hlast, Option.getD_none, Option.getD_some,
      Key.get_set_self]
  · have hname : k.name ≠ other.name := fun hname => he (Key.name_injective hname.symm)
    rw [entryValue?_cons_ne hname, Key.get_set_ne he]

end Entries

theorem value?_eq_some_iff {k : Key} {text : List Char} {v : k.Value} :
    k.value? text = some v ↔ k.reader text = .ok (v, []) := by
  rw [Key.value?]
  split
  · rename_i w hread
    rw [hread]
    constructor
    · rintro ⟨⟩
      rfl
    · rintro ⟨⟩
      rfl
  · rename_i hnone
    exact ⟨nofun, fun hread => absurd hread (hnone v)⟩

theorem read_name_iff {k : Key} {m : Member Settings} (hm : m.read = k.set <$> k.reader)
    {text : List Char} {store : Settings → Settings} :
    m.read text = .ok (store, []) ↔ ∃ v, k.value? text = some v ∧ store = k.set v := by
  rw [hm]
  constructor
  · intro h
    obtain ⟨v, hread, rfl⟩ := of_map_ok h
    exact ⟨v, value?_eq_some_iff.mpr hread, rfl⟩
  · rintro ⟨v, hv, rfl⟩
    exact map_ok (value?_eq_some_iff.mp hv) k.set

/-- The entries are sound, come to no key that has been seen, and set every key by itself. -/
structure SetsEach (seen : List String) (es : List KeyText) (a b : Settings) : Prop where
  unseen : ∀ k : Key, k.name ∈ seen → k.name ∉ es.map Prod.fst
  sound : Sound es
  get : ∀ k : Key, k.get b = (entryValue? es k).getD (k.get a)

section Steps

variable {seen : List String} {es : List KeyText} {text : List Char} {a b : Settings}

theorem setsEach_nil : SetsEach seen [] a b ↔ b = a := by
  constructor
  · intro h
    exact Key.ext_get h.get
  · rintro rfl
    exact ⟨fun _ _ => List.not_mem_nil, sound_nil, fun _ => rfl⟩

theorem setsEach_known {k : Key} : SetsEach seen ((k.name, text) :: es) a b ↔
    k.name ∉ seen ∧ ∃ v, k.value? text = some v ∧
      SetsEach (k.name :: seen) es (k.set v a) b := by
  constructor
  · rintro ⟨hunseen, hs, hget⟩
    obtain ⟨hlast, ⟨v, hv⟩, hs⟩ := sound_cons_known.mp hs
    refine ⟨fun hk => hunseen k hk List.mem_cons_self, v, hv, ?_, hs, fun other => ?_⟩
    · intro other ho
      obtain hname | ho := List.mem_cons.mp ho
      · rw [hname]
        exact hlast
      · exact fun hmem => hunseen other ho (List.mem_cons_of_mem _ hmem)
    · rw [hget other, getD_cons_known hv hlast]
  · rintro ⟨hnew, v, hv, hunseen, hs, hget⟩
    have hlast := hunseen k List.mem_cons_self
    refine ⟨fun other ho => ?_, sound_cons_known.mpr ⟨hlast, ⟨v, hv⟩, hs⟩, fun other => ?_⟩
    · have hne : other.name ≠ k.name := fun hname => hnew (hname ▸ ho)
      exact List.not_mem_cons_of_ne_of_not_mem hne (hunseen other (List.mem_cons_of_mem _ ho))
    · rw [hget other, getD_cons_known hv hlast]

theorem setsEach_unknown {key : String} (h : ∀ k : Key, key ≠ k.name) :
    SetsEach seen ((key, text) :: es) a b ↔ SetsEach (key :: seen) es a b := by
  constructor
  · rintro ⟨hunseen, hs, hget⟩
    refine ⟨fun k hk hmem => ?_, (sound_cons_unknown h).mp hs, fun k => ?_⟩
    · exact hunseen k (List.mem_of_ne_of_mem (h k).symm hk) (List.mem_cons_of_mem _ hmem)
    · rw [hget k, entryValue?_cons_ne (h k)]
  · rintro ⟨hunseen, hs, hget⟩
    refine ⟨fun k hk hmem => ?_, (sound_cons_unknown h).mpr hs, fun k => ?_⟩
    · exact hunseen k (List.mem_cons_of_mem _ hk) (List.mem_of_ne_of_mem (h k).symm hmem)
    · rw [hget k, entryValue?_cons_ne (h k)]

/-- Storing entries one after the other sets every key by itself. -/
theorem merges_iff : shape.Merges seen es a b ↔ SetsEach seen es a b := by
  -- On the entries: a key that has been set does not come again, so that it keeps its value.
  induction es generalizing seen a with
  | nil => exact setsEach_nil.symm
  | cons e es ih =>
    obtain ⟨key, text⟩ := e
    by_cases hknown : ∃ k : Key, key = k.name
    · obtain ⟨k, rfl⟩ := hknown
      obtain ⟨m, hfind, hm⟩ := find?_name k
      rw [Shape.merges_known hfind, setsEach_known]
      refine and_congr Iff.rfl ?_
      constructor
      · rintro ⟨store, hread, hrest⟩
        obtain ⟨v, hv, rfl⟩ := (read_name_iff hm).mp hread
        exact ⟨v, hv, ih.mp hrest⟩
      · rintro ⟨v, hv, hrest⟩
        exact ⟨k.set v, (read_name_iff hm).mpr ⟨v, hv, rfl⟩, ih.mpr hrest⟩
    · have hunknown (k : Key) : key ≠ k.name := fun hk => hknown ⟨k, hk⟩
      rw [Shape.merges_unknown (find?_unknown hunknown), setsEach_unknown hunknown]
      exact ih

end Steps

end Settings

end Folio
