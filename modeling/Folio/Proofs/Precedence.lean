import Folio.Proofs.SettingKeys

namespace Folio
open Json

/-- Digits that denote a port, perhaps behind zeros and behind a plus sign. -/
def PortText (value : String) (n : Nat) : Prop :=
  n ≤ 65535 ∧ ∃ width, value.toList = Text.padded width n ∨
    value.toList = '+' :: Text.padded width n

/-- The variable of the port is not set, or to a port. -/
def Environment.PortFits (env : Environment) : Prop :=
  ∀ value, env.lookup "REPORT_PORT" = some value → ∃ n, PortText value n

namespace SettingsFile
open Settings

/-- The entries of a settings file. One that is not there has none, and one that is not the text of
a record has not even that. -/
def entries? : SettingsFile → Option (List KeyText)
  | absent => some []
  | unreadable => none
  | text content => (readAll (entries Key.names) content.toList).toOption

def Sound (file : SettingsFile) : Prop :=
  ∃ es, file.entries? = some es ∧ Settings.Sound es

def value? (file : SettingsFile) (k : Key) : Option k.Value :=
  file.entries?.bind fun es => entryValue? es k

/-- The other file has the same entries, perhaps in another order or form. -/
def Reorders (file other : SettingsFile) : Prop :=
  ∃ es es', file.entries? = some es ∧ other.entries? = some es' ∧ es.Perm es'

theorem Reorders.symm {file other : SettingsFile} (h : file.Reorders other) :
    other.Reorders file := by
  obtain ⟨es, es', he, he', hp⟩ := h
  exact ⟨es', es, he', he, hp.symm⟩

end SettingsFile

namespace Settings

theorem toOption_eq_some_iff {x : Except Fault α} {a : α} : x.toOption = some a ↔ x = .ok a := by
  cases x with
  | error fault => exact ⟨nofun, nofun⟩
  | ok b => exact ⟨fun h => congrArg Except.ok (Option.some.inj h), fun h => by cases h; rfl⟩

theorem ofFile_text_iff {content : String} {c : Settings} :
    ofFile (.text content) = .ok c ↔ readAll shape.read content.toList = .ok c := by
  rw [ofFile]
  split
  · rename_i read hread
    rw [hread]
    exact ⟨fun h => by cases h; rfl, fun h => by cases h; rfl⟩
  · rename_i fault hread
    rw [hread]
    exact ⟨nofun, nofun⟩

theorem ofFile_entries_iff {file : SettingsFile} {c : Settings} : ofFile file = .ok c ↔
    ∃ es, file.entries? = some es ∧ Sound es ∧
      ∀ k : Key, k.get c = (entryValue? es k).getD k.default := by
  cases file with
  | absent =>
    constructor
    · intro h
      cases h
      exact ⟨[], rfl, sound_nil, fun _ => rfl⟩
    · rintro ⟨_, hes, -, hget⟩
      cases hes
      exact congrArg Except.ok (Key.ext_get hget).symm
  | unreadable => exact ⟨nofun, fun ⟨_, hes, _⟩ => nomatch hes⟩
  | text content =>
    rw [ofFile_text_iff, lenient.read.readAll]
    refine exists_congr fun es => and_congr toOption_eq_some_iff.symm (merges_iff.trans ?_)
    constructor
    · intro h
      exact ⟨h.sound, h.get⟩
    · rintro ⟨hs, hget⟩
      exact ⟨fun k hk => absurd hk List.not_mem_nil, hs, hget⟩

theorem ofFile_ok_iff {file : SettingsFile} {c : Settings} : ofFile file = .ok c ↔
    file.Sound ∧ ∀ k : Key, k.get c = (file.value? k).getD k.default := by
  rw [ofFile_entries_iff]
  constructor
  · rintro ⟨es, hes, hs, hget⟩
    refine ⟨⟨es, hes, hs⟩, fun k => ?_⟩
    rw [SettingsFile.value?, hes]
    exact hget k
  · rintro ⟨⟨es, hes, hs⟩, hget⟩
    refine ⟨es, hes, hs, fun k => ?_⟩
    rw [hget k, SettingsFile.value?, hes]
    rfl

theorem ofFile_unreadable_iff {file : SettingsFile} :
    ofFile file = .error .unreadable ↔ file = .unreadable := by
  cases file with
  | absent => exact ⟨nofun, nofun⟩
  | unreadable => exact ⟨fun _ => rfl, fun _ => rfl⟩
  | text content =>
    refine ⟨fun h => ?_, nofun⟩
    rw [ofFile] at h
    split at h <;> cases h

theorem ofFile_badPort {file : SettingsFile} {value : String} :
    ofFile file ≠ .error (.badPort value) := by
  intro h
  cases file with
  | absent => cases h
  | unreadable => cases h
  | text content =>
    rw [ofFile] at h
    split at h <;> cases h

/-- Digits without a sign as a port, if they denote one. -/
def unsignedPort? (ds : List Char) : Option Nat :=
  if !ds.isEmpty && ds.all Char.isDigit && Text.digitsValue ds ≤ 65535 then
    some (Text.digitsValue ds)
  else none

theorem unsignedPort?_eq_some_iff {ds : List Char} {n : Nat} :
    unsignedPort? ds = some n ↔ n ≤ 65535 ∧ ∃ width, ds = Text.padded width n := by
  rw [unsignedPort?]
  constructor
  · intro h
    split at h
    · rename_i hport
      simp only [Bool.and_eq_true, Bool.not_eq_true', List.isEmpty_eq_false_iff, List.all_eq_true,
        decide_eq_true_eq] at hport
      obtain ⟨⟨hne, hd⟩, hvalue⟩ := hport
      cases h
      exact ⟨hvalue, ds.length, (Text.padded_digitsValue hne hd).symm⟩
    · cases h
  · rintro ⟨hn, width, rfl⟩
    have hd : ∀ c ∈ Text.padded width n, c.isDigit = true := Text.padded_digit
    simp [hn, Text.padded_ne_nil, List.all_eq_true.mpr hd]

theorem plus_ne_padded {ds : List Char} {width n : Nat} : '+' :: ds ≠ Text.padded width n := by
  intro h
  have hd : ∀ c ∈ Text.padded width n, c.isDigit = true := Text.padded_digit
  cases hd '+' (h ▸ List.mem_cons_self)

theorem port?_plus {value : String} {ds : List Char} (h : value.toList = '+' :: ds) :
    port? value = unsignedPort? ds := by
  rw [port?, h]
  rfl

theorem port?_unsigned {value : String} (h : ∀ ds, value.toList ≠ '+' :: ds) :
    port? value = unsignedPort? value.toList := by
  rw [port?, unsignedPort?]
  split
  · rename_i ds hds
    exact absurd hds (h ds)
  · rfl

theorem port?_eq_some_iff {value : String} {n : Nat} : port? value = some n ↔ PortText value n := by
  rw [PortText]
  by_cases hplus : ∃ ds, value.toList = '+' :: ds
  · obtain ⟨ds, hds⟩ := hplus
    rw [port?_plus hds, unsignedPort?_eq_some_iff, hds]
    simp [plus_ne_padded]
  · have hunsigned : ∀ ds, value.toList ≠ '+' :: ds := not_exists.mp hplus
    rw [port?_unsigned hunsigned, unsignedPort?_eq_some_iff]
    simp [hunsigned]

theorem override_of_fits {env : Environment} (h : env.PortFits) (c : Settings) :
    c.override env = .ok (Key.ofKeys fun k => (k.override? env).getD (k.get c)) := by
  cases hl : env.lookup "REPORT_PORT" with
  | none =>
    simp only [override, Key.ofKeys, Key.override?, Key.get, hl]
    rfl
  | some value =>
    obtain ⟨n, hn⟩ := h value hl
    simp only [override, Key.ofKeys, Key.override?, Key.get, hl, Option.bind_some,
      port?_eq_some_iff.mpr hn]
    rfl

theorem override_of_badPort {env : Environment} {value : String}
    (hl : env.lookup "REPORT_PORT" = some value) (hn : ∀ n, ¬ PortText value n) (c : Settings) :
    c.override env = .error (.badPort value) := by
  have hnone : port? value = none := by
    rw [Option.eq_none_iff_forall_ne_some]
    exact fun n hport => hn n (port?_eq_some_iff.mp hport)
  simp only [override, hl, hnone]
  rfl

theorem fits_or_badPort (env : Environment) : env.PortFits ∨
    ∃ value, env.lookup "REPORT_PORT" = some value ∧ ∀ n, ¬ PortText value n := by
  by_cases h : env.PortFits
  · exact .inl h
  · simp only [Environment.PortFits, not_forall] at h
    obtain ⟨value, hl, hn⟩ := h
    exact .inr ⟨value, hl, not_exists.mp hn⟩

theorem sound_iff_ofFile {file : SettingsFile} : file.Sound ↔
    ofFile file = .ok (Key.ofKeys fun k => (file.value? k).getD k.default) := by
  rw [ofFile_ok_iff]
  exact ⟨fun h => ⟨h, Key.get_ofKeys _⟩, And.left⟩

theorem load_of_error {file : SettingsFile} {e : SettingsError} (h : ofFile file = .error e)
    (env : Environment) : load file env = .error e := by
  rw [load, h]
  rfl

theorem load_of_fits {file : SettingsFile} (hs : file.Sound) {env : Environment}
    (h : env.PortFits) : load file env
      = .ok (Key.ofKeys fun k => ((k.override? env).or (file.value? k)).getD k.default) := by
  have hload : load file env
      = (Key.ofKeys fun k => (file.value? k).getD k.default).override env := by
    rw [load, sound_iff_ofFile.mp hs]
    rfl
  rw [hload, override_of_fits h]
  congr 2
  funext k
  rw [Key.get_ofKeys]
  cases k.override? env <;> rfl

theorem load_of_badPort {file : SettingsFile} (hs : file.Sound) {env : Environment}
    {value : String} (hl : env.lookup "REPORT_PORT" = some value) (hn : ∀ n, ¬ PortText value n) :
    load file env = .error (.badPort value) := by
  rw [load, sound_iff_ofFile.mp hs]
  exact override_of_badPort hl hn _

theorem ofFile_invalid_iff {file : SettingsFile} :
    (∃ fault, ofFile file = .error (.invalid fault)) ↔ file ≠ .unreadable ∧ ¬ file.Sound := by
  constructor
  · rintro ⟨fault, h⟩
    refine ⟨?_, fun hs => ?_⟩
    · rintro rfl
      cases h
    · rw [sound_iff_ofFile, h] at hs
      cases hs
  · rintro ⟨hreadable, hs⟩
    cases hfile : ofFile file with
    | ok c => exact absurd (ofFile_ok_iff.mp hfile).1 hs
    | error e =>
      cases e with
      | unreadable => exact absurd (ofFile_unreadable_iff.mp hfile) hreadable
      | invalid fault => exact ⟨fault, rfl⟩
      | badPort value => exact absurd hfile ofFile_badPort

theorem load_cases (file : SettingsFile) (env : Environment) :
    (∃ e, ofFile file = .error e ∧ load file env = .error e ∧ ¬ file.Sound) ∨
    (file.Sound ∧ env.PortFits ∧ load file env
      = .ok (Key.ofKeys fun k => ((k.override? env).or (file.value? k)).getD k.default)) ∨
    (file.Sound ∧ ∃ value, env.lookup "REPORT_PORT" = some value ∧ (∀ n, ¬ PortText value n) ∧
      load file env = .error (.badPort value)) := by
  cases hfile : ofFile file with
  | error e =>
    refine .inl ⟨e, rfl, load_of_error hfile env, fun hs => ?_⟩
    rw [sound_iff_ofFile, hfile] at hs
    cases hs
  | ok c =>
    have hs := (ofFile_ok_iff.mp hfile).1
    obtain hfits | ⟨value, hl, hn⟩ := fits_or_badPort env
    · exact .inr (.inl ⟨hs, hfits, load_of_fits hs hfits⟩)
    · exact .inr (.inr ⟨hs, value, hl, hn, load_of_badPort hs hl hn⟩)

/-- The environment adds no fault but that of the port, and hides none of the file. -/
theorem load_fileError_iff {file : SettingsFile} {env : Environment} {e : SettingsError}
    (he : ∀ value, e ≠ .badPort value) : load file env = .error e ↔ ofFile file = .error e := by
  refine ⟨fun h => ?_, fun h => load_of_error h env⟩
  obtain ⟨other, hfile, hload, -⟩ | ⟨-, -, hload⟩ | ⟨-, value, -, -, hload⟩ := load_cases file env
  · rw [hfile, ← hload, h]
  · rw [h] at hload
    cases hload
  · rw [h] at hload
    cases hload
    exact absurd rfl (he value)

theorem load_badPort_iff {file : SettingsFile} {env : Environment} {value : String} :
    load file env = .error (.badPort value) ↔
      file.Sound ∧ env.lookup "REPORT_PORT" = some value ∧ ∀ n, ¬ PortText value n := by
  refine ⟨fun h => ?_, fun ⟨hs, hl, hn⟩ => load_of_badPort hs hl hn⟩
  obtain ⟨e, hfile, hload, -⟩ | ⟨-, -, hload⟩ | ⟨hs, other, hl, hn, hload⟩ := load_cases file env
  · rw [h] at hload
    cases hload
    exact absurd hfile ofFile_badPort
  · rw [h] at hload
    cases hload
  · rw [h] at hload
    cases hload
    exact ⟨hs, hl, hn⟩

theorem load_ok_iff {file : SettingsFile} {env : Environment} {c : Settings} :
    load file env = .ok c ↔ file.Sound ∧ env.PortFits ∧
      c = Key.ofKeys fun k => ((k.override? env).or (file.value? k)).getD k.default := by
  constructor
  · intro h
    obtain ⟨e, -, hload, -⟩ | ⟨hs, hfits, hload⟩ | ⟨-, value, -, -, hload⟩ := load_cases file env
    · rw [h] at hload
      cases hload
    · exact ⟨hs, hfits, Except.ok.inj (h.symm.trans hload)⟩
    · rw [h] at hload
      cases hload
  · rintro ⟨hs, hfits, rfl⟩
    exact load_of_fits hs hfits

theorem load_ok_of_reorders {file other : SettingsFile} (h : file.Reorders other)
    {env : Environment} {c : Settings} (hc : load file env = .ok c) : load other env = .ok c := by
  obtain ⟨hs, hfits, hvalue⟩ := load_ok_iff.mp hc
  obtain ⟨es, es', he, he', hp⟩ := h
  obtain ⟨_, hes, hsound⟩ := hs
  obtain rfl := Option.some.inj (he.symm.trans hes)
  have hsame (k : Key) : file.value? k = other.value? k := by
    rw [SettingsFile.value?, SettingsFile.value?, he, he', Option.bind_some, Option.bind_some,
      entryValue?, entryValue?, lookup_of_perm hp (hsound.once k)]
  simp only [hsame] at hvalue
  exact load_ok_iff.mpr ⟨⟨es', he', hsound.of_perm hp⟩, hfits, hvalue⟩

/-- Loading the settings fails for the sake of the file alone, whatever the environment is, or else
for that of a port that is none, and otherwise every key by itself is what its variable says, or
else what stands under it in the file, or else its default. In which order the keys stand there
makes no difference. -/
theorem load_precedence (file : SettingsFile) (env : Environment) :
    (load file env = .error .unreadable ↔ file = .unreadable) ∧
    (∀ fault, load file env = .error (.invalid fault) ↔ ofFile file = .error (.invalid fault)) ∧
    ((∃ fault, load file env = .error (.invalid fault)) ↔ file ≠ .unreadable ∧ ¬ file.Sound) ∧
    (∀ value, load file env = .error (.badPort value) ↔
      file.Sound ∧ env.lookup "REPORT_PORT" = some value ∧ ∀ n, ¬ PortText value n) ∧
    (∀ c, load file env = .ok c ↔ file.Sound ∧ env.PortFits ∧
      c = Key.ofKeys fun k => ((k.override? env).or (file.value? k)).getD k.default) ∧
    (∀ value n, port? value = some n ↔ PortText value n) ∧
    ∀ other, file.Reorders other → ∀ c, load file env = .ok c ↔ load other env = .ok c := by
  have hunreadable : load file env = .error .unreadable ↔ ofFile file = .error .unreadable :=
    load_fileError_iff fun _ h => nomatch h
  have hinvalid (fault : Fault) :
      load file env = .error (.invalid fault) ↔ ofFile file = .error (.invalid fault) :=
    load_fileError_iff fun _ h => nomatch h
  refine ⟨?_, hinvalid, ?_, fun _ => load_badPort_iff, fun _ => load_ok_iff,
    fun _ _ => port?_eq_some_iff, fun other h c => ?_⟩
  · exact hunreadable.trans ofFile_unreadable_iff
  · simp only [hinvalid, ofFile_invalid_iff]
  · exact ⟨load_ok_of_reorders h, load_ok_of_reorders h.symm⟩

end Settings

end Folio
