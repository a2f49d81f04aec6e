/-
# Proofs.SettingsReading -- an object of settings is a partial map without order

An object gives settings through the values of seven keys (`settingKeys`), wherever they stand
among its fields (`valuesOf`).  A key that is given once with a value of its type chooses that
value, a key that is not given leaves the standard one, and nothing else is a choice (`Chosen`).
For every text of an object, in any layout, `ofText_object` says that

* settings are read exactly if every key is a text, the settings are those that the seven keys
  choose (`Chooses`), and neither the depth nor the number of results is zero;
* objects that give the seven keys the same values, in any order and among any other fields,
  are read alike;
* a search accepts all settings that are read.

Keys must be texts: the grammar has keys that are not (`unpaired_key_refused`), where an escaped
unit lacks its partner.  No such thing is asked of the values of other keys.
-/
import ChainCompletion.Proofs.JsonGrammar
import ChainCompletion.Search.Limits
import ChainCompletion.Settings.Reader
import Mathlib.Data.List.Perm.Basic

namespace ChainCompletion.Settings

set_option autoImplicit false

variable {α β : Type} {fields fields' : List (Option String × Json)}

/-! ## What an object chooses -/

/-- The keys that settings are given by. -/
def settingKeys : List String :=
  ["enabled", "timeoutMs", "maxDepth", "maxResults", "excludedTypes", "staticRoots", "snippets"]

/-- Whether all keys of an object are texts. -/
def Readable (fields : List (Option String × Json)) : Prop :=
  ∀ entry ∈ fields, entry.1.isSome = true

/-- The values that an object gives a key. -/
def valuesOf (fields : List (Option String × Json)) (key : String) : List Json :=
  (fields.filter fun entry => entry.1 = some key).map Prod.snd

/-- The choice that is made with the values of a key. -/
inductive Chosen (encode : α → Json) (standard : α) : List Json → α → Prop
  | given (choice : α) : Chosen encode standard [encode choice] choice
  | absent : Chosen encode standard [] standard

/-- The number that is written as plain digits. -/
def plainNumber (value : Nat) : Json := .number (some value)

/-- The array of the given texts. -/
def textArray (texts : List String) : Json := .array (texts.map fun text => .string (some text))

/-- Whether an object chooses the settings. -/
structure Chooses (fields : List (Option String × Json)) (settings : Settings) : Prop where
  enabled : Chosen .bool true (valuesOf fields "enabled") settings.enabled
  timeoutMs : Chosen plainNumber 3000 (valuesOf fields "timeoutMs") settings.timeoutMs
  maxDepth : Chosen plainNumber 4 (valuesOf fields "maxDepth") settings.maxDepth
  maxResults : Chosen plainNumber 20 (valuesOf fields "maxResults") settings.maxResults
  excludedTypes : Chosen textArray [] (valuesOf fields "excludedTypes") settings.excludedTypes
  staticRoots : Chosen textArray [] (valuesOf fields "staticRoots") settings.staticRoots
  snippets : Chosen .bool true (valuesOf fields "snippets") settings.snippets

section

variable {encode : α → Json} {standard choice : α}

@[simp] theorem chosen_nil_iff : Chosen encode standard [] choice ↔ standard = choice := by
  constructor
  · rintro ⟨⟩
    rfl
  · rintro rfl
    exact .absent

@[simp] theorem chosen_singleton_iff {json : Json} :
    Chosen encode standard [json] choice ↔ json = encode choice := by
  constructor
  · generalize same : [json] = values
    rintro ⟨⟩
    · exact List.singleton_inj.mp same
    · cases same
  · rintro rfl
    exact .given choice

@[simp] theorem not_chosen_twice {first second : Json} {more : List Json} :
    ¬ Chosen encode standard (first :: second :: more) choice := by
  generalize same : first :: second :: more = values
  rintro ⟨⟩ <;> cases same

/-- A choice does not depend on the order of values. -/
theorem Chosen.perm {values values' : List Json} (chosen : Chosen encode standard values choice)
    (same : values.Perm values') : Chosen encode standard values' choice := by
  cases chosen with
  | given =>
      rw [List.perm_singleton.mp same.symm]
      exact .given choice
  | absent =>
      rw [← same.nil_eq]
      exact .absent

end

theorem Chooses.perm {settings : Settings} (chooses : Chooses fields settings)
    (same : ∀ key ∈ settingKeys, (valuesOf fields key).Perm (valuesOf fields' key)) :
    Chooses fields' settings where
  enabled := chooses.enabled.perm (same _ (by decide))
  timeoutMs := chooses.timeoutMs.perm (same _ (by decide))
  maxDepth := chooses.maxDepth.perm (same _ (by decide))
  maxResults := chooses.maxResults.perm (same _ (by decide))
  excludedTypes := chooses.excludedTypes.perm (same _ (by decide))
  staticRoots := chooses.staticRoots.perm (same _ (by decide))
  snippets := chooses.snippets.perm (same _ (by decide))

/-! ## Reading back what is encoded -/

/-- A list is decoded item by item to what it encodes. -/
theorem mapM_eq_some_iff_map {decode : α → Option β} {encode : β → α}
    (inverse : ∀ a b, decode a = some b ↔ a = encode b) {as : List α} {bs : List β} :
    as.mapM decode = some bs ↔ as = bs.map encode := by
  induction as generalizing bs with
  | nil => cases bs <;> simp
  | cons a as ih =>
      cases bs with
      | nil => simp [List.mapM_cons, Option.bind_eq_some_iff]
      | cons b bs => simp [List.mapM_cons, Option.bind_eq_some_iff, inverse, ih]

theorem toBool?_eq_some_iff (json : Json) (value : Bool) :
    json.toBool? = some value ↔ json = .bool value := by
  cases json <;> simp [Json.toBool?]

theorem toNat?_eq_some_iff (json : Json) (value : Nat) :
    json.toNat? = some value ↔ json = plainNumber value := by
  cases json <;> simp [Json.toNat?, plainNumber]

theorem toText?_eq_some_iff (json : Json) (text : String) :
    json.toText? = some text ↔ json = .string (some text) := by
  cases json <;> simp [Json.toText?]

theorem toTexts?_eq_some_iff (json : Json) (texts : List String) :
    json.toTexts? = some texts ↔ json = textArray texts := by
  cases json <;> simp [Json.toTexts?, textArray, mapM_eq_some_iff_map toText?_eq_some_iff]

/-! ## One setting -/

/-- The fields of an object whose keys are the given texts. -/
def named (entries : List (String × Json)) : List (Option String × Json) :=
  entries.map fun entry => (some entry.1, entry.2)

theorem readable_iff : Readable fields ↔ ∃ entries, fields = named entries := by
  constructor
  · intro readable
    induction fields with
    | nil => exact ⟨[], rfl⟩
    | cons entry fields ih =>
        obtain ⟨key, json⟩ := entry
        obtain ⟨name, rfl⟩ := Option.isSome_iff_exists.mp (readable (key, json) (by simp))
        obtain ⟨entries, rfl⟩ := ih fun entry isThere => readable entry (by simp [isThere])
        exact ⟨(name, json) :: entries, rfl⟩
  · rintro ⟨entries, rfl⟩ entry isThere
    obtain ⟨entry, -, rfl⟩ := List.mem_map.mp isThere
    rfl

theorem valuesOf_named (entries : List (String × Json)) (key : String) :
    valuesOf (named entries) key = (entries.filter fun entry => entry.1 = key).map Prod.snd := by
  simp [valuesOf, named, List.filter_map, Function.comp_def]

/-- What is read for a setting is what its key chooses. -/
theorem setting_eq_some_iff {decode : Json → Option α} {encode : α → Json}
    (inverse : ∀ json value, decode json = some value ↔ json = encode value)
    (entries : List (String × Json)) (key : String) (place : Nat) (standard choice : α) :
    setting (byKey entries) key place decode standard = some choice ↔
      Chosen encode standard (valuesOf (named entries) key) choice := by
  rw [valuesOf_named]
  -- The key is not given, given once, or given again.
  rcases found : entries.filter fun entry => entry.1 = key with _ | ⟨first, _ | ⟨second, more⟩⟩
  · simp [setting, byKey, found]
  · simp [setting, byKey, found, inverse]
  · simp [setting, byKey, found]

/-! ## All settings -/

theorem ofSource_eq_some_iff {entries : List (String × Json)} {settings : Settings} :
    ofSource (byKey entries) = some settings ↔ Chooses (named entries) settings := by
  simp only [ofSource, standard, Option.bind_eq_bind, Option.bind_eq_some_iff, Option.pure_def,
    Option.some.injEq, setting_eq_some_iff toBool?_eq_some_iff,
    setting_eq_some_iff toNat?_eq_some_iff, setting_eq_some_iff toTexts?_eq_some_iff]
  constructor
  · rintro ⟨_, enabled, _, timeoutMs, _, maxDepth, _, maxResults, _, excludedTypes, _, staticRoots,
      _, snippets, rfl⟩
    exact ⟨enabled, timeoutMs, maxDepth, maxResults, excludedTypes, staticRoots, snippets⟩
  · rintro ⟨enabled, timeoutMs, maxDepth, maxResults, excludedTypes, staticRoots, snippets⟩
    exact ⟨_, enabled, _, timeoutMs, _, maxDepth, _, maxResults, _, excludedTypes, _, staticRoots,
      _, snippets, rfl⟩

theorem ofJson?_object_eq_some_iff {settings : Settings} :
    ofJson? (.object fields) = some settings ↔ Readable fields ∧ Chooses fields settings := by
  have inverse : ∀ (field : Option String × Json) (entry : String × Json),
      (field.1.map fun key => (key, field.2)) = some entry ↔ field = (some entry.1, entry.2) := by
    rintro ⟨key, json⟩ entry
    cases key <;> simp [Prod.ext_iff]
  simp only [ofJson?, Option.bind_eq_bind, Option.bind_eq_some_iff, mapM_eq_some_iff_map inverse,
    ofSource_eq_some_iff, readable_iff, named]
  constructor
  · rintro ⟨entries, rfl, chooses⟩
    exact ⟨⟨entries, rfl⟩, chooses⟩
  · rintro ⟨⟨entries, rfl⟩, chooses⟩
    exact ⟨entries, rfl, chooses⟩

/-- Objects that give the settings the same values are read alike. -/
theorem ofJson?_object_congr (readable : Readable fields ↔ Readable fields')
    (same : ∀ key ∈ settingKeys, (valuesOf fields key).Perm (valuesOf fields' key)) :
    ofJson? (.object fields) = ofJson? (.object fields') := by
  ext settings
  rw [ofJson?_object_eq_some_iff, ofJson?_object_eq_some_iff, readable]
  exact and_congr_right fun _ => ⟨fun chooses => chooses.perm same,
    fun chooses => chooses.perm fun key isKey => (same key isKey).symm⟩

theorem fault?_eq_none_iff {settings : Settings} :
    settings.fault? = none ↔ settings.maxDepth ≠ 0 ∧ settings.maxResults ≠ 0 := by
  simp only [fault?]
  split <;> simp_all

/-- What is made of the settings that a text gives, if it gives any. -/
def checked : Option Settings → Except ReadError Settings
  | none => .error .malformed
  | some settings =>
      match settings.fault? with
      | some fault => .error (.faulty fault)
      | none => .ok settings

theorem checked_eq_ok_iff {found : Option Settings} {settings : Settings} :
    checked found = .ok settings ↔ found = some settings ∧ settings.fault? = none := by
  cases found with
  | none => simp [checked]
  | some other =>
      cases faulty : other.fault? with
      | some fault =>
          simp only [checked, faulty, reduceCtorEq, Option.some.injEq, false_iff, not_and]
          rintro rfl
          simp [faulty]
      | none =>
          simp only [checked, faulty, Except.ok.injEq, Option.some.injEq, iff_self_and]
          rintro rfl
          exact faulty

theorem ofText_eq_checked {text : String} {json : Json} (written : json.Written text) :
    ofText text = checked (ofJson? json) := by
  rw [ofText, Json.ofText?_eq_some_iff.mpr written, Option.bind_some]
  rfl

/-- An object of settings is read through the values of the seven keys alone. -/
theorem ofText_object {text : String} {fields : List (Option String × Json)}
    (written : (Json.object fields).Written text) :
    (∀ settings, ofText text = .ok settings ↔
      Readable fields ∧ Chooses fields settings ∧ settings.maxDepth ≠ 0 ∧
        settings.maxResults ≠ 0) ∧
    (∀ text' fields', (Json.object fields').Written text' → (Readable fields' ↔ Readable fields) →
      (∀ key ∈ settingKeys, (valuesOf fields' key).Perm (valuesOf fields key)) →
      ofText text' = ofText text) ∧
    ∀ settings, ofText text = .ok settings →
      Search.Limits.ofSettings settings = .ok
        ⟨settings.maxDepth, settings.maxResults, Search.standardFrontier, settings.timeoutMs⟩ := by
  rw [ofText_eq_checked written]
  refine ⟨fun settings => ?_, fun text' fields' written' readable same => ?_,
    fun settings read => ?_⟩
  · rw [checked_eq_ok_iff, ofJson?_object_eq_some_iff, fault?_eq_none_iff, and_assoc]
  · rw [ofText_eq_checked written', ofJson?_object_congr readable same]
  · rw [Search.Limits.ofSettings, (checked_eq_ok_iff.mp read).2]

/-- Settings among other fields, with blanks and escapes. -/
def scattered : String :=
  "\x7b \"timeoutMs\": 50, \"x\":[\x7b\"y\":\"\\ud800\"\x7d],\n\"max\\u0044epth\": 2 \x7d"

/-- The fields that stand there. -/
def scatteredFields : List (Option String × Json) :=
  [(some "timeoutMs", .number (some 50)), (some "x", .array [.object [(some "y", .string none)]]),
    (some "maxDepth", .number (some 2))]

/-- Blanks, escapes, other fields and the order of fields make no difference. -/
theorem ofText_object_scattered :
    (Json.object scatteredFields).Written scattered ∧
      ofText scattered = .ok ⟨true, 50, 2, 20, [], [], true⟩ ∧
      ofText "\x7b\"maxDepth\":2,\"timeoutMs\":50\x7d" = ofText scattered ∧
      Search.Limits.ofSettings ⟨true, 50, 2, 20, [], [], true⟩ = .ok ⟨2, 20, 50000, 50⟩ := by
  have written : (Json.object scatteredFields).Written scattered :=
    Json.ofText?_eq_some_iff.mp rfl
  have written' : (Json.object [(some "maxDepth", .number (some 2)),
      (some "timeoutMs", .number (some 50))]).Written "\x7b\"maxDepth\":2,\"timeoutMs\":50\x7d" :=
    Json.ofText?_eq_some_iff.mp rfl
  obtain ⟨read, alike, accepted⟩ := ofText_object written
  have found := (read ⟨true, 50, 2, 20, [], [], true⟩).mpr
    ⟨by simp [Readable, scatteredFields],
      ⟨.absent, .given 50, .given 2, .absent, .absent, .absent, .absent⟩, by decide, by decide⟩
  refine ⟨written, found, alike _ _ written' ?_ ?_, accepted _ found⟩
  · simp [Readable, scatteredFields]
  · simp [settingKeys, valuesOf, scatteredFields]

/-- A key that is no text is refused, though it is the key of no setting. -/
theorem unpaired_key_refused :
    (Json.object [(none, .number (some 1))]).Written "\x7b\"\\ud800\": 1\x7d" ∧
      Chooses [(none, .number (some 1))] standard ∧ standard.maxDepth ≠ 0 ∧
      standard.maxResults ≠ 0 ∧ ofText "\x7b\"\\ud800\": 1\x7d" = .error .malformed :=
  ⟨Json.ofText?_eq_some_iff.mp rfl,
    ⟨.absent, .absent, .absent, .absent, .absent, .absent, .absent⟩, by decide, by decide, rfl⟩

end ChainCompletion.Settings
