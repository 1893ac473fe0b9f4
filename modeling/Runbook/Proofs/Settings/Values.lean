import Runbook.Proofs.Decode.Record
import Runbook.Proofs.Json.Fields
import Runbook.Settings.Basic

/-!
# Which settings are accepted

Every setting comes from what is given for it (`given?`): by its variable in the environment, by its variable in the
file of definitions, or by its own name there. Texts and paths take everything, so settings are accepted if the
two numbers among them are what they should be (`exists_decodeFields_iff`), and the name of the log level is taken as
it is given (`logLevel_of_decodeFields`): that it names a level is not asked here.
-/

namespace Runbook

theorem Fields.get?_toList (key name : String) (value : Option String) :
    get? key (value.map fun value => (name, Json.str value)).toList =
      if name = key then value.map Json.str else none := by
  cases value with
  | none => simp [get?]
  | some value => by_cases h : name = key <;> simp [get?, h]

namespace Settings

open Decode Decoded

variable (environment : List (String × String)) (file : Variables) {outerName name : String}

/-- What is given for a setting, by its variable or by its own name. -/
def given? (outerName name : String) : Option String :=
  ((valueOf? outerName (environment.map fun (name, value) => (name, some value))).or (valueOf? outerName file)).or
    (valueOf? name file)

/-- Are the numbers among the settings what they should be, if they are given? -/
structure Valid : Prop where
  timeout : ∀ text, given? environment file "STEPFLOW_DISPATCH_TIMEOUT_SECONDS" "dispatch_timeout_seconds" = some text →
    ∃ x, numberOfText text = .accepted x ∧ 0.0 < x
  delay : ∀ text, given? environment file "STEPFLOW_MAX_STEP_DELAY_SECONDS" "max_step_delay_seconds" = some text →
    ∃ x, numberOfText text = .accepted x ∧ 0.0 ≤ x

/-- The name of the log level, whether or not there is such a level. -/
def levelName : String :=
  (given? environment file "STEPFLOW_LOG_LEVEL" "log_level").getD "INFO"

/-- Is there a log level of this name, in any case? -/
def IsLevel (name : String) : Prop :=
  name.map capital ∈ thresholds.map Prod.fst

instance (name : String) : Decidable (IsLevel name) :=
  inferInstanceAs (Decidable (name.map capital ∈ thresholds.map Prod.fst))

theorem threshold?_isSome_iff {s : Settings} : s.threshold?.isSome = true ↔ IsLevel s.logLevel := by
  rw [threshold?, IsLevel, ← Option.ne_none_iff_isSome, ne_eq, List.lookup_eq_none_iff]
  simp

/-- The record of settings has a member for what is given in either way. -/
theorem get?_members (h : (outerName, name) ∈ names) :
    (members environment file).get? outerName =
        ((valueOf? outerName (environment.map fun (name, value) => (name, some value))).or
          (valueOf? outerName file)).map Json.str ∧
      (members environment file).get? name = (valueOf? name file).map Json.str := by
  simp only [names, List.mem_cons, Prod.mk.injEq, List.not_mem_nil, or_false] at h
  obtain ⟨rfl, rfl⟩ | ⟨rfl, rfl⟩ | ⟨rfl, rfl⟩ | ⟨rfl, rfl⟩ | ⟨rfl, rfl⟩ := h
  all_goals simp [members, names, Fields.get?_append, Fields.get?_toList]

theorem find_members (h : (outerName, name) ∈ names) :
    (find [outerName, name] (members environment file)).map Prod.snd =
      (given? environment file outerName name).map Json.str := by
  obtain ⟨houter, hname⟩ := get?_members environment file h
  simp only [find, List.findSome?_cons, List.findSome?_nil, houter, hname, given?]
  generalize (valueOf? outerName (environment.map fun (name, value) => (name, some value))).or
    (valueOf? outerName file) = outer
  cases outer with
  | some value => rfl
  | none => cases valueOf? name file <;> rfl

/-- A setting is what is given for it, or else what it is by default. -/
theorem optional_members {α : Type} {decode : Json → Decoded α} {absent a : α} (h : (outerName, name) ∈ names) :
    Decode.optional [outerName, name] decode absent (members environment file) = .accepted a ↔
      (given? environment file outerName name).elim (.accepted absent) (decode ∘ Json.str) = .accepted a := by
  have hfind := find_members environment file h
  rw [Decode.optional]
  cases hgiven : given? environment file outerName name with
  | none =>
    rw [hgiven, Option.map_none, Option.map_eq_none_iff] at hfind
    rw [hfind]
    rfl
  | some text =>
    rw [hgiven, Option.map_some, Option.map_eq_some_iff] at hfind
    obtain ⟨⟨key, json⟩, hfound, rfl⟩ := hfind
    rw [hfound]
    exact within_eq_accepted

variable {environment file}

/-- Settings are accepted if each of them is. -/
theorem exists_decodeFields {fields : Fields} : (∃ s, decodeFields fields = .accepted s) ↔
    (∃ level, Decode.optional ["STEPFLOW_LOG_LEVEL", "log_level"] text "INFO" fields = .accepted level) ∧
    (∃ state, Decode.optional ["STEPFLOW_STATE_PATH", "state_path"] path (.ofText "stepflow_state") fields =
      .accepted state) ∧
    (∃ timeout, Decode.optional ["STEPFLOW_DISPATCH_TIMEOUT_SECONDS", "dispatch_timeout_seconds"]
      (nullable (numberAbove 0.0)) none fields = .accepted timeout) ∧
    (∃ delay, Decode.optional ["STEPFLOW_MAX_STEP_DELAY_SECONDS", "max_step_delay_seconds"] (numberFrom 0.0) 300.0
      fields = .accepted delay) ∧
    ∃ catalog, Decode.optional ["STEPFLOW_CATALOG_PATH", "catalog_path"] (nullable path) none fields =
      .accepted catalog := by
  simp only [decodeFields, seq_eq_accepted, map_eq_accepted]
  constructor
  · rintro ⟨_, _, _, ⟨_, _, ⟨_, _, ⟨_, _, ⟨_, hlevel, -⟩, hstate, -⟩, htimeout, -⟩, hdelay, -⟩, hcatalog, -⟩
    exact ⟨⟨_, hlevel⟩, ⟨_, hstate⟩, ⟨_, htimeout⟩, ⟨_, hdelay⟩, _, hcatalog⟩
  · rintro ⟨⟨_, hlevel⟩, ⟨_, hstate⟩, ⟨_, htimeout⟩, ⟨_, hdelay⟩, _, hcatalog⟩
    exact ⟨_, _, _, ⟨_, _, ⟨_, _, ⟨_, _, ⟨_, hlevel, rfl⟩, hstate, rfl⟩, htimeout, rfl⟩, hdelay, rfl⟩, hcatalog, rfl⟩

/-- A setting is accepted if what is given for it is. -/
theorem exists_setting {α : Type} {decode : Json → Decoded α} {absent : α} (h : (outerName, name) ∈ names) :
    (∃ a, Decode.optional [outerName, name] decode absent (members environment file) = .accepted a) ↔
      ∀ text, given? environment file outerName name = some text → ∃ a, decode (.str text) = .accepted a := by
  simp only [optional_members environment file h]
  cases given? environment file outerName name with
  | none => simp
  | some text => simp

theorem exists_text (text : String) : ∃ a, Decode.text (.str text) = .accepted a :=
  ⟨text, rfl⟩

theorem exists_path (text : String) : ∃ a, path (.str text) = .accepted a :=
  ⟨.ofText text, rfl⟩

theorem exists_nullable_iff {α : Type} {decode : Json → Decoded α} {text : String} :
    (∃ a, nullable decode (.str text) = .accepted a) ↔ ∃ a, decode (.str text) = .accepted a := by
  have hmap : nullable decode (.str text) = some <$> decode (.str text) := rfl
  simp only [hmap, map_eq_accepted]
  constructor
  · rintro ⟨_, a, ha, -⟩
    exact ⟨a, ha⟩
  · rintro ⟨a, ha⟩
    exact ⟨_, a, ha, rfl⟩

/-- Settings are accepted if the numbers among them are what they should be. -/
theorem exists_decodeFields_iff : (∃ s, decodeFields (members environment file) = .accepted s) ↔
    Valid environment file := by
  rw [exists_decodeFields, exists_setting (by simp [names]), exists_setting (by simp [names]),
    exists_setting (by simp [names]), exists_setting (by simp [names]), exists_setting (by simp [names])]
  simp only [exists_text, exists_path, exists_nullable_iff, numberAbove_eq_accepted, numberFrom_eq_accepted, number,
    implies_true, true_and, and_true]
  exact ⟨fun ⟨htimeout, hdelay⟩ => ⟨htimeout, hdelay⟩, fun h => ⟨h.timeout, h.delay⟩⟩

/-- The log level of settings that are accepted is the one that is given. -/
theorem logLevel_of_decodeFields {s : Settings} (h : decodeFields (members environment file) = .accepted s) :
    s.logLevel = levelName environment file := by
  simp only [decodeFields, seq_eq_accepted, map_eq_accepted] at h
  obtain ⟨_, _, ⟨_, _, ⟨_, _, ⟨_, _, ⟨level, hlevel, rfl⟩, -, rfl⟩, -, rfl⟩, -, rfl⟩, -, rfl⟩ := h
  rw [optional_members environment file (by simp [names])] at hlevel
  show level = _
  rw [levelName]
  cases hgiven : given? environment file "STEPFLOW_LOG_LEVEL" "log_level" with
  | none =>
    rw [hgiven] at hlevel
    exact (accepted.inj hlevel).symm
  | some text =>
    rw [hgiven] at hlevel
    exact (accepted.inj hlevel).symm

end Settings

end Runbook
