import Mathlib.Data.List.Nodup
import Runbook.Json.Basic

/-!
# What setting a member keeps

`Fields.AgreeOutside keys` holds of two records with the same members in the same order, but for the values
of the members named in `keys`. Setting a member that is there gives such a record (`agreeOutside_set`), in
which the member has its new value (`get?_set`). What was set before is lost (`set_set`); to set the value that
is there changes nothing, if no two members have one name (`set_get?`).
-/

namespace Runbook.Fields

/-- The same members in the same order, but for the values of those that are named in `keys`. -/
structure AgreeOutside (keys : List String) (fields fields' : Fields) : Prop where
  names : fields'.map Prod.fst = fields.map Prod.fst
  get? : ∀ key ∉ keys, fields'.get? key = fields.get? key

variable {key : String} {value : Json} {fields fields' fields'' : Fields}

theorem AgreeOutside.refl (keys : List String) (fields : Fields) : AgreeOutside keys fields fields :=
  ⟨rfl, fun _ _ => rfl⟩

theorem AgreeOutside.trans {keys keys' : List String} (h : AgreeOutside keys fields fields')
    (h' : AgreeOutside keys' fields' fields'') : AgreeOutside (keys ++ keys') fields fields'' := by
  refine ⟨h'.names.trans h.names, fun key hkey => ?_⟩
  rw [List.mem_append, not_or] at hkey
  exact (h'.get? key hkey.2).trans (h.get? key hkey.1)

theorem has_of_get? (h : fields.get? key = some value) : fields.has key = true := by
  obtain ⟨field, hfind, -⟩ := Option.map_eq_some_iff.1 h
  rw [has, List.any_eq_true]
  exact ⟨field, List.mem_of_find?_eq_some hfind, by simpa using List.find?_some hfind⟩

/-- Which members there are hangs on their names alone. -/
theorem has_eq_of_names (h : fields'.map Prod.fst = fields.map Prod.fst) (key : String) :
    fields'.has key = fields.has key := by
  have hnames : ∀ fields : Fields, fields.has key = (fields.map Prod.fst).any (· == key) := by
    intro fields
    rw [has, List.any_map]
    rfl
  rw [hnames, hnames, h]

theorem set_of_has (h : fields.has key = true) :
    fields.set key value = fields.map fun field => if field.1 == key then (key, value) else field := by
  rw [set, if_pos h]

/-- A member that is set is found in its place. -/
theorem find?_set (h : fields.has key = true) (key' : String) :
    (fields.set key value).find? (fun field => field.1 == key') =
      (fields.find? fun field => field.1 == key').map fun field =>
        if field.1 == key then (key, value) else field := by
  rw [set_of_has h, List.find?_map]
  congr 2
  funext field
  by_cases hfield : field.1 = key <;> simp [hfield]

theorem get?_set (h : fields.has key = true) : (fields.set key value).get? key = some value := by
  obtain ⟨field, hmem, hfield⟩ := List.any_eq_true.1 h
  obtain ⟨found, hfound⟩ : ∃ found, fields.find? (fun field => field.1 == key) = some found :=
    Option.isSome_iff_exists.1 (List.find?_isSome.2 ⟨field, hmem, hfield⟩)
  have hkey := List.find?_some hfound
  rw [get?, find?_set h, hfound]
  simp only [Option.map_some, if_pos hkey]

theorem agreeOutside_set (h : fields.has key = true) (value : Json) :
    AgreeOutside [key] fields (fields.set key value) := by
  refine ⟨?_, fun key' hkey => ?_⟩
  · rw [set_of_has h, List.map_map]
    refine List.map_congr_left fun field _ => ?_
    by_cases hfield : field.1 = key <;> simp [hfield]
  · rw [get?, find?_set h, get?, Option.map_map]
    refine Option.map_congr fun field hfind => ?_
    have hfield : field.1 = key' := by simpa using List.find?_some hfind
    have hne : field.1 ≠ key := by simpa [hfield] using hkey
    simp [hne]

theorem has_set (h : fields.has key = true) : (fields.set key value).has key = true :=
  has_of_get? (get?_set h)

/-- Of two values that are set one after the other the second stays. -/
theorem set_set (h : fields.has key = true) (value value' : Json) :
    (fields.set key value).set key value' = fields.set key value' := by
  rw [set_of_has (has_set h), set_of_has h, set_of_has h, List.map_map]
  refine List.map_congr_left fun field _ => ?_
  by_cases hfield : field.1 = key <;> simp [hfield]

/-- Of two members it does not matter which is set first. -/
theorem set_comm {key' : String} (hne : key ≠ key') (h : fields.has key = true)
    (h' : fields.has key' = true) (value value' : Json) :
    (fields.set key value).set key' value' = (fields.set key' value').set key value := by
  have hhas : (fields.set key value).has key' = true := by
    rw [has_eq_of_names (agreeOutside_set h value).names, h']
  have hhas' : (fields.set key' value').has key = true := by
    rw [has_eq_of_names (agreeOutside_set h' value').names, h]
  rw [set_of_has hhas, set_of_has hhas', set_of_has h, set_of_has h', List.map_map, List.map_map]
  refine List.map_congr_left fun field _ => ?_
  by_cases hfield : field.1 = key
  · simp [hfield, hne]
  · by_cases hfield' : field.1 = key' <;> simp [hfield, hfield', hne.symm]

theorem set_inj (h : fields.has key = true) {value' : Json} :
    fields.set key value = fields.set key value' ↔ value = value' := by
  refine ⟨fun heq => ?_, fun heq => heq ▸ rfl⟩
  have hget : (fields.set key value).get? key = some value := get?_set h
  rw [heq, get?_set h] at hget
  exact (Option.some.inj hget).symm

theorem get?_append (key : String) (fields more : Fields) :
    get? key (fields ++ more) = (get? key fields).or (get? key more) := by
  rw [get?, List.find?_append, get?, get?]
  cases List.find? (fun field => field.1 == key) fields <;> rfl

theorem get?_cons (key : String) (field : String × Json) (fields : Fields) :
    get? key (field :: fields) = if field.1 = key then some field.2 else get? key fields := by
  by_cases h : field.1 = key <;> simp [get?, h]

theorem get?_eq_none_iff : fields.get? key = none ↔ key ∉ fields.map Prod.fst := by
  rw [get?, Option.map_eq_none_iff, List.find?_eq_none]
  simp only [beq_iff_eq, List.mem_map, not_exists, not_and]

/-- The other members keep their values when one is set, whether or not it was there. -/
theorem get?_set_of_ne {key' : String} (hne : key' ≠ key) (fields : Fields) (value : Json) :
    (fields.set key value).get? key' = fields.get? key' := by
  by_cases h : fields.has key = true
  · exact (agreeOutside_set h value).get? key' (by simpa using hne)
  · rw [set, if_neg h, get?_append, get?_cons, if_neg hne.symm]
    exact Option.or_none

/-- Have the members different names? -/
def Distinct (fields : Fields) : Prop :=
  (fields.map Prod.fst).Nodup

instance (fields : Fields) : Decidable fields.Distinct :=
  inferInstanceAs (Decidable (fields.map Prod.fst).Nodup)

theorem value_eq_of_mem (distinct : fields.Distinct) (h : fields.get? key = some value)
    {field : String × Json} (hmem : field ∈ fields) (hkey : field.1 = key) : field.2 = value := by
  obtain ⟨found, hfind, rfl⟩ := Option.map_eq_some_iff.1 h
  have hfound : found.1 = key := by simpa using List.find?_some hfind
  have hmemFound := List.mem_of_find?_eq_some hfind
  rw [List.inj_on_of_nodup_map distinct hmem hmemFound (hkey.trans hfound.symm)]

/-- To set the value that is there changes nothing. -/
theorem set_get? (distinct : fields.Distinct) (h : fields.get? key = some value) :
    fields.set key value = fields := by
  have hsame : ∀ field ∈ fields, (if field.1 == key then (key, value) else field) = field := by
    intro field hmem
    by_cases hkey : field.1 = key
    · rw [if_pos (beq_iff_eq.2 hkey), ← hkey, ← value_eq_of_mem distinct h hmem hkey]
    · rw [if_neg (mt beq_iff_eq.1 hkey)]
  rw [set_of_has (has_of_get? h), List.map_congr_left hsame, List.map_id']

/-- Other values keep the names of the members. -/
theorem get?_map_snd (f : Json → Json) (key : String) (fields : Fields) :
    get? key (fields.map fun field => (field.1, f field.2)) = (get? key fields).map f := by
  rw [get?, List.find?_map, get?, Option.map_map, Option.map_map]
  rfl

end Runbook.Fields

/-- Have the members of a value different names, if it is a record? -/
def Runbook.Json.Distinct (json : Json) : Prop :=
  Fields.Distinct (json.fields?.getD [])

instance (json : Runbook.Json) : Decidable json.Distinct :=
  inferInstanceAs (Decidable (Runbook.Fields.Distinct _))
