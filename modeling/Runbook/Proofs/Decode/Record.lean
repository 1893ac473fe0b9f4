import Mathlib.Data.List.Forall2
import Runbook.Decode.Record
import Runbook.Proofs.Json.Fields

/-!
# Records that are accepted

A record is accepted only if all of its fields are: `Decoded.seq_eq_accepted` takes the fields apart, and
`andThen_check_eq_accepted` a value and what is required of it. A field that is found under its first name is what the
value there decodes to (`required_of_get?`, `optional_of_get?`), and the items of a list are decoded one for one
(`forall₂_of_items`). Where other values stand in a record, a field that is not looked for among them is decoded as
before (`optional_congr`), one that is found there with a change (`optional_map`), and the members that no field takes
are the same (`extras_set`).
-/

namespace Runbook.Decode

open Decoded

variable {α β : Type}

namespace Decoded

theorem map_eq_accepted {f : α → β} {x : Decoded α} {b : β} :
    f <$> x = accepted b ↔ ∃ a, x = accepted a ∧ f a = b := by
  show Decoded.map f x = accepted b ↔ _
  cases x <;> simp [Decoded.map]

theorem seq_eq_accepted {f : Decoded (α → β)} {x : Decoded α} {b : β} :
    f <*> x = accepted b ↔ ∃ g a, f = accepted g ∧ x = accepted a ∧ g a = b := by
  show Decoded.seq f (fun _ => x) = accepted b ↔ _
  cases f <;> cases x <;> simp [Decoded.seq]

/-- The outcomes form an applicative functor: in whatever way fields are combined, their issues are kept in order. -/
instance : LawfulApplicative Decoded where
  map_const := rfl
  id_map x := by cases x <;> rfl
  seqLeft_eq x y := by cases x <;> cases y <;> rfl
  seqRight_eq x y := by cases x <;> cases y <;> rfl
  pure_seq f x := by cases x <;> rfl
  map_pure f a := rfl
  seq_pure f a := by cases f <;> rfl
  seq_assoc x f g := by
    cases x <;> cases f <;> cases g <;> first | rfl | exact congrArg rejected (List.append_assoc ..).symm

/-- Of what is changed only an accepted value counts. -/
theorem map_congr {f g : α → β} {x : Decoded α} (h : ∀ a, x = accepted a → f a = g a) : f <$> x = g <$> x := by
  cases x with
  | accepted a => exact congrArg accepted (h a rfl)
  | rejected issues => rfl

theorem within_map (part : Part) (f : α → β) (x : Decoded α) : (f <$> x).within part = f <$> x.within part := by
  cases x <;> rfl

theorem within_eq_accepted {part : Part} {x : Decoded α} {a : α} :
    x.within part = accepted a ↔ x = accepted a := by
  cases x <;> simp [within]

end Decoded

/-! ## Checked values -/

/-- A further check of an accepted value accepts the value or nothing. -/
theorem andThen_check_eq_accepted {α : Type} {x : Decoded α} {p : α → Prop} [DecidablePred p]
    {otherwise : Fault} {a : α} :
    (x.andThen fun a => if p a then accepted a else fault otherwise) = accepted a ↔
      x = accepted a ∧ p a := by
  cases x with
  | accepted b =>
    by_cases hb : p b
    · simp only [andThen, if_pos hb, accepted.injEq]
      exact ⟨fun h => ⟨h, h ▸ hb⟩, fun h => h.1⟩
    · simp only [andThen, if_neg hb, fault, reduceCtorEq, false_iff]
      rintro ⟨hab, ha⟩
      exact hb (accepted.inj hab ▸ ha)
  | rejected issues => simp [andThen]

section

variable {json : Json}

theorem integerFrom_eq_accepted {low n : Int} :
    integerFrom low json = accepted n ↔ integer json = accepted n ∧ low ≤ n :=
  andThen_check_eq_accepted

theorem numberFrom_eq_accepted {low x : Float} :
    numberFrom low json = accepted x ↔ number json = accepted x ∧ low ≤ x :=
  andThen_check_eq_accepted

theorem numberAbove_eq_accepted {low x : Float} :
    numberAbove low json = accepted x ↔ number json = accepted x ∧ low < x :=
  andThen_check_eq_accepted

end

/-! ## Fields -/

variable {name : String} {names : Names} {fields : Fields} {json : Json} {decode : Json → Decoded α}

theorem find_of_get? (h : fields.get? name = some json) :
    find (name :: names) fields = some (name, json) := by
  simp [find, h]

theorem get?_of_find (h : find names fields = some (name, json)) : name ∈ names ∧ fields.get? name = some json := by
  obtain ⟨name', hname', hfound⟩ := List.exists_of_findSome?_eq_some h
  obtain ⟨json', hget, heq⟩ := Option.map_eq_some_iff.1 hfound
  obtain ⟨rfl, rfl⟩ := Prod.mk.inj heq
  exact ⟨hname', hget⟩

theorem required_of_get? {a : α} (h : fields.get? name = some json) :
    required (name :: names) decode fields = accepted a ↔ decode json = accepted a := by
  simp only [required, find_of_get? h, within_eq_accepted]

theorem optional_of_get? {a absent : α} (h : fields.get? name = some json) :
    optional (name :: names) decode absent fields = accepted a ↔ decode json = accepted a := by
  simp only [optional, find_of_get? h, within_eq_accepted]

/-- The value of a field with one name that must be there is decoded from what stands under the name. -/
theorem exists_of_required {a : α} (h : required [name] decode fields = accepted a) :
    ∃ json, fields.get? name = some json ∧ decode json = accepted a := by
  cases hget : fields.get? name with
  | some json => exact ⟨json, rfl, (required_of_get? hget).1 h⟩
  | none =>
    rw [required, find, List.findSome?_cons, hget] at h
    cases h

theorem exists_of_optional {a absent : α} (h : optional [name] decode absent fields = accepted a) :
    (∃ json, fields.get? name = some json ∧ decode json = accepted a) ∨ fields.get? name = none ∧ a = absent := by
  cases hget : fields.get? name with
  | some json => exact .inl ⟨json, rfl, (optional_of_get? hget).1 h⟩
  | none =>
    rw [optional, find, List.findSome?_cons, hget] at h
    exact .inr ⟨rfl, (accepted.inj h).symm⟩

/-- What is related one for one to a list is related to one of its items. -/
theorem exists_of_forall₂ {R : α → β → Prop} {as : List α} {bs : List β} (h : List.Forall₂ R as bs) :
    ∀ b ∈ bs, ∃ a ∈ as, R a b := by
  induction h with
  | nil => simp
  | cons hab _ ih =>
    rw [List.forall_mem_cons]
    refine ⟨⟨_, List.mem_cons_self, hab⟩, fun b hb => ?_⟩
    obtain ⟨a, ha, hr⟩ := ih b hb
    exact ⟨a, List.mem_cons_of_mem _ ha, hr⟩

/-- The items of a list are decoded one for one. -/
theorem forall₂_of_items {start : Nat} {jsons : List Json} {values : List α}
    (h : items decode start jsons = accepted values) :
    List.Forall₂ (fun json a => decode json = accepted a) jsons values := by
  induction jsons generalizing start values with
  | nil =>
    obtain rfl : [] = values := Decoded.accepted.inj h
    exact .nil
  | cons json rest ih =>
    rw [items, seq_eq_accepted] at h
    obtain ⟨_, more, hfirst, hrest, rfl⟩ := h
    obtain ⟨a, ha, rfl⟩ := map_eq_accepted.1 hfirst
    exact .cons (within_eq_accepted.1 ha) (ih hrest)

/-- Each item of a list that stands for a field is decoded from an item of a list under one of its names. -/
theorem exists_item_of_list {values : List α} (h : optional names (list decode) [] fields = accepted values) :
    ∀ a ∈ values, ∃ name ∈ names, ∃ jsons, fields.get? name = some (.list jsons) ∧
      ∃ json ∈ jsons, decode json = accepted a := by
  intro a ha
  unfold optional at h
  split at h
  · rename_i name json hfind
    obtain ⟨hname, hget⟩ := get?_of_find hfind
    have hlist := within_eq_accepted.1 h
    cases json with
    | list jsons => exact ⟨name, hname, jsons, hget, exists_of_forall₂ (forall₂_of_items hlist) a ha⟩
    | _ => cases hlist
  · obtain rfl := accepted.inj h
    cases ha

/-! ## Records with other values -/

variable {allNames : List Names} {fields' : Fields}

theorem find_congr (h : ∀ name ∈ names, fields'.get? name = fields.get? name) :
    find names fields' = find names fields := by
  induction names with
  | nil => rfl
  | cons name names ih =>
    rw [List.forall_mem_cons] at h
    rw [find, List.findSome?_cons, h.1, ← find, ih h.2]
    rfl

theorem required_congr (h : ∀ name ∈ names, fields'.get? name = fields.get? name) (decode : Json → Decoded α) :
    required names decode fields' = required names decode fields := by
  rw [required, find_congr h, required]

theorem optional_congr (h : ∀ name ∈ names, fields'.get? name = fields.get? name) (decode : Json → Decoded α)
    (absent : α) : optional names decode absent fields' = optional names decode absent fields := by
  rw [optional, find_congr h, optional]

/-- A field is decoded with a change where its value is changed in the record. -/
theorem optional_map (change : Json → Json) {f : α → α} {decode : Json → Decoded α} {absent : α}
    (hget : fields'.get? name = (fields.get? name).map change) (habsent : f absent = absent)
    (hdecode : ∀ value, fields.get? name = some value → decode (change value) = f <$> decode value) :
    optional [name] decode absent fields' = f <$> optional [name] decode absent fields := by
  rw [optional, find, List.findSome?_cons, hget, optional, find, List.findSome?_cons]
  cases hvalue : fields.get? name with
  | none => exact congrArg accepted habsent.symm
  | some value =>
    show (decode (change value)).within (.key name) = f <$> (decode value).within (.key name)
    rw [hdecode value hvalue, within_map]

theorem map_fst_find_cons (name : String) (names : Names) (fields : Fields) :
    (find (name :: names) fields).map Prod.fst =
      if fields.has name then some name else (find names fields).map Prod.fst := by
  cases hget : fields.get? name with
  | some value =>
    rw [find_of_get? hget, if_pos (Fields.has_of_get? hget)]
    rfl
  | none =>
    have hnot : fields.has name = false := by
      rw [Bool.eq_false_iff]
      intro hhas
      obtain ⟨field, hfield, hkey⟩ := List.any_eq_true.1 hhas
      exact Fields.get?_eq_none_iff.1 hget (beq_iff_eq.1 hkey ▸ List.mem_map_of_mem hfield)
    rw [find, List.findSome?_cons, hget, hnot]
    rfl

/-- Under which name a field is found hangs on the names of the members alone. -/
theorem map_fst_find (h : fields'.map Prod.fst = fields.map Prod.fst) (names : Names) :
    (find names fields').map Prod.fst = (find names fields).map Prod.fst := by
  induction names with
  | nil => rfl
  | cons name names ih => rw [map_fst_find_cons, map_fst_find_cons, Fields.has_eq_of_names h, ih]

/-- The names of the members that the fields of a record took. -/
def taken (allNames : List Names) (fields : Fields) : List String :=
  allNames.filterMap fun names => (find names fields).map Prod.fst

theorem mem_taken_iff :
    name ∈ taken allNames fields ↔ ∃ names ∈ allNames, (find names fields).map Prod.fst = some name :=
  List.mem_filterMap

theorem extras_eq_filter (allNames : List Names) (fields : Fields) :
    Decode.extras allNames fields = fields.filter fun field => !(taken allNames fields).contains field.1 :=
  rfl

theorem taken_congr (h : fields'.map Prod.fst = fields.map Prod.fst) : taken allNames fields' = taken allNames fields :=
  List.filterMap_congr fun names _ => map_fst_find h names

/-- The members that no field takes are the same when a member is set that a field takes. -/
theorem extras_set (hhas : fields.has name = true) (hname : [name] ∈ allNames) (value : Json) :
    extras allNames (fields.set name value) = extras allNames fields := by
  have htaken : name ∈ taken allNames fields := mem_taken_iff.2 ⟨_, hname, by rw [map_fst_find_cons, if_pos hhas]⟩
  have hfilter : ∀ field ∈ fields, ((fun field => !(taken allNames fields).contains field.1) ∘ fun field =>
      if field.1 == name then (name, value) else field) field = !(taken allNames fields).contains field.1 := by
    intro field _
    by_cases hfield : field.1 = name <;> simp [hfield]
  rw [extras_eq_filter, extras_eq_filter, taken_congr (Fields.agreeOutside_set hhas value).names,
    Fields.set_of_has hhas, List.filter_map, List.filter_congr hfilter]
  refine (List.map_congr_left fun field hfield => ?_).trans (List.map_id _)
  have hne : field.1 ≠ name := by
    rintro rfl
    simpa [htaken] using (List.mem_filter.1 hfield).2
  simp [hne]

end Runbook.Decode
