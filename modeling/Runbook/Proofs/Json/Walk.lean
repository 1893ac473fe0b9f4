import Mathlib.Logic.Basic
import Runbook.Json.Walk
import Runbook.Proofs.Json.Fields

/-!
# What a walk over the texts of a value comes to

* `mapTexts` — the value with other texts in the place of its texts; `fst_walk` says that a walk whose new
  texts do not hang on the path leaves that value.
* `snd_walk` — what a walk says is what it says about each text in turn.
* `texts_mapTexts` — the new texts stand where the texts stood; `get?_mapFieldTexts` says the same of members.
-/

namespace Runbook.Json

mutual

/-- The value with `f s` in the place of each text `s`. -/
def mapTexts (f : String → String) : Json → Json
  | str s => str (f s)
  | record fields => record (mapFieldTexts f fields)
  | list items => list (mapItemTexts f items)
  | value => value

/-- `mapTexts` for the items of a list. -/
def mapItemTexts (f : String → String) : List Json → List Json
  | [] => []
  | value :: rest => mapTexts f value :: mapItemTexts f rest

/-- `mapTexts` for the members of a record. -/
def mapFieldTexts (f : String → String) : List (String × Json) → List (String × Json)
  | [] => []
  | (key, value) :: rest => (key, mapTexts f value) :: mapFieldTexts f rest

end

variable {α : Type} {f : String → String → String × List α}

section

variable {g : String → String}

mutual

theorem fst_walk (h : ∀ path s, (f path s).1 = g s) (path : String) :
    ∀ value : Json, (walk f path value).1 = value.mapTexts g
  | null | bool _ | int _ | float _ => rfl
  | str s => congrArg str (h path s)
  | record fields => congrArg record (fst_walkFields h path fields)
  | list items => congrArg list (fst_walkItems h path 0 items)

theorem fst_walkItems (h : ∀ path s, (f path s).1 = g s) (path : String) (position : Nat) :
    ∀ items : List Json, (walkItems f path position items).1 = mapItemTexts g items
  | [] => rfl
  | value :: rest =>
    congrArg₂ List.cons (fst_walk h _ value) (fst_walkItems h path (position + 1) rest)

theorem fst_walkFields (h : ∀ path s, (f path s).1 = g s) (path : String) :
    ∀ fields : List (String × Json), (walkFields f path fields).1 = mapFieldTexts g fields
  | [] => rfl
  | (key, value) :: rest =>
    congrArg₂ (fun value rest => (key, value) :: rest) (fst_walk h _ value)
      (fst_walkFields h path rest)

end

end

mutual

theorem snd_walk (path : String) : ∀ value : Json,
    (walk f path value).2 = (value.texts path).flatMap fun leaf => (f leaf.1 leaf.2).2
  | null | bool _ | int _ | float _ => rfl
  | str s => by simp [walk, texts]
  | record fields => snd_walkFields path fields
  | list items => snd_walkItems path 0 items

theorem snd_walkItems (path : String) (position : Nat) : ∀ items : List Json,
    (walkItems f path position items).2 =
      (itemTexts path position items).flatMap fun leaf => (f leaf.1 leaf.2).2
  | [] => rfl
  | value :: rest => by
    rw [itemTexts, List.flatMap_append, ← snd_walk _ value, ← snd_walkItems path (position + 1) rest]
    rfl

theorem snd_walkFields (path : String) : ∀ fields : List (String × Json),
    (walkFields f path fields).2 =
      (fieldTexts path fields).flatMap fun leaf => (f leaf.1 leaf.2).2
  | [] => rfl
  | (key, value) :: rest => by
    rw [fieldTexts, List.flatMap_append, ← snd_walk _ value, ← snd_walkFields path rest]
    rfl

end

mutual

/-- The texts of a value do not hang on the path to it. -/
theorem map_snd_texts (p q : String) : ∀ value : Json,
    (value.texts p).map Prod.snd = (value.texts q).map Prod.snd
  | null | bool _ | int _ | float _ | str _ => rfl
  | record fields => map_snd_fieldTexts p q fields
  | list items => map_snd_itemTexts p q 0 items

theorem map_snd_itemTexts (p q : String) (position : Nat) : ∀ items : List Json,
    (itemTexts p position items).map Prod.snd = (itemTexts q position items).map Prod.snd
  | [] => rfl
  | value :: rest => by
    rw [itemTexts, itemTexts, List.map_append, List.map_append, map_snd_texts _ (Path.item q position) value,
      map_snd_itemTexts p q (position + 1) rest]

theorem map_snd_fieldTexts (p q : String) : ∀ fields : List (String × Json),
    (fieldTexts p fields).map Prod.snd = (fieldTexts q fields).map Prod.snd
  | [] => rfl
  | (key, value) :: rest => by
    rw [fieldTexts, fieldTexts, List.map_append, List.map_append, map_snd_texts _ (Path.member q key) value,
      map_snd_fieldTexts p q rest]

end

mutual

theorem texts_mapTexts (g : String → String) (path : String) : ∀ value : Json,
    (value.mapTexts g).texts path = (value.texts path).map fun leaf => (leaf.1, g leaf.2)
  | null | bool _ | int _ | float _ | str _ => rfl
  | record fields => fieldTexts_mapTexts g path fields
  | list items => itemTexts_mapTexts g path 0 items

theorem itemTexts_mapTexts (g : String → String) (path : String) (position : Nat) :
    ∀ items : List Json, itemTexts path position (mapItemTexts g items) =
      (itemTexts path position items).map fun leaf => (leaf.1, g leaf.2)
  | [] => rfl
  | value :: rest => by
    rw [itemTexts, List.map_append, ← texts_mapTexts g _ value,
      ← itemTexts_mapTexts g path (position + 1) rest]
    rfl

theorem fieldTexts_mapTexts (g : String → String) (path : String) :
    ∀ fields : List (String × Json), fieldTexts path (mapFieldTexts g fields) =
      (fieldTexts path fields).map fun leaf => (leaf.1, g leaf.2)
  | [] => rfl
  | (key, value) :: rest => by
    rw [fieldTexts, List.map_append, ← texts_mapTexts g _ value, ← fieldTexts_mapTexts g path rest]
    rfl

end

section

variable {g : String → String}

mutual

/-- To change the texts of a value twice is to change them once, if that is so of each text. -/
theorem mapTexts_mapTexts (h : ∀ s, g (g s) = g s) :
    ∀ value : Json, (value.mapTexts g).mapTexts g = value.mapTexts g
  | null | bool _ | int _ | float _ => rfl
  | str s => congrArg str (h s)
  | record fields => congrArg record (mapFieldTexts_mapFieldTexts h fields)
  | list items => congrArg list (mapItemTexts_mapItemTexts h items)

theorem mapItemTexts_mapItemTexts (h : ∀ s, g (g s) = g s) :
    ∀ items : List Json, mapItemTexts g (mapItemTexts g items) = mapItemTexts g items
  | [] => rfl
  | value :: rest =>
    congrArg₂ List.cons (mapTexts_mapTexts h value) (mapItemTexts_mapItemTexts h rest)

theorem mapFieldTexts_mapFieldTexts (h : ∀ s, g (g s) = g s) :
    ∀ fields : List (String × Json), mapFieldTexts g (mapFieldTexts g fields) = mapFieldTexts g fields
  | [] => rfl
  | (key, value) :: rest =>
    congrArg₂ (fun value rest => (key, value) :: rest) (mapTexts_mapTexts h value)
      (mapFieldTexts_mapFieldTexts h rest)

end

end

/-- What has become a text was one before. -/
theorem mapTexts_eq_str {g : String → String} {value : Json} {s : String} :
    value.mapTexts g = .str s ↔ ∃ text, value = .str text ∧ g text = s := by
  cases value <;> simp [mapTexts]

theorem mapFieldTexts_eq_map (g : String → String) (fields : Fields) :
    mapFieldTexts g fields = fields.map fun field => (field.1, field.2.mapTexts g) := by
  induction fields with
  | nil => rfl
  | cons field fields ih => exact congrArg (_ :: ·) ih

theorem get?_mapFieldTexts (g : String → String) (key : String) (fields : Fields) :
    Fields.get? key (mapFieldTexts g fields) = (Fields.get? key fields).map (mapTexts g) := by
  rw [mapFieldTexts_eq_map, Fields.get?_map_snd]

end Runbook.Json
