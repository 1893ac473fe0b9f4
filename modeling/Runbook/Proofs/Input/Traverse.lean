import Runbook.Proofs.Reference.Legacy
import Runbook.Proofs.Token.Resolve

/-!
# One order for all walks over a value

The texts of a value are listed, replaced by others, and resolved, each by a recursion of its own. `Json.traverse`
is the one walk behind them: it puts in the place of each text what a computation comes to, whatever the computation
does beside that, and goes through the texts one after the other.

* `traverse_visiting` — what a traversal passes are the texts of the value with the paths to them, in order.
* `traverse_noting` — a walk that collects notes is a traversal by computations that add to a list.
* `resolve_eq_traverse` — to resolve a value without references of the older kind is to resolve each of its texts.
* `walks_agree` — all of this about one value.
-/

namespace Runbook.Json

variable {m : Type → Type} [Monad m] {α : Type}

mutual

/-- The value with what `f path s` comes to in the place of each text `s`. -/
def traverse (f : String → String → m String) (path : String) : Json → m Json
  | str s => do return str (← f path s)
  | record fields => do return record (← traverseFields f path fields)
  | list items => do return list (← traverseItems f path 0 items)
  | value => pure value

/-- `traverse` for the items of a list from a position on. -/
def traverseItems (f : String → String → m String) (path : String) (position : Nat) :
    List Json → m (List Json)
  | [] => pure []
  | value :: rest => do
    let value ← traverse f (Path.item path position) value
    return value :: (← traverseItems f path (position + 1) rest)

/-- `traverse` for the members of a record. -/
def traverseFields (f : String → String → m String) (path : String) :
    List (String × Json) → m (List (String × Json))
  | [] => pure []
  | (key, value) :: rest => do
    let value ← traverse f (Path.member path key) value
    return (key, value) :: (← traverseFields f path rest)

end

/-! ## What is passed -/

/-- What `f` does, with the text and the path to it put down before. -/
def visiting (f : String → String → m String) (path s : String) : StateT (List (String × String)) m String := do
  modify fun seen => seen ++ [(path, s)]
  f path s

section

variable [LawfulMonad m] (f : String → String → m String)

mutual

/-- A traversal passes the texts of a value in order. -/
theorem traverse_visiting (path : String) (seen : List (String × String)) : ∀ value : Json,
    (traverse (visiting f) path value).run seen =
      (fun out => (out, seen ++ value.texts path)) <$> traverse f path value
  | null | bool _ | int _ | float _ => by simp [traverse, texts]
  | str s => by simp [traverse, visiting, texts]
  | record fields => by simp [traverse, texts, traverseFields_visiting path seen fields]
  | list items => by simp [traverse, texts, traverseItems_visiting path seen 0 items]

theorem traverseItems_visiting (path : String) (seen : List (String × String)) (position : Nat) :
    ∀ items : List Json, (traverseItems (visiting f) path position items).run seen =
      (fun out => (out, seen ++ itemTexts path position items)) <$> traverseItems f path position items
  | [] => by simp [traverseItems, itemTexts]
  | value :: rest => by
    simp [traverseItems, itemTexts, traverse_visiting _ _ value,
      traverseItems_visiting path _ (position + 1) rest]

theorem traverseFields_visiting (path : String) (seen : List (String × String)) :
    ∀ fields : List (String × Json), (traverseFields (visiting f) path fields).run seen =
      (fun out => (out, seen ++ fieldTexts path fields)) <$> traverseFields f path fields
  | [] => by simp [traverseFields, fieldTexts]
  | (key, value) :: rest => by
    simp [traverseFields, fieldTexts, traverse_visiting _ _ value, traverseFields_visiting path _ rest]

end

end

/-! ## Walks that collect notes -/

/-- Adds what `f` says about a text to the notes, and goes on with the new text. -/
def noting (f : String → String → String × List α) (path s : String) : StateM (List α) String := do
  modify fun notes => notes ++ (f path s).2
  return (f path s).1

section

variable (f : String → String → String × List α)

mutual

theorem traverse_noting (path : String) (notes : List α) : ∀ value : Json,
    Id.run ((traverse (noting f) path value).run notes) =
      ((walk f path value).1, notes ++ (walk f path value).2)
  | null | bool _ | int _ | float _ | str _ => by simp [traverse, noting, walk]
  | record fields => by simp [traverse, walk, traverseFields_noting path notes fields]
  | list items => by simp [traverse, walk, traverseItems_noting path notes 0 items]

theorem traverseItems_noting (path : String) (notes : List α) (position : Nat) : ∀ items : List Json,
    Id.run ((traverseItems (noting f) path position items).run notes) =
      ((walkItems f path position items).1, notes ++ (walkItems f path position items).2)
  | [] => by simp [traverseItems, walkItems]
  | value :: rest => by
    simp [traverseItems, walkItems, traverse_noting _ _ value, traverseItems_noting path _ (position + 1) rest]

theorem traverseFields_noting (path : String) (notes : List α) : ∀ fields : List (String × Json),
    Id.run ((traverseFields (noting f) path fields).run notes) =
      ((walkFields f path fields).1, notes ++ (walkFields f path fields).2)
  | [] => by simp [traverseFields, walkFields]
  | (key, value) :: rest => by
    simp [traverseFields, walkFields, traverse_noting _ _ value, traverseFields_noting path _ rest]

end

end

/-! ## Resolving -/

section

open Input (classify classifyItems classifyFields resolveItems resolveFields)
open Legacy (contains itemsContain fieldsContain)

variable (s : Store)

mutual

/-- Without references of the older kind, a value is resolved text by text. -/
theorem resolve_eq_traverse (path : String) : ∀ value : Json, contains value = false →
    (classify value).resolve s = traverse (fun _ text => s.resolveText text) path value
  | null, _ | bool _, _ | int _, _ | float _, _ => rfl
  | str text, _ => by
    rw [classify]
    cases htokens : Template.hasTokens text with
    | true => rfl
    | false =>
      have hnil : Template.tokens text = [] := by simpa [Template.hasTokens] using htokens
      rw [if_neg Bool.false_ne_true, traverse, Store.resolveText_of_tokens_eq_nil hnil]
      rfl
  | record fields, h => by
    rw [contains, Bool.or_eq_false_iff, Option.isSome_eq_false_iff, Option.isNone_iff_eq_none] at h
    rw [classify, h.1, traverse, ← resolveFields_eq_traverseFields path fields h.2]
    rfl
  | list items, h => by
    rw [classify, traverse, ← resolveItems_eq_traverseItems path 0 items h]
    rfl

theorem resolveItems_eq_traverseItems (path : String) (position : Nat) :
    ∀ items : List Json, itemsContain items = false →
      resolveItems s (classifyItems items) =
        traverseItems (fun _ text => s.resolveText text) path position items
  | [], _ => rfl
  | value :: rest, h => by
    rw [itemsContain, Bool.or_eq_false_iff] at h
    rw [traverseItems, ← resolve_eq_traverse _ value h.1,
      ← resolveItems_eq_traverseItems path (position + 1) rest h.2]
    rfl

theorem resolveFields_eq_traverseFields (path : String) :
    ∀ fields : List (String × Json), fieldsContain fields = false →
      resolveFields s (classifyFields fields) =
        traverseFields (fun _ text => s.resolveText text) path fields
  | [], _ => rfl
  | (key, value) :: rest, h => by
    rw [fieldsContain, Bool.or_eq_false_iff] at h
    rw [traverseFields, ← resolve_eq_traverse _ value h.1, ← resolveFields_eq_traverseFields path rest h.2]
    rfl

end

end

/-- **All walks over a value without references of the older kind agree**: whatever is done with its texts, they are
passed in the order in which they are listed, with the same paths; the texts with tokens are those among them that
have one; and resolving the value is walking over it and resolving each text. -/
theorem walks_agree {value : Json} (plain : Legacy.contains value = false) (path : String) :
    (∀ g : String → String → String, (walk (fun p s => (g p s, [(p, s)])) path value).2 = value.texts path) ∧
      (∀ (α : Type) (f : String → String → String × List α) (notes : List α),
        Id.run ((traverse (noting f) path value).run notes) =
          ((walk f path value).1, notes ++ (walk f path value).2)) ∧
      (∀ (m : Type → Type) [Monad m] [LawfulMonad m] (f : String → String → m String) seen,
        (traverse (visiting f) path value).run seen =
          (fun out => (out, seen ++ value.texts path)) <$> traverse f path value) ∧
      value.templates path = (value.texts path).filter (fun leaf => Template.hasTokens leaf.2) ∧
      ∀ s : Store, value.resolve s = traverse (fun _ text => s.resolveText text) path value := by
  refine ⟨fun g => ?_, fun α f notes => traverse_noting f path notes value,
    fun m _ _ f seen => traverse_visiting f path seen value, Legacy.templates_of_not_contains path value plain,
    fun s => resolve_eq_traverse s path value plain⟩
  rw [snd_walk, List.flatMap_singleton']

/-- A record with a list in it, in which one text has a token: two texts are passed, and one is collected. -/
theorem walks_agree_nested :
    let value := record [("to", list [str "me", record [("cc", str "${a} b")]]), ("n", int 1)]
    Legacy.contains value = false ∧
      value.texts "input" = [("input.to[0]", "me"), ("input.to[1].cc", "${a} b")] ∧
      (walk (fun p s => (p ++ s, [(p, s)])) "input" value).2 = value.texts "input" ∧
      value.templates "input" = [("input.to[1].cc", "${a} b")] ∧
      ∀ s : Store, value.resolve s = traverse (fun _ text => s.resolveText text) "input" value := by
  intro value
  have plain : Legacy.contains value = false := by decide
  have listed : value.texts "input" = [("input.to[0]", "me"), ("input.to[1].cc", "${a} b")] := by decide
  obtain ⟨hwalk, -, -, htemplates, hresolve⟩ := walks_agree plain "input"
  refine ⟨plain, listed, hwalk _, ?_, hresolve⟩
  rw [htemplates, listed]
  decide

end Runbook.Json
