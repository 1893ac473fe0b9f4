import Runbook.Proofs.Input
import Runbook.Proofs.Token.Resolve

/-!
# The form of a resolved input

A resolved value has the form of the value (`Json.ResolvesTo`): records keep the names of their members, lists keep
their length, and only texts and references of the older kind are rewritten.

* `Json.resolve_eq_ok_iff` — a value has a resolved value exactly as `ResolvesTo` says.
* `Json.exists_resolve_iff` — it has one unless a token in it asks for an item by a numeral of too many digits.
* `Json.exists_resolve_record_iff` — a record becomes a record, if it is no reference of the older kind itself.
-/

namespace Runbook

namespace Json

/-- Is a value neither a text nor made of other values? -/
def isScalar : Json → Bool
  | null | bool _ | int _ | float _ => true
  | str _ | list _ | record _ => false

/-- What a value becomes when its texts are resolved. -/
inductive ResolvesTo (s : Store) : Json → Json → Prop
  | scalar {value : Json} (scalar : value.isScalar = true) : ResolvesTo s value value
  | text {text resolved : String} (resolves : (s.resolveText text).outcome.value = .ok resolved) :
      ResolvesTo s (str text) (str resolved)
  /-- A reference of the older kind becomes a text. -/
  | reference {fields : Fields} {t : Token} {resolved : String} (legacy : fields.legacyToken? = some t)
      (resolves : (s.resolveText t.write).outcome.value = .ok resolved) :
      ResolvesTo s (record fields) (str resolved)
  | record {fields members : Fields} (plain : fields.legacyToken? = none)
      (names : members.map Prod.fst = fields.map Prod.fst)
      (values : List.Forall₂ (ResolvesTo s) (fields.map Prod.snd) (members.map Prod.snd)) :
      ResolvesTo s (record fields) (record members)
  | list {items out : List Json} (values : List.Forall₂ (ResolvesTo s) items out) :
      ResolvesTo s (list items) (list out)

/-- The tokens in a value, those that its references of the older kind stand for among them. -/
def tokens (value : Json) : List Token :=
  (value.templates "").flatMap fun leaf => Template.tokens leaf.2

end Json

variable {s : Store}

namespace Input

open Json (ResolvesTo)

/-- A text resolves as a text with tokens does, whether it has one or not. -/
theorem resolve_classify_str (text : String) :
    (classify (.str text)).resolve s = (Input.template text).resolve s := by
  rw [classify]
  split
  · rfl
  · rename_i htokens
    have hnil : Template.tokens text = [] := by simpa [Template.hasTokens] using htokens
    rw [resolve, resolve, Store.resolveText_of_tokens_eq_nil hnil]
    rfl

theorem resolve_template_iff {text : String} {out : Json} :
    ((template text).resolve s).outcome.value = .ok out ↔
      ∃ resolved, (s.resolveText text).outcome.value = .ok resolved ∧ out = .str resolved := by
  refine ⟨resolve_template, ?_⟩
  rintro ⟨resolved, hresolved, rfl⟩
  exact Attempt.value_bind_eq_ok.2 ⟨resolved, hresolved, rfl⟩

mutual

theorem resolve_classify_iff : ∀ {value out : Json},
    ((classify value).resolve s).outcome.value = .ok out ↔ ResolvesTo s value out
  | .null, out | .bool _, out | .int _, out | .float _, out => by
    constructor
    · intro h
      obtain rfl := Except.ok.inj h
      exact .scalar rfl
    · rintro ⟨-⟩
      rfl
  | .str text, out => by
    rw [resolve_classify_str, resolve_template_iff]
    constructor
    · rintro ⟨resolved, hresolved, rfl⟩
      exact .text hresolved
    · intro h
      cases h with
      | scalar h => cases h
      | text h => exact ⟨_, h, rfl⟩
  | .record fields, out => by
    rw [classify]
    cases hlegacy : Fields.legacyToken? fields with
    | some t =>
      rw [resolve_template_iff]
      constructor
      · rintro ⟨resolved, hresolved, rfl⟩
        exact .reference hlegacy hresolved
      · intro h
        cases h with
        | scalar h => cases h
        | reference legacy h =>
          obtain rfl := Option.some.inj (hlegacy.symm.trans legacy)
          exact ⟨_, h, rfl⟩
        | record plain => exact nomatch hlegacy.symm.trans plain
    | none =>
      constructor
      · intro h
        obtain ⟨members, hmembers, h⟩ := Attempt.value_bind_eq_ok.1 h
        obtain rfl := Except.ok.inj h
        obtain ⟨names, values⟩ := resolveFields_classifyFields_iff.1 hmembers
        exact .record hlegacy names values
      · intro h
        cases h with
        | scalar h => cases h
        | reference legacy => exact nomatch hlegacy.symm.trans legacy
        | record _ names values =>
          exact Attempt.value_bind_eq_ok.2
            ⟨_, resolveFields_classifyFields_iff.2 ⟨names, values⟩, rfl⟩
  | .list items, out => by
    constructor
    · intro h
      obtain ⟨values, hvalues, h⟩ := Attempt.value_bind_eq_ok.1 h
      obtain rfl := Except.ok.inj h
      exact .list (resolveItems_classifyItems_iff.1 hvalues)
    · intro h
      cases h with
      | scalar h => cases h
      | list h => exact Attempt.value_bind_eq_ok.2 ⟨_, resolveItems_classifyItems_iff.2 h, rfl⟩

theorem resolveItems_classifyItems_iff : ∀ {items out : List Json},
    (resolveItems s (classifyItems items)).outcome.value = .ok out ↔
      List.Forall₂ (ResolvesTo s) items out
  | [], out => by
    constructor
    · intro h
      obtain rfl := Except.ok.inj h
      exact .nil
    · rintro ⟨-⟩
      rfl
  | value :: rest, out => by
    constructor
    · intro h
      obtain ⟨first, hfirst, h⟩ := Attempt.value_bind_eq_ok.1 h
      obtain ⟨others, hothers, h⟩ := Attempt.value_bind_eq_ok.1 h
      obtain rfl := Except.ok.inj h
      exact .cons (resolve_classify_iff.1 hfirst) (resolveItems_classifyItems_iff.1 hothers)
    · rintro (_ | ⟨hfirst, hothers⟩)
      exact Attempt.value_bind_eq_ok.2 ⟨_, resolve_classify_iff.2 hfirst,
        Attempt.value_bind_eq_ok.2 ⟨_, resolveItems_classifyItems_iff.2 hothers, rfl⟩⟩

theorem resolveFields_classifyFields_iff : ∀ {fields out : Fields},
    (resolveFields s (classifyFields fields)).outcome.value = .ok out ↔
      out.map Prod.fst = fields.map Prod.fst ∧
        List.Forall₂ (ResolvesTo s) (fields.map Prod.snd) (out.map Prod.snd)
  | [], out => by
    constructor
    · intro h
      obtain rfl := Except.ok.inj h
      exact ⟨rfl, .nil⟩
    · rintro ⟨names, -⟩
      rw [List.map_eq_nil_iff.1 names]
      rfl
  | (key, value) :: rest, out => by
    constructor
    · intro h
      obtain ⟨first, hfirst, h⟩ := Attempt.value_bind_eq_ok.1 h
      obtain ⟨others, hothers, h⟩ := Attempt.value_bind_eq_ok.1 h
      obtain rfl := Except.ok.inj h
      obtain ⟨names, values⟩ := resolveFields_classifyFields_iff.1 hothers
      exact ⟨congrArg (key :: ·) names, .cons (resolve_classify_iff.1 hfirst) values⟩
    · rintro ⟨names, values⟩
      cases out with
      | nil => cases names
      | cons member others =>
        obtain ⟨name, found⟩ := member
        obtain ⟨rfl, hnames⟩ := List.cons.inj names
        obtain _ | ⟨hfirst, hothers⟩ := values
        exact Attempt.value_bind_eq_ok.2 ⟨found, resolve_classify_iff.2 hfirst,
          Attempt.value_bind_eq_ok.2
            ⟨others, resolveFields_classifyFields_iff.2 ⟨hnames, hothers⟩, rfl⟩⟩

end

mutual

/-- An input can be resolved if its texts with tokens can. -/
theorem exists_resolve_iff (path : String) : ∀ {input : Input},
    (∃ out, (input.resolve s).outcome.value = .ok out) ↔
      ∀ leaf ∈ input.templates path, ∃ resolved, (s.resolveText leaf.2).outcome.value = .ok resolved
  | .literal value => by simpa [templates] using ⟨value, rfl⟩
  | .template text => by simp [templates, resolve_template_iff]
  | .record fields => by
    rw [templates, ← exists_resolveFields_iff path, resolve]
    simp only [Attempt.value_bind_eq_ok]
    exact ⟨fun ⟨_, members, h, _⟩ => ⟨members, h⟩, fun ⟨members, h⟩ => ⟨_, members, h, rfl⟩⟩
  | .list items => by
    rw [templates, ← exists_resolveItems_iff path 0, resolve]
    simp only [Attempt.value_bind_eq_ok]
    exact ⟨fun ⟨_, values, h, _⟩ => ⟨values, h⟩, fun ⟨values, h⟩ => ⟨_, values, h, rfl⟩⟩

theorem exists_resolveItems_iff (path : String) (position : Nat) : ∀ {items : List Input},
    (∃ out, (resolveItems s items).outcome.value = .ok out) ↔
      ∀ leaf ∈ itemTemplates path position items,
        ∃ resolved, (s.resolveText leaf.2).outcome.value = .ok resolved
  | [] => by simpa [itemTemplates] using ⟨[], rfl⟩
  | value :: rest => by
    rw [itemTemplates, List.forall_mem_append, ← exists_resolve_iff, ← exists_resolveItems_iff,
      resolveItems]
    simp only [Attempt.value_bind_eq_ok]
    exact ⟨fun ⟨_, first, hfirst, others, hothers, _⟩ => ⟨⟨first, hfirst⟩, others, hothers⟩,
      fun ⟨⟨first, hfirst⟩, others, hothers⟩ => ⟨_, first, hfirst, others, hothers, rfl⟩⟩

theorem exists_resolveFields_iff (path : String) : ∀ {fields : List (String × Input)},
    (∃ out, (resolveFields s fields).outcome.value = .ok out) ↔
      ∀ leaf ∈ fieldTemplates path fields,
        ∃ resolved, (s.resolveText leaf.2).outcome.value = .ok resolved
  | [] => by simpa [fieldTemplates] using ⟨[], rfl⟩
  | (key, value) :: rest => by
    rw [fieldTemplates, List.forall_mem_append, ← exists_resolve_iff, ← exists_resolveFields_iff,
      resolveFields]
    simp only [Attempt.value_bind_eq_ok]
    exact ⟨fun ⟨_, first, hfirst, others, hothers, _⟩ => ⟨⟨first, hfirst⟩, others, hothers⟩,
      fun ⟨⟨first, hfirst⟩, others, hothers⟩ => ⟨_, first, hfirst, others, hothers, rfl⟩⟩

end

end Input

namespace Json

/-- What is resolved has the form of the value. -/
theorem resolve_eq_ok_iff {value out : Json} :
    (value.resolve s).outcome.value = .ok out ↔ ResolvesTo s value out :=
  Input.resolve_classify_iff

/-- A value can be resolved, unless a token in it asks for an item by a numeral of too many digits. -/
theorem exists_resolve_iff {value : Json} :
    (∃ out, (value.resolve s).outcome.value = .ok out) ↔ ∀ t ∈ value.tokens, ¬ s.Overlong t := by
  rw [Json.resolve, Input.exists_resolve_iff "", tokens]
  simp only [Store.exists_resolveText_iff, List.mem_flatMap, forall_exists_index, and_imp, templates]
  exact ⟨fun h t leaf hleaf ht => h leaf hleaf t ht, fun h leaf hleaf t ht => h t leaf hleaf ht⟩

/-- A record becomes a record with the same names exactly if it is no reference of the older kind itself and can be
resolved at all. -/
theorem exists_resolve_record_iff {fields : Fields} :
    (∃ members : Fields, ((record fields).resolve s).outcome.value = .ok (record members) ∧
        members.map Prod.fst = fields.map Prod.fst ∧
        List.Forall₂ (ResolvesTo s) (fields.map Prod.snd) (members.map Prod.snd)) ↔
      fields.legacyToken? = none ∧ ∀ t ∈ (record fields).tokens, ¬ s.Overlong t := by
  rw [← exists_resolve_iff]
  constructor
  · rintro ⟨members, h, -⟩
    refine ⟨?_, _, h⟩
    cases resolve_eq_ok_iff.1 h with
    | scalar scalar => cases scalar
    | record plain => exact plain
  · rintro ⟨plain, out, h⟩
    cases resolve_eq_ok_iff.1 h with
    | scalar scalar => cases scalar
    | reference legacy => exact nomatch plain.symm.trans legacy
    | record _ names values => exact ⟨_, h, names, values⟩

end Json

end Runbook
