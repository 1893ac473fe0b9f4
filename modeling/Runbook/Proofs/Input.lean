import Runbook.Input
import Runbook.Json.Walk

/-!
# What becomes of the texts of an input

* `forall_texts_resolve` — what holds of the texts of a value without tokens, and of its resolved texts with
  tokens, holds of all texts of the resolved value.
* `forall_templates` — a text with tokens is a text of the value, or written for a reference of the older
  kind.
* `names_resolve` — resolving gives no member a new name.
-/

namespace Runbook

namespace Json

mutual

/-- The names of the members of all records in a value. -/
def names : Json → List String
  | record fields => memberNames fields
  | list items => itemNames items
  | _ => []

/-- `names` for the items of a list. -/
def itemNames : List Json → List String
  | [] => []
  | value :: rest => names value ++ itemNames rest

/-- `names` for the members of a record. -/
def memberNames : List (String × Json) → List String
  | [] => []
  | (key, value) :: rest => key :: (names value ++ memberNames rest)

end

mutual

/-- The tokens that the references of the older kind in a value stand for. -/
def legacyTokens : Json → List Token
  | record fields =>
    match Fields.legacyToken? fields with
    | some t => [t]
    | none => memberLegacyTokens fields
  | list items => itemLegacyTokens items
  | _ => []

/-- `legacyTokens` for the items of a list. -/
def itemLegacyTokens : List Json → List Token
  | [] => []
  | value :: rest => legacyTokens value ++ itemLegacyTokens rest

/-- `legacyTokens` for the members of a record. -/
def memberLegacyTokens : List (String × Json) → List Token
  | [] => []
  | (_, value) :: rest => legacyTokens value ++ memberLegacyTokens rest

end

end Json

namespace Input

open Json (texts itemTexts fieldTexts)

variable {s : Store} {P : String → Prop}

/-- A resolved text with tokens is a text. -/
theorem resolve_template {text : String} {out : Json}
    (h : ((template text).resolve s).outcome.value = .ok out) :
    ∃ resolved, (s.resolveText text).outcome.value = .ok resolved ∧ out = .str resolved := by
  obtain ⟨resolved, hresolved, h⟩ := Attempt.value_bind_eq_ok.1 h
  exact ⟨resolved, hresolved, (Except.ok.inj h).symm⟩

mutual

theorem forall_texts_resolve {p q path : String} : ∀ {value out : Json},
    (∀ leaf ∈ value.texts p, Template.hasTokens leaf.2 = false → P leaf.2) →
    (∀ leaf ∈ (classify value).templates q, ∀ text,
      (s.resolveText leaf.2).outcome.value = .ok text → P text) →
    ((classify value).resolve s).outcome.value = .ok out → ∀ leaf ∈ out.texts path, P leaf.2
  | .null, _, _, _, h | .bool _, _, _, _, h | .int _, _, _, _, h | .float _, _, _, _, h => by
    obtain rfl := Except.ok.inj h
    simp [texts]
  | .str text, out, hplain, htemplates, h => by
    rw [classify] at htemplates h
    split at htemplates
    · rename_i htokens
      rw [if_pos htokens] at h
      obtain ⟨resolved, hresolved, rfl⟩ := resolve_template h
      simpa [texts] using htemplates _ (List.mem_singleton_self _) resolved hresolved
    · rename_i htokens
      rw [if_neg htokens] at h
      obtain rfl := Except.ok.inj h
      simpa [texts] using hplain (p, text) (List.mem_singleton_self _) (by simpa using htokens)
  | .record fields, out, hplain, htemplates, h => by
    rw [classify] at htemplates h
    cases hlegacy : Fields.legacyToken? fields with
    | some t =>
      rw [hlegacy] at htemplates h
      obtain ⟨resolved, hresolved, rfl⟩ := resolve_template h
      simpa [texts] using htemplates _ (List.mem_singleton_self _) resolved hresolved
    | none =>
      rw [hlegacy] at htemplates h
      obtain ⟨members, hmembers, h⟩ := Attempt.value_bind_eq_ok.1 h
      obtain rfl := Except.ok.inj h
      exact forall_fieldTexts_resolve hplain htemplates hmembers
  | .list items, out, hplain, htemplates, h => by
    obtain ⟨values, hvalues, h⟩ := Attempt.value_bind_eq_ok.1 h
    obtain rfl := Except.ok.inj h
    exact forall_itemTexts_resolve hplain htemplates hvalues

theorem forall_itemTexts_resolve {p q path : String} {i j k : Nat} : ∀ {items out : List Json},
    (∀ leaf ∈ itemTexts p i items, Template.hasTokens leaf.2 = false → P leaf.2) →
    (∀ leaf ∈ itemTemplates q j (classifyItems items), ∀ text,
      (s.resolveText leaf.2).outcome.value = .ok text → P text) →
    (resolveItems s (classifyItems items)).outcome.value = .ok out →
    ∀ leaf ∈ itemTexts path k out, P leaf.2
  | [], out, _, _, h => by
    obtain rfl := Except.ok.inj h
    simp [itemTexts]
  | value :: rest, out, hplain, htemplates, h => by
    obtain ⟨first, hfirst, h⟩ := Attempt.value_bind_eq_ok.1 h
    obtain ⟨others, hothers, h⟩ := Attempt.value_bind_eq_ok.1 h
    obtain rfl := Except.ok.inj h
    simp only [itemTexts, classifyItems, itemTemplates, List.mem_append, or_imp, forall_and]
      at hplain htemplates ⊢
    exact ⟨forall_texts_resolve hplain.1 htemplates.1 hfirst,
      forall_itemTexts_resolve hplain.2 htemplates.2 hothers⟩

theorem forall_fieldTexts_resolve {p q path : String} : ∀ {fields out : List (String × Json)},
    (∀ leaf ∈ fieldTexts p fields, Template.hasTokens leaf.2 = false → P leaf.2) →
    (∀ leaf ∈ fieldTemplates q (classifyFields fields), ∀ text,
      (s.resolveText leaf.2).outcome.value = .ok text → P text) →
    (resolveFields s (classifyFields fields)).outcome.value = .ok out →
    ∀ leaf ∈ fieldTexts path out, P leaf.2
  | [], out, _, _, h => by
    obtain rfl := Except.ok.inj h
    simp [fieldTexts]
  | (key, value) :: rest, out, hplain, htemplates, h => by
    obtain ⟨first, hfirst, h⟩ := Attempt.value_bind_eq_ok.1 h
    obtain ⟨others, hothers, h⟩ := Attempt.value_bind_eq_ok.1 h
    obtain rfl := Except.ok.inj h
    simp only [fieldTexts, classifyFields, fieldTemplates, List.mem_append, or_imp, forall_and]
      at hplain htemplates ⊢
    exact ⟨forall_texts_resolve hplain.1 htemplates.1 hfirst,
      forall_fieldTexts_resolve hplain.2 htemplates.2 hothers⟩

end

mutual

theorem forall_templates {p q : String} : ∀ {value : Json},
    (∀ leaf ∈ value.texts p, P leaf.2) → (∀ t ∈ value.legacyTokens, P t.write) →
    ∀ leaf ∈ (classify value).templates q, P leaf.2
  | .null, _, _ | .bool _, _, _ | .int _, _, _ | .float _, _, _ => by simp [classify, templates]
  | .str text, htexts, _ => by
    rw [classify]
    split
    · simpa [templates, texts] using htexts
    · simp [templates]
  | .record fields, htexts, hlegacy => by
    rw [Json.legacyTokens] at hlegacy
    rw [classify]
    cases htoken : Fields.legacyToken? fields with
    | some t =>
      rw [htoken] at hlegacy
      simpa [templates] using hlegacy
    | none =>
      rw [htoken] at hlegacy
      exact forall_fieldTemplates htexts hlegacy
  | .list items, htexts, hlegacy => forall_itemTemplates htexts hlegacy

theorem forall_itemTemplates {p q : String} {i j : Nat} : ∀ {items : List Json},
    (∀ leaf ∈ itemTexts p i items, P leaf.2) → (∀ t ∈ Json.itemLegacyTokens items, P t.write) →
    ∀ leaf ∈ itemTemplates q j (classifyItems items), P leaf.2
  | [], _, _ => by simp [classifyItems, itemTemplates]
  | value :: rest, htexts, hlegacy => by
    simp only [itemTexts, classifyItems, itemTemplates, Json.itemLegacyTokens, List.mem_append, or_imp,
      forall_and] at htexts hlegacy ⊢
    exact ⟨forall_templates htexts.1 hlegacy.1, forall_itemTemplates htexts.2 hlegacy.2⟩

theorem forall_fieldTemplates {p q : String} : ∀ {fields : List (String × Json)},
    (∀ leaf ∈ fieldTexts p fields, P leaf.2) → (∀ t ∈ Json.memberLegacyTokens fields, P t.write) →
    ∀ leaf ∈ fieldTemplates q (classifyFields fields), P leaf.2
  | [], _, _ => by simp [classifyFields, fieldTemplates]
  | (key, value) :: rest, htexts, hlegacy => by
    simp only [fieldTexts, classifyFields, fieldTemplates, Json.memberLegacyTokens, List.mem_append,
      or_imp, forall_and] at htexts hlegacy ⊢
    exact ⟨forall_templates htexts.1 hlegacy.1, forall_fieldTemplates htexts.2 hlegacy.2⟩

end

mutual

theorem names_resolve : ∀ {value out : Json},
    ((classify value).resolve s).outcome.value = .ok out → out.names ⊆ value.names
  | .null, _, h | .bool _, _, h | .int _, _, h | .float _, _, h => by
    obtain rfl := Except.ok.inj h
    exact List.Subset.refl _
  | .str text, out, h => by
    rw [classify] at h
    split at h
    · obtain ⟨resolved, -, rfl⟩ := resolve_template h
      exact List.nil_subset _
    · obtain rfl := Except.ok.inj h
      exact List.nil_subset _
  | .record fields, out, h => by
    rw [classify] at h
    cases hlegacy : Fields.legacyToken? fields with
    | some t =>
      rw [hlegacy] at h
      obtain ⟨resolved, -, rfl⟩ := resolve_template h
      exact List.nil_subset _
    | none =>
      rw [hlegacy] at h
      obtain ⟨members, hmembers, h⟩ := Attempt.value_bind_eq_ok.1 h
      obtain rfl := Except.ok.inj h
      exact memberNames_resolve hmembers
  | .list items, out, h => by
    obtain ⟨values, hvalues, h⟩ := Attempt.value_bind_eq_ok.1 h
    obtain rfl := Except.ok.inj h
    exact itemNames_resolve hvalues

theorem itemNames_resolve : ∀ {items out : List Json},
    (resolveItems s (classifyItems items)).outcome.value = .ok out →
    Json.itemNames out ⊆ Json.itemNames items
  | [], out, h => by
    obtain rfl := Except.ok.inj h
    exact List.Subset.refl _
  | value :: rest, out, h => by
    obtain ⟨first, hfirst, h⟩ := Attempt.value_bind_eq_ok.1 h
    obtain ⟨others, hothers, h⟩ := Attempt.value_bind_eq_ok.1 h
    obtain rfl := Except.ok.inj h
    exact fun name h => List.mem_append.2 <|
      (List.mem_append.1 h).imp (fun h => names_resolve hfirst h) fun h => itemNames_resolve hothers h

theorem memberNames_resolve : ∀ {fields out : List (String × Json)},
    (resolveFields s (classifyFields fields)).outcome.value = .ok out →
    Json.memberNames out ⊆ Json.memberNames fields
  | [], out, h => by
    obtain rfl := Except.ok.inj h
    exact List.Subset.refl _
  | (key, value) :: rest, out, h => by
    obtain ⟨first, hfirst, h⟩ := Attempt.value_bind_eq_ok.1 h
    obtain ⟨others, hothers, h⟩ := Attempt.value_bind_eq_ok.1 h
    obtain rfl := Except.ok.inj h
    refine List.cons_subset_cons key fun name h => List.mem_append.2 ?_
    exact (List.mem_append.1 h).imp (fun h => names_resolve hfirst h) fun h => memberNames_resolve hothers h

end

end Input

end Runbook
