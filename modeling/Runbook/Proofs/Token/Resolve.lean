import Runbook.Proofs.Token.Placeholder
import Runbook.Proofs.Token.Render
import Runbook.Token.Resolve

/-!
# Resolved texts

* `resolveText_eq_ok` — a resolved text is the text with each token filled by what the token stands for;
  `resolveText_of_forall` says when there is one.
* `exists_resolveText_iff` — there is one unless a token asks for an item by a numeral of too many digits.
* `not_occurs_resolveText` — so no placeholder is left in it, if no tokens split one and what they stand for
  is unmarked.
-/

namespace Runbook.Store

variable {s : Store}

/-- The table of resolved tokens holds for each of them what it stands for. -/
theorem resolveTokens_eq_ok {ts : List Token} {table : List (Token × String)}
    (h : (s.resolveTokens ts).outcome.value = .ok table) :
    ∀ t ∈ ts, ∃ text, table.lookup t = some text ∧ s.resolveToken t = .ok text := by
  induction ts generalizing table with
  | nil => simp
  | cons u ts ih =>
    obtain ⟨text, htext, h⟩ := Attempt.value_bind_eq_ok.1 h
    obtain ⟨rest, hrest, h⟩ := Attempt.value_bind_eq_ok.1 h
    obtain rfl := Except.ok.inj h
    intro t ht
    by_cases htu : t = u
    · subst htu
      exact ⟨text, by simp, htext⟩
    · obtain ⟨found, hlookup, hfound⟩ := ih hrest t ((List.mem_cons.1 ht).resolve_left htu)
      refine ⟨found, ?_, hfound⟩
      rw [List.lookup_cons, beq_false_of_ne htu]
      exact hlookup

/-- A resolved text is the text with each token filled by what the token stands for. -/
theorem resolveText_eq_ok {text resolved : String}
    (h : (s.resolveText text).outcome.value = .ok resolved) :
    ∃ f : Token → String, resolved = Template.fill f text ∧
      ∀ t ∈ Template.tokens text, s.resolveToken t = .ok (f t) := by
  obtain ⟨table, htable, h⟩ := Attempt.value_bind_eq_ok.1 h
  refine ⟨_, (Except.ok.inj h).symm, fun t ht => ?_⟩
  obtain ⟨found, hlookup, hfound⟩ := resolveTokens_eq_ok htable t (List.mem_eraseDups.2 ht)
  rw [hlookup]
  exact hfound

theorem resolveTokens_of_forall {ts : List Token} {f : Token → String}
    (h : ∀ t ∈ ts, s.resolveToken t = .ok (f t)) :
    (s.resolveTokens ts).outcome.value = .ok (ts.map fun t => (t, f t)) := by
  induction ts with
  | nil => rfl
  | cons t ts ih =>
    rw [List.forall_mem_cons] at h
    exact Attempt.value_bind_eq_ok.2 ⟨f t, h.1, Attempt.value_bind_eq_ok.2 ⟨_, ih h.2, rfl⟩⟩

/-- A text has a resolved text if each of its tokens stands for something. -/
theorem resolveText_of_forall {text : String} {f : Token → String}
    (h : ∀ t ∈ Template.tokens text, s.resolveToken t = .ok (f t)) :
    (s.resolveText text).outcome.value = .ok (Template.fill f text) := by
  have htokens := resolveTokens_of_forall fun t ht => h t (List.mem_eraseDups.1 ht)
  have hvalue : (s.resolveText text).outcome.value = .ok _ :=
    Attempt.value_bind_eq_ok.2 ⟨_, htokens, rfl⟩
  obtain ⟨g, hg, hsame⟩ := resolveText_eq_ok hvalue
  have hfill : Template.fill g text = Template.fill f text :=
    Template.fill_congr fun t ht => Except.ok.inj ((hsame t ht).symm.trans (h t ht))
  rw [hvalue, hg, hfill]

/-- Does a token ask for an item of a list by a numeral of more digits than are read? -/
def Overlong (s : Store) (t : Token) : Prop :=
  ∃ p, s.lookup t.dataPointId = some p ∧ Token.Overlong p.value t.field

/-- A token stands for a text, unless it asks for an item by a numeral of too many digits. -/
theorem exists_resolveToken_iff {t : Token} (h : t.isWellFormed = true) :
    (∃ found, s.resolveToken t = .ok found) ↔ ¬ s.Overlong t := by
  rw [resolveToken]
  cases hp : s.lookup t.dataPointId with
  | none => simp [Overlong, hp]
  | some p =>
    have hfield : ∀ f ∈ t.field, Token.isIdent f = true := by
      intro f hf
      rw [Token.isWellFormed, Bool.and_eq_true, hf] at h
      exact h.2
    simp [Overlong, hp, Token.exists_render_iff hfield]

/-- A text has a resolved text, unless one of its tokens asks for an item by a numeral of too many digits. -/
theorem exists_resolveText_iff {text : String} :
    (∃ resolved, (s.resolveText text).outcome.value = .ok resolved) ↔
      ∀ t ∈ Template.tokens text, ¬ s.Overlong t := by
  constructor
  · rintro ⟨resolved, h⟩ t ht
    obtain ⟨f, -, hf⟩ := resolveText_eq_ok h
    exact (exists_resolveToken_iff (Template.isWellFormed_of_mem ht)).1 ⟨f t, hf t ht⟩
  · intro h
    have hfound : ∀ t ∈ Template.tokens text,
        s.resolveToken t = .ok ((s.resolveToken t).toOption.getD "") := by
      intro t ht
      obtain ⟨found, hfound⟩ := (exists_resolveToken_iff (Template.isWellFormed_of_mem ht)).2 (h t ht)
      rw [hfound]
      rfl
    exact ⟨_, resolveText_of_forall hfound⟩

/-- A text without tokens is its own resolved text, and nothing is reported. -/
theorem resolveText_of_tokens_eq_nil {text : String} (h : Template.tokens text = []) :
    s.resolveText text = pure text := by
  rw [resolveText, h]
  show (pure (Template.fill _ text) : Attempt Token.RenderError String) = pure text
  rw [Template.fill_of_tokens_eq_nil h]

/-- In a text with a single token the text that the token stands for is put in its place. -/
theorem resolveText_single {before after value : String} {t : Token} (hbefore : '$' ∉ before.toList)
    (hafter : '$' ∉ after.toList) (ht : t.isWellFormed = true) (h : s.resolveToken t = .ok value) :
    (s.resolveText (before ++ t.write ++ after)).outcome.value = .ok (before ++ value ++ after) := by
  have hresolved := resolveText_of_forall (s := s) (f := fun _ => value) (fun u hu => by
    rw [Template.tokens_single hbefore hafter ht, List.mem_singleton] at hu
    rw [hu, h])
  rwa [Template.fill_single _ hbefore hafter ht] at hresolved

open Placeholder (Occurs Unmarked)

/-- No placeholder is left in a resolved text, if no tokens split one and what they stand for is unmarked. -/
theorem not_occurs_resolveText {text resolved : String} (wellFormed : Placeholder.WellFormed text)
    (whole : ∀ ts, ts ≠ [] → ¬ Template.Splits ts (Template.segments text.toList))
    (unmarked : ∀ t ∈ Template.tokens text, ∀ found, s.resolveToken t = .ok found →
      Unmarked found.toList)
    (h : (s.resolveText text).outcome.value = .ok resolved) : ¬ Occurs resolved.toList := by
  obtain ⟨f, rfl, hf⟩ := resolveText_eq_ok h
  rw [Template.fill, String.toList_ofList]
  refine Template.not_occurs_fillSegments (fun ts => ?_) fun t ht => ?_
  · by_cases hts : ts = []
    · exact hts ▸ Template.not_splits_nil wellFormed
    · exact whole ts hts
  · have hmem := Template.mem_tokens.2 ht
    exact unmarked t hmem _ (hf t hmem)

end Runbook.Store
