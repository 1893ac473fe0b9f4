import Runbook.Proofs.Token.Placeholder
import Runbook.Proofs.Validation.Steps

/-!
# Placeholders against tokens

The validation looks for placeholders, each of which goes on to the next closing brace; what is replaced when a
workflow runs are the tokens, and where none starts the search goes on one character later.

* `Placeholder.isSome_parse?_iff` — a placeholder reads as a token exactly if a token stands in its place.
* `Placeholder.scanFrom_eq_places` — if they all do, then no token stands anywhere else.
* `Validation.malformedTokens_exact` — what is reported are the placeholders in whose place no token stands.
-/

namespace Runbook

/-- The place of a token as that of a placeholder. -/
def Span.place (span : Span) : Placeholder :=
  ⟨span.start, span.stop⟩

namespace Placeholder

open Template (Cut Stands)

variable {cs : List Char} {position : Nat} {p : Placeholder} {span : Span} {text : String}

/-! ## Where placeholders stand -/

/-- What a placeholder is: an opening, and what follows it up to the next closing brace. -/
structure Closed (position : Nat) (cs : List Char) (p : Placeholder) (inner : List Char) : Prop where
  notMem : '}' ∉ inner
  exists_around : ∃ before after, cs = before ++ '$' :: '{' :: (inner ++ '}' :: after) ∧
    p.start = position + before.length
  stop_eq : p.stop = p.start + inner.length + 3

theorem closed_shift {inner : List Char} (before : List Char)
    (h : Closed (position + before.length) cs p inner) : Closed position (before ++ cs) p inner := by
  obtain ⟨between, after, rfl, hstart⟩ := h.exists_around
  refine ⟨h.notMem, ⟨before ++ between, after, (List.append_assoc ..).symm, ?_⟩, h.stop_eq⟩
  rw [hstart, List.length_append, Nat.add_assoc]

/-- A placeholder is closed by the first closing brace behind its opening. -/
theorem exists_closed_of_mem_scanFrom (h : p ∈ scanFrom position cs) :
    ∃ inner, Closed position cs p inner := by
  induction hn : cs.length using Nat.strong_induction_on generalizing cs position with
  | _ n ih =>
    cases cs with
    | nil => cases h
    | cons c cs =>
      by_cases hopen : c = '$' ∧ ∃ rest, cs = '{' :: rest
      · obtain ⟨rfl, rest, rfl⟩ := hopen
        rw [scanFrom] at h
        by_cases hclose : '}' ∈ rest
        · obtain ⟨inner, after, rfl, hinner⟩ := List.eq_append_cons_of_mem hclose
          rw [closeFrom_append hinner] at h
          have hlength : position + 2 + inner.length + 1 =
              position + ('$' :: '{' :: (inner ++ ['}'])).length := by
            simp
            omega
          rcases List.mem_cons.1 h with rfl | h
          · exact ⟨inner, hinner, ⟨[], after, rfl, rfl⟩, by simp only; omega⟩
          · rw [hlength] at h
            obtain ⟨later, hlater⟩ := ih after.length (by rw [← hn]; simp; omega) h rfl
            have hshift := closed_shift _ hlater
            simp only [List.cons_append, List.append_assoc, List.nil_append] at hshift
            exact ⟨later, hshift⟩
        · rw [closeFrom_eq_nil_iff.2 hclose] at h
          cases h
      · rw [scanFrom_cons hopen] at h
        obtain ⟨inner, hinner⟩ := ih cs.length (by rw [← hn]; simp) h rfl
        exact ⟨inner, closed_shift [c] hinner⟩

/-- The text of a placeholder. -/
theorem Closed.slice_eq {inner : List Char} (h : Closed 0 text.toList p inner) :
    p.slice text = String.ofList ('$' :: '{' :: (inner ++ ['}'])) := by
  obtain ⟨before, after, htext, hstart⟩ := h.exists_around
  have hsplit : text = String.ofList (before ++ ('$' :: '{' :: (inner ++ ['}']) ++ after)) := by
    rw [← String.ofList_toList (s := text), htext]
    simp
  have hplace : p = ⟨before.length, before.length + ('$' :: '{' :: (inner ++ ['}'])).length⟩ := by
    rcases p with ⟨start, stop⟩
    rw [Placeholder.mk.injEq]
    have hstop := h.stop_eq
    simp at hstart hstop ⊢
    omega
  rw [hplace, hsplit, slice_append]

/-! ## Placeholders that are tokens -/

/-- The text of a token, found where a placeholder would be. -/
theorem slice_place (hspan : span ∈ Template.spans text) : span.place.slice text = span.token.write :=
  (Template.scanned_spans text).written span hspan

/-- A placeholder reads as a token exactly if a token stands in its place. -/
theorem isSome_parse?_iff (h : p ∈ scan text) :
    (Token.parse? (p.slice text)).isSome = true ↔ p ∈ (Template.spans text).map Span.place := by
  rw [Option.isSome_iff_exists, List.mem_map]
  constructor
  · rintro ⟨t, ht⟩
    obtain ⟨inner, hclosed⟩ := exists_closed_of_mem_scanFrom h
    rw [hclosed.slice_eq] at ht
    obtain ⟨hwf, hchars⟩ := Token.read?_eq_some_iff.1 (read?_of_parse? ht)
    rw [List.append_nil] at hchars
    have hlength := congrArg List.length hchars
    obtain ⟨before, after, htext, hstart⟩ := hclosed.exists_around
    have hstands : Stands 0 text.toList ⟨p.start, p.stop, t⟩ :=
      ⟨hwf, ⟨before, after, by rw [htext, ← hchars]; simp, hstart⟩, by
        simp only [← hlength, hclosed.stop_eq, List.length_cons, List.length_append, List.length_nil]
        omega⟩
    exact ⟨_, (Template.mem_spansFrom_iff (Template.cut_segments _)).2 hstands, rfl⟩
  · rintro ⟨span, hspan, rfl⟩
    have hwf := ((Template.mem_spansFrom_iff (Template.cut_segments _)).1 hspan).wellFormed
    exact ⟨span.token, by rw [slice_place hspan, Token.parse?_write hwf]⟩

/-- A token that starts where a placeholder does also ends where it does. -/
theorem place_eq_of_start_eq (h : p ∈ scan text) (hspan : span ∈ Template.spans text)
    (hstart : span.start = p.start) : span.place = p := by
  obtain ⟨inner, hclosed⟩ := exists_closed_of_mem_scanFrom h
  obtain ⟨before, after, htext, hbefore⟩ := hclosed.exists_around
  obtain ⟨hwf, ⟨before', after', htext', hbefore'⟩, hstop⟩ :=
    (Template.mem_spansFrom_iff (Template.cut_segments _)).1 hspan
  obtain ⟨inner', hbody, hinner'⟩ := Token.body_eq_append hwf
  have hclose : '}' ∉ inner' := by
    intro hmem
    rcases hinner' _ hmem with hc | hc <;> revert hc <;> decide
  rw [htext, Token.chars_eq, hbody] at htext'
  have hrest := (List.append_inj htext' (by omega)).2
  simp only [List.cons_append, List.cons.injEq, true_and, List.append_assoc, List.nil_append] at hrest
  -- both end at the first closing brace behind the opening
  have hends := congrArg (closeFrom 0 0) hrest
  rw [closeFrom_append hclosed.notMem, closeFrom_append hclose, List.cons.injEq, Placeholder.mk.injEq] at hends
  rcases p with ⟨start, stop⟩
  have hlength := hclosed.stop_eq
  rw [Token.length_chars, hbody, List.length_append, List.length_singleton] at hstop
  rw [Span.place, Placeholder.mk.injEq]
  exact ⟨hstart, by simp only at hstart hlength; omega⟩

/-! ## Texts whose placeholders are tokens -/

/-- Where no brace closes, no token stands. -/
theorem spansFrom_eq_nil {found : List Segment} (h : Cut cs found) (hclose : '}' ∉ cs) :
    Template.spansFrom position found = [] := by
  rw [List.eq_nil_iff_forall_not_mem]
  intro span hspan
  obtain ⟨hwf, ⟨before, after, rfl, -⟩, -⟩ := (Template.mem_spansFrom_iff h).1 hspan
  obtain ⟨inner, hbody, -⟩ := Token.body_eq_append hwf
  exact hclose (by simp [Token.chars_eq, hbody])

/-- If all placeholders are tokens, then the tokens are the placeholders. -/
theorem scanFrom_eq_places {found : List Segment} (start : List Char) (h : Cut cs found)
    (wellFormed : ∀ p ∈ scanFrom start.length cs,
      (Token.parse? (p.slice (String.ofList (start ++ cs)))).isSome = true) :
    scanFrom start.length cs = (Template.spansFrom start.length found).map Span.place := by
  induction h generalizing start with
  | nil => rfl
  | @char c cs segments noToken rest ih =>
    by_cases hopen : c = '$' ∧ ∃ after, cs = '{' :: after
    · -- what opens here would be a placeholder, and no token starts here: it is not closed
      obtain ⟨rfl, after, rfl⟩ := hopen
      have hclose := Template.notMem_of_wellFormed noToken wellFormed
      have hcut : Cut ('$' :: '{' :: after) (.char '$' :: segments) := .char noToken rest
      rw [scanFrom, closeFrom_eq_nil_iff.2 hclose, spansFrom_eq_nil hcut (by simpa using hclose)]
      rfl
    · rw [scanFrom_cons hopen] at wellFormed ⊢
      rw [Template.spansFrom]
      have hrest := ih (start ++ [c]) (by simpa using wellFormed)
      rwa [List.length_append, List.length_singleton] at hrest
  | @token t cs segments hwf rest ih =>
    rw [scanFrom_append hwf] at wellFormed ⊢
    rw [Template.spansFrom, List.map_cons]
    have hrest := ih (start ++ t.chars) (by
      rw [List.length_append, List.append_assoc]
      exact fun p hp => wellFormed p (List.mem_cons_of_mem _ hp))
    rw [List.length_append] at hrest
    exact congrArg _ hrest

theorem scan_eq_places (h : WellFormed text) : scan text = (Template.spans text).map Span.place :=
  scanFrom_eq_places [] (Template.cut_segments text.toList) (by
    rw [List.nil_append, String.ofList_toList]
    exact h)

end Placeholder

namespace Validation

open Placeholder (scan)
open Template (spans)

theorem malformedTokens_eq_nil_iff {field text : String} :
    malformedTokens field text = [] ↔ Placeholder.WellFormed text := by
  rw [malformedTokens, List.filterMap_eq_nil_iff, Placeholder.WellFormed]
  refine forall₂_congr fun p _ => ?_
  by_cases hparse : (Token.parse? (p.slice text)).isSome = true <;> simp [hparse]

/-- **The validation reports the placeholders that are no tokens**, each of them once, in the order in which they
stand in the text, and each as an error. So it reports none exactly if the placeholders of a text stand where its
tokens do. -/
theorem malformedTokens_exact (field text : String) :
    (malformedTokens field text = [] ↔ scan text = (spans text).map Span.place) ∧
      malformedTokens field text =
        ((scan text).filter fun p => p ∉ (spans text).map Span.place).map
          (fun p => ⟨field, .malformedToken (p.slice text)⟩) ∧
      (∀ finding ∈ malformedTokens field text, finding.problem.isError = true) ∧
      ∀ p ∈ scan text, ∀ span ∈ spans text, span.start = p.start → span.place = p := by
  refine ⟨?_, ?_, ?_, fun p hp span hspan => Placeholder.place_eq_of_start_eq hp hspan⟩
  · rw [malformedTokens_eq_nil_iff]
    refine ⟨Placeholder.scan_eq_places, fun h p hp => ?_⟩
    exact (Placeholder.isSome_parse?_iff hp).2 (h ▸ hp)
  · rw [malformedTokens, ← List.filterMap_eq_map, List.filterMap_filter]
    refine List.filterMap_congr fun p hp => ?_
    by_cases hplace : p ∈ (spans text).map Span.place
    · simp [hplace, (Placeholder.isSome_parse?_iff hp).2 hplace]
    · simp [hplace, mt (Placeholder.isSome_parse?_iff hp).1 hplace]
  · intro finding hfinding
    obtain ⟨p, -, hp⟩ := List.mem_filterMap.1 hfinding
    dsimp only at hp
    split at hp
    · cases hp
    · obtain rfl := Option.some.inj hp
      rfl

end Validation

end Runbook
