import Runbook.Proofs.Reference.Review
import Runbook.Proofs.Token.Grammar

/-!
# Which fixes can be used

A fix puts the id of a step, as it is, between the braces of a token. The ids of steps are texts of any kind.

* `Token.eq_of_parse?_write` — what is read where a token was written is that token, or one with another field.
* `Suggestion.Usable` — what a fix is for: the new text is a token for the output of one of the steps, with the
  field of the old one.
* `newValue_of_applied` — a suggestion that changes the text puts in the output of one of the steps;
  `usable_iff` — it can be used exactly if the id of that step is a name.
* `repairJson_usable` — so it is for all fixes in a workflow; `repairJson_unusable` — two that cannot be used.
-/

namespace Runbook

namespace Token

variable {s : String} {t u : Token}

/-- Whatever its id is, a token is written between braces. -/
theorem exists_chars_braced (t : Token) : ∃ inner, t.chars = '$' :: '{' :: (inner ++ ['}']) := by
  rcases t with ⟨id, none | field⟩
  · exact ⟨id.toList, rfl⟩
  · by_cases hempty : field.isEmpty
    · exact ⟨id.toList, by simp [chars, hempty]⟩
    · exact ⟨id.toList ++ '.' :: field.toList, by simp [chars, hempty]⟩

theorem trim_write (t : Token) : Text.trim t.write = t.write := by
  obtain ⟨inner, hinner⟩ := t.exists_chars_braced
  rw [Text.trim, write, String.toList_ofList, hinner, trimChars_braced]

/-- What is read where a token was written is that token, if it has the field of that token. -/
theorem eq_of_parse?_write (h : parse? t.write = some u) (hfield : u.field = t.field) : u = t := by
  obtain ⟨-, hchars⟩ := spells_iff.1 (parse?_eq_some_iff.1 h)
  rw [trim_write, ← String.toList_ofList (l := u.chars), String.toList_inj] at hchars
  rcases t with ⟨id, field⟩
  rcases u with ⟨other, _⟩
  obtain rfl : _ = field := hfield
  rw [write_cancel hchars]

/-- The id of an output is a name exactly if that of the step is one, or is empty. -/
theorem isName_append_outputMarker : IsName (s ++ outputMarker) ↔ s = "" ∨ IsName s := by
  have hmarker : IsName outputMarker :=
    (isWellFormed_iff.1 (by decide : isWellFormed ⟨outputMarker, none⟩ = true)).1
  constructor
  · rintro ⟨-, hchars⟩
    rw [String.toList_append] at hchars
    exact or_iff_not_imp_left.2 fun hne => ⟨hne, fun c hc => hchars c (List.mem_append_left _ hc)⟩
  · rintro (rfl | ⟨hne, hchars⟩)
    · exact hmarker
    · refine ⟨by simpa using fun h => absurd h hne, fun c hc => ?_⟩
      rw [String.toList_append] at hc
      exact (List.mem_append.1 hc).elim (hchars c) (hmarker.2 c)

end Token

namespace Repair

variable {ids : List String} {field text candidate : String} {s : Suggestion}

/-- A fix can be used if what it puts in is a token for the output of one of the steps and has the field of the
token that it replaces. -/
def Suggestion.Usable (ids : List String) (s : Suggestion) : Prop :=
  ∃ t step, Token.parse? s.newValue = some t ∧ stepOfOutput? t.dataPointId = some step ∧ step ∈ ids ∧
    t.field = s.token.field

/-- A suggestion that changes the text puts in the output of one of the steps. -/
theorem newValue_of_applied (h : s ∈ suggestions ids field text) (applied : s.applied = true) :
    ∃ candidate ∈ ids, s.newValue = Token.write ⟨candidate ++ outputMarker, s.token.field⟩ := by
  obtain ⟨-, hnew, hcorrected⟩ := of_suggest? (of_mem_suggestions h).2
  rw [applied_eq_isCorrected h, hcorrected, Option.isSome_iff_exists] at applied
  obtain ⟨new, hcorrection⟩ := applied
  obtain ⟨candidate, hmem, rfl⟩ := correction?_cases hcorrection
  exact ⟨candidate, hmem, by rw [hnew, hcorrection]; rfl⟩

/-- A fix can be used exactly if the id of the step is a name. -/
theorem usable_iff (htoken : s.token.isWellFormed = true) (hmem : candidate ∈ ids)
    (hnew : s.newValue = Token.write ⟨candidate ++ outputMarker, s.token.field⟩) :
    s.Usable ids ↔ Token.IsName candidate := by
  rw [Suggestion.Usable, hnew]
  constructor
  · rintro ⟨t, step, hparse, hstep, -, hfield⟩
    obtain rfl := Token.eq_of_parse?_write hparse hfield
    have hne : candidate ≠ "" := by
      rintro rfl
      rw [stepOfOutput?_append, if_pos rfl] at hstep
      cases hstep
    have hnamed := Token.isWellFormed_iff.1 (Token.spells_iff.1 (Token.parse?_eq_some_iff.1 hparse)).1
    exact (Token.isName_append_outputMarker.1 hnamed.1).resolve_left hne
  · intro hname
    have hnamed : Token.IsNamed ⟨candidate ++ outputMarker, s.token.field⟩ :=
      ⟨Token.isName_append_outputMarker.2 (.inr hname), (Token.isWellFormed_iff.1 htoken).2⟩
    refine ⟨_, candidate, Token.parse?_write (Token.isWellFormed_iff.2 hnamed), ?_, hmem, rfl⟩
    rw [stepOfOutput?_append, if_neg hname.1]

/-- **A fix can be used exactly if the id of the step that was found is a name.** Whatever the ids of the steps
are, a suggestion that changes the text puts in a token for the output of one of them, written with its id as it
is and the field of the old token; the text is a token again, names one of the steps and has that field if the
id is made of letters and digits of ASCII, `_` and `-`, and is not empty, and only then. -/
theorem repairJson_usable {fields : Fields} {steps : List Json}
    (listed : fields.get? "steps" = some (.list steps)) :
    ∀ s ∈ (repairJson (.record fields)).suggestions, s.applied = true →
      ∃ candidate ∈ stepIds steps,
        s.newValue = Token.write ⟨candidate ++ outputMarker, s.token.field⟩ ∧
        (s.Usable (stepIds steps) ↔ Token.IsName candidate) := by
  intro s hs applied
  rw [repairJson_of_listed listed, found_repairSteps, List.mem_flatMap] at hs
  obtain ⟨leaf, -, hs⟩ := hs
  obtain ⟨candidate, hmem, hnew⟩ := newValue_of_applied hs applied
  have htoken := Template.isWellFormed_of_mem (of_mem_suggestions hs).1
  exact ⟨candidate, hmem, hnew, usable_iff htoken hmem hnew⟩

/-- A token with a field gets the id of the one step that is like it. -/
theorem repairJson_usable_page :
    let steps : List Json :=
      [.record [("id", .str "fetch_page"), ("input", .record [("q", .str "see ${fetch_output.title}")])]]
    let fields : Fields := [("name", .str "w"), ("steps", .list steps)]
    Fields.get? "steps" fields = some (.list steps) ∧
      (repairJson (.record fields)).suggestions.map (fun s => (s.applied, s.newValue)) =
        [(true, "${fetch_page_output.title}")] ∧
      ∀ s ∈ (repairJson (.record fields)).suggestions, s.applied = true →
        ∃ candidate ∈ stepIds steps,
          s.newValue = Token.write ⟨candidate ++ outputMarker, s.token.field⟩ ∧
          (s.Usable (stepIds steps) ↔ Token.IsName candidate) := by
  intro steps fields
  have listed : Fields.get? "steps" fields = some (.list steps) := rfl
  exact ⟨listed, by decide +kernel, repairJson_usable listed⟩

/-- Two steps with ids that are no names. With the blank in the one, what is put in is no token; with the other,
which is empty, it is a token for the output of no step. -/
theorem repairJson_unusable :
    let steps : List Json :=
      [.record [("id", .str "fetch_page 1")],
        .record [("id", .str ""), ("input", .record [("q", .str "${fetch_output} ${_x_output.title}")])]]
    let found := (repairJson (.record [("steps", .list steps)])).suggestions
    found.map (fun s => (s.applied, s.newValue)) =
        [(true, "${fetch_page 1_output}"), (true, "${_output.title}")] ∧
      ∀ s ∈ found, ¬ s.Usable (stepIds steps) := by
  intro steps found
  have hfound : found.map (fun s => (s.applied, s.newValue)) =
      [(true, "${fetch_page 1_output}"), (true, "${_output.title}")] := by
    decide +kernel
  refine ⟨hfound, ?_⟩
  rintro s hs ⟨t, step, hparse, hstep, -⟩
  have hmem : (s.applied, s.newValue) ∈ found.map fun s => (s.applied, s.newValue) :=
    List.mem_map_of_mem hs
  rw [hfound] at hmem
  simp only [List.mem_cons, Prod.mk.injEq, List.not_mem_nil, or_false] at hmem
  obtain ⟨-, hnew⟩ | ⟨-, hnew⟩ := hmem <;> rw [hnew] at hparse
  · have hnone : Token.parse? "${fetch_page 1_output}" = none := by decide
    cases hnone.symm.trans hparse
  · have hsome : Token.parse? "${_output.title}" = some ⟨"_output", some "title"⟩ := by decide
    cases hsome.symm.trans hparse
    cases hstep

end Repair

end Runbook
