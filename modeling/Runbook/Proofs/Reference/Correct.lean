import Runbook.Proofs.Reference.Output
import Runbook.Proofs.Token.Replace
import Runbook.Reference.Repair

/-!
# Correcting a text

* `correction?` — the token that ought to stand for one that names the output of a missing step, if the step
  that was meant is found; `rewrite` puts all of them into a text at once.
* `correction?_eq_none` — a token that is put in is none that is to be replaced, because its step exists.
* `correct_eq_fill` — so the replacements of a repair, one after the other, replace exactly the tokens of the
  text that they are about, however many of them were made already; `correct_suggestions` — all of them
  together are the one replacement `rewrite`.
* `length_corrected`, `applied_eq_isCorrected` — what the corrections of a text are counted by.
-/

namespace Runbook

/-! ## Each thing once -/

section

variable {α β : Type} [DecidableEq α] [DecidableEq β]

theorem eraseDups_filter (p : α → Bool) (as : List α) :
    (as.filter p).eraseDups = as.eraseDups.filter p := by
  induction h : as.length using Nat.strong_induction_on generalizing as with
  | _ n ih =>
    cases as with
    | nil => rfl
    | cons a as =>
      have hrest := ih _ (Nat.lt_of_le_of_lt (List.length_filter_le (fun b => !b == a) as)
        (by rw [← h]; simp)) _ rfl
      rw [List.eraseDups_cons]
      by_cases ha : p a = true
      · rw [List.filter_cons_of_pos ha, List.filter_cons_of_pos ha, List.eraseDups_cons,
          List.filter_filter, ← hrest, List.filter_filter]
        simp only [Bool.and_comm]
      · rw [List.filter_cons_of_neg ha, List.filter_cons_of_neg ha, ← hrest, List.filter_filter]
        congr 1
        refine List.filter_congr fun b _ => ?_
        by_cases hb : b = a
        · subst hb
          simp [ha]
        · simp [hb]

theorem eraseDups_map {f : α → β} {as : List α} (h : ∀ a ∈ as, ∀ b ∈ as, f a = f b → a = b) :
    (as.map f).eraseDups = as.eraseDups.map f := by
  induction hn : as.length using Nat.strong_induction_on generalizing as with
  | _ n ih =>
    cases as with
    | nil => rfl
    | cons a as =>
      have hrest := ih _ (Nat.lt_of_le_of_lt (List.length_filter_le (fun b => !b == a) as)
        (by rw [← hn]; simp)) (fun b hb c hc => h b (List.mem_cons_of_mem _ (List.mem_of_mem_filter hb))
          c (List.mem_cons_of_mem _ (List.mem_of_mem_filter hc))) rfl
      rw [List.map_cons, List.eraseDups_cons, List.eraseDups_cons, List.map_cons, ← hrest,
        List.filter_map]
      congr 2
      congr 1
      refine List.filter_congr fun b hb => ?_
      have hfb := h b (List.mem_cons_of_mem _ hb) a List.mem_cons_self
      by_cases hba : b = a
      · simp [hba]
      · have hne : ¬ f b = f a := fun hf => hba (hfb hf)
        simp [hba, hne]

end

/-! ## The step that is meant -/

/-- The step that is meant is one of those that there are. -/
theorem StepMatch.mem_of_candidate {id candidate : String} {steps : List String}
    (h : (find id steps).candidate = some candidate) : candidate ∈ steps := by
  have hmem : ∀ s, s ∈ (steps.eraseDups.filter fun s => s != id && compatible id s).mergeSort before →
      s ∈ steps := by
    intro s hs
    rw [List.mem_mergeSort] at hs
    exact List.mem_eraseDups.1 (List.mem_of_mem_filter hs)
  simp only [find] at h
  split at h
  · rename_i s strong _ hstrong
    cases h
    exact hmem _ (List.mem_of_mem_filter (hstrong ▸ List.mem_cons_self))
  · rename_i s _ hsimilar
    cases h
    exact hmem _ (hsimilar ▸ List.mem_cons_self)
  · cases h

namespace Repair

/-- The token that ought to stand for one that names the output of a missing step, if the step that was meant
is found. Its field stays. -/
def correction? (stepIds : List String) (t : Token) : Option Token :=
  match stepOfOutput? t.dataPointId with
  | some stepId =>
    if stepId ∈ stepIds then none
    else (StepMatch.find stepId stepIds).candidate.map fun candidate =>
      ⟨candidate ++ outputMarker, t.field⟩
  | none => none

/-- The text with all tokens corrected at once. -/
def rewrite (stepIds : List String) (text : String) : String :=
  Template.fill (fun t => ((correction? stepIds t).getD t).write) text

/-- Step ids that are made of the characters of identifiers. -/
def Identifiers (stepIds : List String) : Prop :=
  ∀ id ∈ stepIds, ∀ c ∈ id.toList, Token.isIdentChar c = true

variable {stepIds : List String} {field : String} {t new : Token}

theorem correction?_eq_some_iff : correction? stepIds t = some new ↔
    ∃ stepId candidate, stepOfOutput? t.dataPointId = some stepId ∧ stepId ∉ stepIds ∧
      (StepMatch.find stepId stepIds).candidate = some candidate ∧ new = ⟨candidate ++ outputMarker, t.field⟩ := by
  unfold correction?
  cases stepOfOutput? t.dataPointId with
  | none => simp
  | some stepId =>
    by_cases hknown : stepId ∈ stepIds
    · simp [hknown]
    · have hnew (candidate : String) : (⟨candidate ++ outputMarker, t.field⟩ : Token) = new ↔
          new = ⟨candidate ++ outputMarker, t.field⟩ := eq_comm
      simp [hknown, hnew]

theorem correction?_cases (h : correction? stepIds t = some new) :
    ∃ candidate ∈ stepIds, new = ⟨candidate ++ outputMarker, t.field⟩ := by
  obtain ⟨stepId, candidate, -, -, hcandidate, rfl⟩ := correction?_eq_some_iff.1 h
  exact ⟨candidate, StepMatch.mem_of_candidate hcandidate, rfl⟩

/-- A token that is put in is none that is to be replaced. -/
theorem correction?_eq_none (h : correction? stepIds t = some new) :
    correction? stepIds new = none := by
  obtain ⟨candidate, hmem, rfl⟩ := correction?_cases h
  rw [correction?, stepOfOutput?_append]
  by_cases hcandidate : candidate = ""
  · rw [if_pos hcandidate]
  · rw [if_neg hcandidate]
    exact if_pos hmem

theorem isWellFormed_correction (identifiers : Identifiers stepIds) (ht : t.isWellFormed = true)
    (h : correction? stepIds t = some new) : new.isWellFormed = true := by
  obtain ⟨candidate, hmem, rfl⟩ := correction?_cases h
  have hid : Token.isIdent (candidate ++ outputMarker) = true := by
    rw [Token.isIdent_eq_true, String.toList_append]
    refine ⟨?_, fun c hc => ?_⟩
    · exact List.append_ne_nil_of_right_ne_nil _ (by decide)
    · rcases List.mem_append.1 hc with hc | hc
      · exact identifiers _ hmem c hc
      · exact List.all_eq_true.1 (by decide : outputMarker.toList.all Token.isIdentChar = true) c hc
  rw [Token.isWellFormed, Bool.and_eq_true] at ht ⊢
  exact ⟨hid, ht.2⟩

theorem isWellFormed_getD_correction (identifiers : Identifiers stepIds)
    (ht : t.isWellFormed = true) : ((correction? stepIds t).getD t).isWellFormed = true := by
  cases h : correction? stepIds t with
  | none => exact ht
  | some new => exact isWellFormed_correction identifiers ht h

/-- The tokens of a corrected text are the tokens of the text, corrected. -/
theorem tokens_rewrite (identifiers : Identifiers stepIds) (text : String) :
    Template.tokens (rewrite stepIds text) =
      (Template.tokens text).map fun t => (correction? stepIds t).getD t :=
  Template.tokens_fill (fun _ => isWellFormed_getD_correction identifiers) text

/-- No text is corrected to one without tokens. -/
theorem eq_of_rewrite (identifiers : Identifiers stepIds) {text new : String}
    (h : rewrite stepIds text = new) (plain : Template.tokens new = []) : text = new := by
  rw [← h, tokens_rewrite identifiers, List.map_eq_nil_iff] at plain
  rw [← h, rewrite, Template.fill_of_tokens_eq_nil plain]

/-! ## Suggestions -/

theorem suggest?_eq_some_iff {s : Suggestion} : suggest? stepIds field t = some s ↔
    ∃ stepId, stepOfOutput? t.dataPointId = some stepId ∧ stepId ∉ stepIds ∧
      s = ⟨field, t, stepId, verdict stepIds stepId⟩ := by
  unfold suggest?
  cases stepOfOutput? t.dataPointId with
  | none => simp
  | some stepId =>
    by_cases hknown : stepId ∈ stepIds
    · simp [hknown]
    · simp [hknown, eq_comm]

/-- The suggestion about a token says what its correction is. -/
theorem of_suggest? {s : Suggestion} (h : suggest? stepIds field t = some s) :
    s.token = t ∧ s.newValue = ((correction? stepIds t).getD t).write ∧
      s.isCorrected = (correction? stepIds t).isSome := by
  obtain ⟨stepId, hstep, hmissing, rfl⟩ := suggest?_eq_some_iff.1 h
  rcases hfind : StepMatch.find stepId stepIds with ⟨candidate | _, candidates⟩
  · cases candidates <;>
      simp [correction?, hstep, hmissing, Suggestion.newValue, Suggestion.isCorrected, verdict, hfind]
  · simp [correction?, hstep, hmissing, Suggestion.newValue, Suggestion.isCorrected, verdict, hfind]

theorem suggest?_of_correction? (h : correction? stepIds t = some new) (field : String) :
    (suggest? stepIds field t).isSome = true := by
  obtain ⟨stepId, -, hstep, hmissing, -, -⟩ := correction?_eq_some_iff.1 h
  exact Option.isSome_iff_exists.2 ⟨_, suggest?_eq_some_iff.2 ⟨stepId, hstep, hmissing, rfl⟩⟩

theorem of_mem_suggestions {text : String} {s : Suggestion}
    (h : s ∈ suggestions stepIds field text) :
    s.token ∈ Template.tokens text ∧ suggest? stepIds field s.token = some s := by
  obtain ⟨t, ht, hs⟩ := List.mem_filterMap.1 h
  obtain rfl := (of_suggest? hs).1
  exact ⟨List.mem_eraseDups.1 ht, hs⟩

/-- A suggestion changes the text exactly if a step was found. -/
theorem applied_eq_isCorrected {text : String} {s : Suggestion}
    (h : s ∈ suggestions stepIds field text) : s.applied = s.isCorrected := by
  obtain ⟨-, hnew, hcorrected⟩ := of_suggest? (of_mem_suggestions h).2
  rw [Suggestion.applied, Suggestion.oldValue, hnew, hcorrected]
  cases hc : correction? stepIds s.token with
  | none => simp
  | some new =>
    obtain ⟨candidate, -, hcandidate⟩ := correction?_cases hc
    have hne : s.token.write ≠ new.write := by
      intro hwrite
      rw [hcandidate] at hwrite
      have hsame : s.token = new := by
        rw [hcandidate, ← Token.write_cancel hwrite]
      have hnone := correction?_eq_none hc
      rw [← hsame, hc] at hnone
      cases hnone
    simpa using hne

/-! ## Replacing one after the other -/

/-- The tokens that suggestions replace, and those that they put in. -/
def table (stepIds : List String) (found : List Suggestion) : List (Token × Token) :=
  found.filterMap fun s => (correction? stepIds s.token).map fun new => (s.token, new)

theorem mem_table {found : List Suggestion} {pair : Token × Token} :
    pair ∈ table stepIds found ↔
      (∃ s ∈ found, s.token = pair.1) ∧ correction? stepIds pair.1 = some pair.2 := by
  rw [table, List.mem_filterMap]
  constructor
  · rintro ⟨s, hs, h⟩
    obtain ⟨new, hnew, rfl⟩ := Option.map_eq_some_iff.1 h
    exact ⟨⟨s, hs, rfl⟩, hnew⟩
  · rintro ⟨⟨s, hs, htoken⟩, hnew⟩
    exact ⟨s, hs, by rw [htoken, hnew]; rfl⟩

theorem correct_eq_foldl {text : String} {found : List Suggestion}
    (h : ∀ s ∈ found, suggest? stepIds field s.token = some s) :
    correct text found = String.ofList ((table stepIds found).foldl
      (fun cs pair => Text.replaceAll pair.1.chars pair.2.chars cs) text.toList) := by
  rw [correct]
  congr 1
  induction found generalizing text with
  | nil => rfl
  | cons s found ih =>
    have hrest := fun text => @ih text fun s hs => h s (List.mem_cons_of_mem _ hs)
    obtain ⟨-, hnew, hcorrected⟩ := of_suggest? (h s List.mem_cons_self)
    cases hc : correction? stepIds s.token with
    | none =>
      rw [hc] at hcorrected
      rw [List.filter_cons_of_neg (by simp [hcorrected])]
      simpa [table, hc] using hrest text
    | some new =>
      rw [hc] at hcorrected hnew
      rw [List.filter_cons_of_pos (by simp [hcorrected]), List.foldl_cons, hnew]
      have hnext := hrest (String.ofList (Text.replaceAll s.token.chars new.chars text.toList))
      rw [String.toList_ofList] at hnext
      simpa [table, hc, Suggestion.oldValue, Token.write] using hnext

/-- **However many replacements were made already, they replaced the tokens that they are about, wherever
the text had them from the start, and nothing else.** -/
theorem correct_eq_fill (identifiers : Identifiers stepIds) {text : String}
    {made rest : List Suggestion} (h : suggestions stepIds field text = made ++ rest) :
    correct text made = Template.fill (fun t =>
      (if t ∈ made.map Suggestion.token then (correction? stepIds t).getD t else t).write) text := by
  have hmade : ∀ s ∈ made, s.token ∈ Template.tokens text ∧
      suggest? stepIds field s.token = some s :=
    fun s hs => of_mem_suggestions (h ▸ List.mem_append_left _ hs)
  have hold : ∀ pair ∈ table stepIds made, pair.1.isWellFormed = true := by
    intro pair hpair
    obtain ⟨⟨s, hs, htoken⟩, -⟩ := mem_table.1 hpair
    exact htoken ▸ Template.isWellFormed_of_mem (hmade s hs).1
  have hnew : ∀ pair ∈ table stepIds made, pair.2.isWellFormed = true := fun pair hpair =>
    isWellFormed_correction identifiers (hold pair hpair) (mem_table.1 hpair).2
  rw [correct_eq_foldl fun s hs => (hmade s hs).2,
    Template.foldl_replaceAll hold hnew (Template.cut_segments text.toList), Template.fill]
  congr 1
  refine Template.fillSegments_congr fun t _ => ?_
  rw [Token.exchangeAll_eq (f := correction? stepIds) (fun pair hpair => (mem_table.1 hpair).2)
    fun pair hpair => correction?_eq_none (mem_table.1 hpair).2]
  rw [Token.write, String.toList_ofList]
  congr 1
  by_cases ht : t ∈ made.map Suggestion.token
  · rw [if_pos ht]
    cases hc : correction? stepIds t with
    | none => simp
    | some new =>
      obtain ⟨s, hs, htoken⟩ := List.mem_map.1 ht
      have hpair : (t, new) ∈ table stepIds made := mem_table.2 ⟨⟨s, hs, htoken⟩, hc⟩
      rw [if_pos (List.mem_map_of_mem hpair)]
  · rw [if_neg ht, if_neg]
    intro hmem
    obtain ⟨pair, hpair, rfl⟩ := List.mem_map.1 hmem
    obtain ⟨⟨s, hs, htoken⟩, -⟩ := mem_table.1 hpair
    exact ht (htoken ▸ List.mem_map_of_mem hs)

/-- All replacements together are the one replacement of all tokens that have a correction. -/
theorem correct_suggestions (identifiers : Identifiers stepIds) (field text : String) :
    correct text (suggestions stepIds field text) = rewrite stepIds text := by
  rw [correct_eq_fill identifiers (List.append_nil (suggestions stepIds field text)).symm, rewrite]
  refine Template.fill_congr fun t ht => ?_
  by_cases hmem : t ∈ (suggestions stepIds field text).map Suggestion.token
  · rw [if_pos hmem]
  · rw [if_neg hmem]
    cases hc : correction? stepIds t with
    | none => rfl
    | some new =>
      obtain ⟨s, hs⟩ := Option.isSome_iff_exists.1 (suggest?_of_correction? hc field)
      have hfound : s ∈ suggestions stepIds field text :=
        List.mem_filterMap.2 ⟨t, List.mem_eraseDups.2 ht, hs⟩
      exact absurd (List.mem_map.2 ⟨s, hfound, (of_suggest? hs).1⟩) hmem

theorem repairText_eq (identifiers : Identifiers stepIds) (field text : String) :
    repairText stepIds field text = (rewrite stepIds text, suggestions stepIds field text) :=
  congrArg (·, suggestions stepIds field text) (correct_suggestions identifiers field text)

/-! ## Counting -/

/-- The texts of the tokens of a text that are corrected, each once. -/
def rewrittenTexts (stepIds : List String) (text : String) : List String :=
  (((Template.tokens text).filter fun t => (correction? stepIds t).isSome).map Token.write).eraseDups

theorem length_corrected (stepIds : List String) (field text : String) :
    ((suggestions stepIds field text).filter Suggestion.isCorrected).length =
      (rewrittenTexts stepIds text).length := by
  have hwrite : ∀ t ∈ (Template.tokens text).filter fun t => (correction? stepIds t).isSome,
      ∀ u ∈ (Template.tokens text).filter fun t => (correction? stepIds t).isSome,
        t.write = u.write → t = u := fun t ht u hu =>
    Token.write_injective (Template.isWellFormed_of_mem (List.mem_of_mem_filter ht))
      (Template.isWellFormed_of_mem (List.mem_of_mem_filter hu))
  rw [rewrittenTexts, eraseDups_map hwrite, List.length_map, eraseDups_filter, suggestions]
  generalize (Template.tokens text).eraseDups = ts
  induction ts with
  | nil => rfl
  | cons t ts ih =>
    cases hc : correction? stepIds t with
    | none =>
      rw [List.filter_cons_of_neg (by simp [hc]), ← ih, List.filterMap_cons]
      cases hs : suggest? stepIds field t with
      | none => rfl
      | some s =>
        have hcorrected := (of_suggest? hs).2.2
        rw [hc] at hcorrected
        simp only [List.filter_cons_of_neg (show ¬ s.isCorrected = true by simp [hcorrected])]
    | some new =>
      obtain ⟨s, hs⟩ := Option.isSome_iff_exists.1 (suggest?_of_correction? hc field)
      have hcorrected := (of_suggest? hs).2.2
      rw [hc] at hcorrected
      rw [List.filter_cons_of_pos (by simp [hc]), List.length_cons, ← ih, List.filterMap_cons, hs]
      simp only [List.filter_cons_of_pos (show s.isCorrected = true by simp [hcorrected]),
        List.length_cons]

end Repair

end Runbook
