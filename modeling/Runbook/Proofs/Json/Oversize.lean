import Runbook.Proofs.Json.Lexical

/-!
# Integers of too many digits

A text is refused, though it is well formed, for an integer of too many digits only. `HoldsLong n` says that one of
`n` digits stands outside the strings of a text; whatever is refused for an integer of `n` digits holds it
(`holdsLong_of_read`).
-/

namespace Runbook.Json.Place

variable {cs ds start whole : List Char} {c : Char} {n fuel : Nat} {failure : Failure}

theorem error_of_map {ε α β : Type} {x : Except ε α} {f : α → β} {e : ε} (h : x.map f = .error e) : x = .error e := by
  cases x with
  | error e' => exact congrArg _ (Except.error.inj h)
  | ok a => cases h

/-- Is there an integer of `n` digits, and too many, outside the strings of a text? -/
def HoldsLong (n : Nat) (cs : List Char) : Prop :=
  ∃ digits rest, Leads outside cs outside (digits ++ rest) ∧ (∀ c ∈ digits, Decimal.isDigit c = true) ∧
    digits.length = n ∧ maxDigits < n

theorem HoldsLong.of_leads (h : Leads outside cs outside ds) (h' : HoldsLong n ds) : HoldsLong n cs := by
  obtain ⟨digits, rest, hleads, hdigits⟩ := h'
  exact ⟨digits, rest, h.trans hleads, hdigits⟩

theorem codeUnit_error (h : codeUnit cs = .error failure) : failure.problem = .badUnicodeEscape := by
  unfold codeUnit at h
  split at h
  · split at h
    · cases h
    · rw [← Except.error.inj h]
  · rw [← Except.error.inj h]

theorem unicodeEscape_error (h : unicodeEscape cs = .error failure) : failure.problem = .badUnicodeEscape := by
  unfold unicodeEscape at h
  cases hunit : codeUnit cs with
  | error e =>
    rw [hunit] at h
    exact Except.error.inj h ▸ codeUnit_error hunit
  | ok unit =>
    simp only [hunit, bind, Except.bind] at h
    split at h
    · rename_i more hmore
      split at h
      · cases hsecond : codeUnit ('u' :: more) with
        | error e =>
          rw [hsecond] at h
          exact Except.error.inj h ▸ codeUnit_error hsecond
        | ok second =>
          rw [hsecond] at h
          dsimp only at h
          split at h <;> cases h
      · cases h
    · cases h

theorem escape_error (h : escape start whole cs = .error failure) : failure.problem ≠ .integerTooLong n := by
  unfold escape at h
  split at h
  all_goals first
    | cases h
      done
    | rw [← Except.error.inj h]
      exact Problem.noConfusion
    | rw [unicodeEscape_error h]
      exact Problem.noConfusion

/-- No string is refused for an integer. -/
theorem stringTail_error {skip : Nat} (h : stringTail start skip cs = .error failure) :
    failure.problem ≠ .integerTooLong n := by
  induction cs generalizing skip with
  | nil => cases skip <;> exact Except.error.inj h ▸ Problem.noConfusion
  | cons c cs ih =>
    cases skip with
    | succ skip => exact ih h
    | zero =>
      simp only [stringTail] at h
      split_ifs at h with hquote hescape hcontrol
      · split at h
        · rename_i hmeant
          exact Except.error.inj h ▸ escape_error hmeant
        · exact ih (error_of_map h)
      · exact Except.error.inj h ▸ Problem.noConfusion
      · exact ih (error_of_map h)

theorem wholeDigits_eq (cs : List Char) : cs = (wholeDigits cs).1 ++ (wholeDigits cs).2 := by
  unfold wholeDigits
  split
  · rfl
  · exact List.takeWhile_append_dropWhile.symm

theorem isDigit_of_mem_wholeDigits (h : c ∈ (wholeDigits cs).1) : Decimal.isDigit c = true := by
  unfold wholeDigits at h
  split at h
  · rw [List.mem_singleton.1 h]
    rfl
  · exact List.mem_takeWhile_imp h

theorem number_error (h : number cs = .error failure) (hlong : failure.problem = .integerTooLong n) :
    HoldsLong n cs := by
  have hread := numberRead cs
  rw [h] at hread
  cases hread with
  | noDigits => cases hlong
  | tooLong long =>
    obtain rfl := Problem.integerTooLong.inj hlong
    exact ⟨_, _, wholeDigits_eq (unsigned cs) ▸ leads_unsigned cs, fun _ => isDigit_of_mem_wholeDigits, rfl, long⟩

/-- Does a text hold an integer of too many digits if it is refused, read with some fuel, for such an integer? -/
structure RefusesLong (fuel : Nat) : Prop where
  value : ∀ ⦃cs : List Char⦄ ⦃failure : Failure⦄ ⦃n : Nat⦄, value fuel cs = .error failure →
    failure.problem = .integerTooLong n → HoldsLong n cs
  elements : ∀ ⦃cs : List Char⦄ ⦃failure : Failure⦄ ⦃n : Nat⦄, elements fuel cs = .error failure →
    failure.problem = .integerTooLong n → HoldsLong n cs
  members : ∀ ⦃cs : List Char⦄ ⦃failure : Failure⦄ ⦃n : Nat⦄, members fuel cs = .error failure →
    failure.problem = .integerTooLong n → HoldsLong n cs

theorem string_error (h : string cs = .error failure) : failure.problem ≠ .integerTooLong n :=
  stringTail_error (error_of_map h)

theorem RefusesLong.succ_value (h : RefusesLong fuel) (hvalue : Json.value (fuel + 1) cs = .error failure)
    (hlong : failure.problem = .integerTooLong n) : HoldsLong n cs := by
  unfold Json.value at hvalue
  split at hvalue
  · exact absurd hlong (string_error (error_of_map hvalue))
  · refine .of_leads ((leads_cons rfl _).trans (leads_skipSpace _)) ?_
    split at hvalue
    · cases hvalue
    · exact h.members (error_of_map hvalue) hlong
  · refine .of_leads ((leads_cons rfl _).trans (leads_skipSpace _)) ?_
    split at hvalue
    · cases hvalue
    · exact h.elements (error_of_map hvalue) hlong
  iterate 6 · cases hvalue
  · exact number_error hvalue hlong

theorem RefusesLong.succ_elements (h : RefusesLong fuel) (helements : Json.elements (fuel + 1) cs = .error failure)
    (hlong : failure.problem = .integerTooLong n) : HoldsLong n cs := by
  unfold Json.elements at helements
  split at helements
  · rename_i hitem
    exact h.value hitem (Except.error.inj helements ▸ hlong)
  · rename_i hitem
    refine .of_leads ((takes fuel).value hitem).leads ?_
    split at helements
    · cases helements
    · rename_i hskip
      exact .of_leads ((leads_of_skipSpace hskip rfl).trans (leads_skipSpace _))
        (h.elements (error_of_map helements) hlong)
    · rw [← Except.error.inj helements] at hlong
      cases hlong

theorem RefusesLong.succ_members (h : RefusesLong fuel) (hmembers : Json.members (fuel + 1) cs = .error failure)
    (hlong : failure.problem = .integerTooLong n) : HoldsLong n cs := by
  unfold Json.members at hmembers
  split at hmembers
  · split at hmembers
    · rename_i hname
      exact absurd (Except.error.inj hmembers ▸ hlong) (string_error hname)
    · rename_i hname
      refine .of_leads ((leads_cons rfl _).trans (leads_string hname)) ?_
      split at hmembers
      · rename_i hcolon
        refine .of_leads ((leads_of_skipSpace hcolon rfl).trans (leads_skipSpace _)) ?_
        split at hmembers
        · rename_i hitem
          exact h.value hitem (Except.error.inj hmembers ▸ hlong)
        · rename_i hitem
          refine .of_leads ((takes fuel).value hitem).leads ?_
          split at hmembers
          · cases hmembers
          · rename_i hskip
            exact .of_leads ((leads_of_skipSpace hskip rfl).trans (leads_skipSpace _))
              (h.members (error_of_map hmembers) hlong)
          · rw [← Except.error.inj hmembers] at hlong
            cases hlong
      · rw [← Except.error.inj hmembers] at hlong
        cases hlong
  · rw [← Except.error.inj hmembers] at hlong
    cases hlong

theorem refusesLong (fuel : Nat) : RefusesLong fuel := by
  induction fuel with
  | zero =>
    refine ⟨?_, ?_, ?_⟩
    · rintro cs failure n ⟨⟩ ⟨⟩
    · rintro cs failure n ⟨⟩ ⟨⟩
    · rintro cs failure n ⟨⟩ ⟨⟩
  | succ fuel ih => exact ⟨fun _ _ _ => ih.succ_value, fun _ _ _ => ih.succ_elements, fun _ _ _ => ih.succ_members⟩

/-- A text that is refused though it is well formed holds an integer of too many digits outside its strings. -/
theorem holdsLong_of_read {text : String} {error : ReadError} (h : read text = .error error)
    (hrefused : error.isSyntax = false) : ∃ n, error.problem = .integerTooLong n ∧ HoldsLong n text.toList := by
  obtain ⟨n, hproblem⟩ : ∃ n, error.problem = .integerTooLong n := by
    unfold ReadError.isSyntax at hrefused
    split at hrefused
    · exact ⟨_, ‹_›⟩
    · cases hrefused
  refine ⟨n, hproblem, ?_⟩
  cases hread : readChars text.toList with
  | ok json =>
    rw [read, hread] at h
    cases h
  | error failure =>
    rw [read, hread] at h
    have hlong : failure.problem = .integerTooLong n := by
      rw [← Except.error.inj h] at hproblem
      exact hproblem
    unfold readChars at hread
    split at hread
    · rw [← Except.error.inj hread] at hlong
      cases hlong
    · cases hvalue : value (2 * text.toList.length + 2) (skipSpace text.toList) with
      | error failure' =>
        rw [hvalue] at hread
        obtain rfl := Except.error.inj hread
        exact .of_leads (leads_skipSpace _) ((refusesLong _).value hvalue hlong)
      | ok pair =>
        rw [hvalue] at hread
        simp only [bind, Except.bind] at hread
        split at hread
        · cases hread
        · rw [← Except.error.inj hread] at hlong
          cases hlong

end Runbook.Json.Place
