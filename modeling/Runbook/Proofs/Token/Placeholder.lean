import Runbook.Proofs.Token.Grammar
import Runbook.Token.Placeholder

/-!
# Placeholders in a filled text

* `Occurs` — a placeholder stands in a text; `scan_eq_nil_iff` says that these are the texts in which
  scanning finds one.
* `Template.Splits` — tokens between the `$` and the `{` of a placeholder. With no tokens between them it
  is a placeholder of the text itself that is no token, and a text whose placeholders are tokens has none
  (`not_splits_nil`).
* `not_occurs_fillSegments` — if no tokens split a placeholder, then none is left once the tokens are
  replaced by characters other than `$`, `{` and `}`.
-/

namespace Runbook

namespace Placeholder

/-- Is every placeholder of the text a token? -/
def WellFormed (text : String) : Prop :=
  ∀ p ∈ scan text, (Token.parse? (p.slice text)).isSome = true

/-- Does a placeholder stand somewhere in the text: `${`, and later a closing brace? -/
def Occurs (cs : List Char) : Prop :=
  ∃ before inner after, cs = before ++ '$' :: '{' :: (inner ++ '}' :: after)

/-- Are these characters none of those that placeholders are told by? -/
def Unmarked (cs : List Char) : Prop :=
  '$' ∉ cs ∧ '{' ∉ cs ∧ '}' ∉ cs

instance (text : String) : Decidable (WellFormed text) :=
  inferInstanceAs (Decidable (∀ p ∈ scan text, (Token.parse? (p.slice text)).isSome = true))

instance (cs : List Char) : Decidable (Unmarked cs) :=
  inferInstanceAs (Decidable ('$' ∉ cs ∧ '{' ∉ cs ∧ '}' ∉ cs))

variable {c : Char} {cs : List Char}

theorem not_occurs_nil : ¬ Occurs [] := by
  rintro ⟨before, inner, after, h⟩
  simp at h

/-- A placeholder starts with the first character or stands after it. -/
theorem occurs_cons : Occurs (c :: cs) ↔
    (c = '$' ∧ ∃ rest, cs = '{' :: rest ∧ '}' ∈ rest) ∨ Occurs cs := by
  constructor
  · rintro ⟨before, inner, after, h⟩
    cases before with
    | nil =>
      obtain ⟨rfl, rfl⟩ := List.cons.inj h
      exact .inl ⟨rfl, _, rfl, by simp⟩
    | cons first before =>
      obtain ⟨-, rfl⟩ := List.cons.inj h
      exact .inr ⟨before, inner, after, rfl⟩
  · rintro (⟨rfl, rest, rfl, hmem⟩ | ⟨before, inner, after, rfl⟩)
    · obtain ⟨inner, after, rfl⟩ := List.append_of_mem hmem
      exact ⟨[], inner, after, rfl⟩
    · exact ⟨c :: before, inner, after, rfl⟩

theorem brace_mem_of_occurs (h : Occurs cs) : '}' ∈ cs := by
  obtain ⟨before, inner, after, rfl⟩ := h
  simp

theorem occurs_append_of_notMem {start : List Char} (h : '$' ∉ start) :
    Occurs (start ++ cs) ↔ Occurs cs := by
  induction start with
  | nil => rfl
  | cons c start ih =>
    rw [List.mem_cons, not_or] at h
    rw [List.cons_append, occurs_cons, ih h.2]
    exact or_iff_right fun hc => h.1 hc.1.symm

/-! ## Scanning -/

theorem closeFrom_eq_nil_iff {start position : Nat} :
    closeFrom start position cs = [] ↔ '}' ∉ cs := by
  induction cs generalizing position with
  | nil => simp [closeFrom]
  | cons c cs ih =>
    rw [closeFrom, List.mem_cons]
    by_cases hc : c = '}'
    · simp [hc]
    · rw [if_neg hc, ih]
      simp [Ne.symm hc]

/-- The first closing brace ends a placeholder. -/
theorem closeFrom_append {start position : Nat} {inner after : List Char} (h : '}' ∉ inner) :
    closeFrom start position (inner ++ '}' :: after) =
      ⟨start, position + inner.length + 1⟩ :: scanFrom (position + inner.length + 1) after := by
  induction inner generalizing position with
  | nil => rfl
  | cons c inner ih =>
    rw [List.mem_cons, not_or] at h
    rw [List.cons_append, closeFrom, if_neg (Ne.symm h.1), ih h.2, List.length_cons]
    congr 2 <;> omega

/-- Where no placeholder opens, scanning goes on with the next character. -/
theorem scanFrom_cons {position : Nat} (h : ¬ (c = '$' ∧ ∃ rest, cs = '{' :: rest)) :
    scanFrom position (c :: cs) = scanFrom (position + 1) cs := by
  rw [scanFrom]
  rintro rest rfl rfl
  exact h ⟨rfl, rest, rfl⟩

theorem scanFrom_eq_nil_iff {position : Nat} : scanFrom position cs = [] ↔ ¬ Occurs cs := by
  induction cs generalizing position with
  | nil => simp [scanFrom, not_occurs_nil]
  | cons c cs ih =>
    rw [occurs_cons]
    by_cases h : c = '$' ∧ ∃ rest, cs = '{' :: rest
    · obtain ⟨rfl, rest, rfl⟩ := h
      rw [scanFrom, closeFrom_eq_nil_iff, not_or]
      refine ⟨fun hclose => ⟨?_, fun h => ?_⟩, fun h hclose => h.1 ⟨rfl, rest, rfl, hclose⟩⟩
      · rintro ⟨-, rest', hrest, hmem⟩
        obtain rfl := (List.cons.inj hrest).2
        exact hclose hmem
      · exact hclose ((List.mem_cons.1 (brace_mem_of_occurs h)).resolve_left (by decide))
    · rw [scanFrom_cons h, ih, not_or]
      refine (and_iff_right ?_).symm
      rintro ⟨hc, rest, hrest, -⟩
      exact h ⟨hc, rest, hrest⟩

/-- Scanning finds a placeholder exactly in the texts in which one stands. -/
theorem scan_eq_nil_iff {text : String} : scan text = [] ↔ ¬ Occurs text.toList :=
  scanFrom_eq_nil_iff

instance (cs : List Char) : Decidable (Occurs cs) :=
  decidable_of_iff (scanFrom 0 cs ≠ []) (by rw [ne_eq, scanFrom_eq_nil_iff, not_not])

/-- Scanning passes over a token. -/
theorem scanFrom_append {position : Nat} {t : Token} (h : t.isWellFormed = true) (cs : List Char) :
    scanFrom position (t.chars ++ cs) =
      ⟨position, position + t.chars.length⟩ :: scanFrom (position + t.chars.length) cs := by
  obtain ⟨inner, hbody, hinner⟩ := Token.body_eq_append h
  have hclose : '}' ∉ inner := by
    intro hmem
    rcases hinner _ hmem with hc | hc <;> revert hc <;> decide
  have hlength : t.chars.length = 2 + inner.length + 1 := by
    rw [Token.length_chars, hbody, List.length_append, List.length_singleton]
    omega
  have hcs : t.chars ++ cs = '$' :: '{' :: (inner ++ '}' :: cs) := by
    rw [Token.chars_eq, hbody]
    simp
  rw [hcs, hlength, scanFrom, closeFrom_append hclose]
  simp only [Nat.add_assoc]

/-- What stands at a place is cut out. -/
theorem slice_append (start cs after : List Char) :
    slice (String.ofList (start ++ (cs ++ after))) ⟨start.length, start.length + cs.length⟩ =
      String.ofList cs := by
  simp [slice, List.take_append]

/-- A text that starts with `${` and is a token by itself is read as one. -/
theorem read?_of_parse? {inner : List Char} {t : Token}
    (h : Token.parse? (String.ofList ('$' :: '{' :: (inner ++ ['}']))) = some t) :
    Token.read? ('$' :: '{' :: (inner ++ ['}'])) = some (t, []) := by
  rw [Token.parse?_eq_read?, Text.trim, String.toList_ofList, String.toList_ofList,
    Token.trimChars_braced] at h
  exact h

end Placeholder

namespace Template

open Placeholder (Occurs Unmarked)

/-- Do these tokens split a placeholder: is its `$` right before them, and its `{` right after them? -/
def Splits (ts : List Token) (found : List Segment) : Prop :=
  ∃ before after, found = before ++ .char '$' :: (ts.map .token ++ .char '{' :: after) ∧
    .char '}' ∈ after

variable {ts : List Token} {c : Char} {cs : List Char} {t : Token} {found : List Segment}

theorem Splits.cons (segment : Segment) (h : Splits ts found) : Splits ts (segment :: found) := by
  obtain ⟨before, after, rfl, hmem⟩ := h
  exact ⟨segment :: before, after, rfl, hmem⟩

theorem mem_fillSegments {f : Token → List Char} :
    c ∈ fillSegments f found ↔ .char c ∈ found ∨ ∃ t, .token t ∈ found ∧ c ∈ f t := by
  rw [fillSegments, List.mem_flatMap]
  constructor
  · rintro ⟨a | t, hmem, hc⟩
    · exact .inl (List.mem_singleton.1 hc ▸ hmem)
    · exact .inr ⟨t, hmem, hc⟩
  · rintro (hmem | ⟨t, hmem, hc⟩)
    · exact ⟨_, hmem, List.mem_singleton_self c⟩
    · exact ⟨_, hmem, hc⟩

/-! ## Texts whose placeholders are tokens -/

theorem splits_nil_cons {segment : Segment} : Splits [] (segment :: found) ↔
    (segment = .char '$' ∧ ∃ after, found = .char '{' :: after ∧ .char '}' ∈ after) ∨
      Splits [] found := by
  constructor
  · rintro ⟨before, after, h, hmem⟩
    cases before with
    | nil =>
      obtain ⟨rfl, rfl⟩ := List.cons.inj h
      exact .inl ⟨rfl, after, rfl, hmem⟩
    | cons first before =>
      obtain ⟨-, rfl⟩ := List.cons.inj h
      exact .inr ⟨before, after, rfl, hmem⟩
  · rintro (⟨rfl, after, rfl, hmem⟩ | h)
    · exact ⟨[], after, rfl, hmem⟩
    · exact h.cons segment

/-- A placeholder that is no token is found where it opens. -/
theorem notMem_of_wellFormed {start rest : List Char}
    (noToken : Token.read? ('$' :: '{' :: rest) = none)
    (wellFormed : ∀ p ∈ Placeholder.scanFrom start.length ('$' :: '{' :: rest),
      (Token.parse? (p.slice (String.ofList (start ++ '$' :: '{' :: rest)))).isSome = true) :
    '}' ∉ rest := by
  intro hclose
  obtain ⟨inner, after, rfl, hinner⟩ := List.eq_append_cons_of_mem hclose
  rw [Placeholder.scanFrom, Placeholder.closeFrom_append hinner] at wellFormed
  have hparse := wellFormed _ List.mem_cons_self
  have hslice : Placeholder.slice (String.ofList (start ++ '$' :: '{' :: (inner ++ '}' :: after)))
      ⟨start.length, start.length + 2 + inner.length + 1⟩ =
        String.ofList ('$' :: '{' :: (inner ++ ['}'])) := by
    have hstop : start.length + 2 + inner.length + 1 =
        start.length + ('$' :: '{' :: (inner ++ ['}'])).length := by
      simp
      omega
    have htext : start ++ '$' :: '{' :: (inner ++ '}' :: after) =
        start ++ ('$' :: '{' :: (inner ++ ['}']) ++ after) := by simp
    rw [hstop, htext, Placeholder.slice_append]
  rw [hslice] at hparse
  obtain ⟨t, ht⟩ := Option.isSome_iff_exists.1 hparse
  obtain ⟨hwf, hchars⟩ := Token.read?_eq_some_iff.1 (Placeholder.read?_of_parse? ht)
  have hread := Token.read?_append hwf after
  rw [List.append_nil] at hchars
  rw [← hchars] at hread
  simp [noToken] at hread

/-- Where the placeholders of a text are tokens, there is no other placeholder among its segments. -/
theorem not_splits_nil_of_cut (start : List Char) (h : Cut cs found)
    (wellFormed : ∀ p ∈ Placeholder.scanFrom start.length cs,
      (Token.parse? (p.slice (String.ofList (start ++ cs)))).isSome = true) :
    ¬ Splits [] found := by
  induction h generalizing start with
  | nil =>
    rintro ⟨before, after, h, -⟩
    simp at h
  | @char c cs segments noToken rest ih =>
    by_cases hopen : c = '$' ∧ ∃ after, cs = '{' :: after
    · obtain ⟨rfl, after, rfl⟩ := hopen
      have hclose := notMem_of_wellFormed noToken wellFormed
      rintro ⟨before, later, h, hmem⟩
      have hfound : Segment.char '}' ∈ Segment.char '$' :: segments := by
        rw [h]
        simp [hmem]
      have hsegments := (List.mem_cons.1 hfound).resolve_left (by decide)
      have hafter : '}' ∈ '{' :: after := rest.fill ▸ mem_fillSegments.2 (.inl hsegments)
      exact hclose ((List.mem_cons.1 hafter).resolve_left (by decide))
    · rw [Placeholder.scanFrom_cons hopen] at wellFormed
      rw [splits_nil_cons, not_or]
      refine ⟨?_, ih (start ++ [c]) (by simpa using wellFormed)⟩
      rintro ⟨hc, after, rfl, -⟩
      obtain rfl := Segment.char.inj hc
      cases rest
      exact hopen ⟨rfl, _, rfl⟩
  | @token t cs segments hwf rest ih =>
    rw [splits_nil_cons, not_or]
    refine ⟨fun h => (nomatch h.1), ih (start ++ t.chars) ?_⟩
    rw [Placeholder.scanFrom_append hwf, ← List.append_assoc, ← List.length_append] at wellFormed
    exact fun p hp => wellFormed p (List.mem_cons_of_mem _ hp)

/-- In a text whose placeholders are tokens, every other placeholder is split by tokens. -/
theorem not_splits_nil {text : String} (h : Placeholder.WellFormed text) :
    ¬ Splits [] (segments text.toList) :=
  not_splits_nil_of_cut [] (cut_segments text.toList) (by
    rw [List.nil_append, String.ofList_toList]
    exact h)

/-! ## Filled texts -/

variable {f : Token → List Char}

/-- What a filled text starts with, if it starts with a brace: tokens that came to nothing, and the brace. -/
theorem exists_of_fillSegments_eq_cons {rest : List Char}
    (unmarked : ∀ t, Segment.token t ∈ found → Unmarked (f t))
    (h : fillSegments f found = '{' :: rest) :
    ∃ (ts : List Token) (after : List Segment),
      found = ts.map .token ++ .char '{' :: after ∧ fillSegments f after = rest := by
  induction found with
  | nil => cases h
  | cons segment found ih =>
    cases segment with
    | char c =>
      rw [fillSegments_cons_char] at h
      obtain ⟨rfl, rfl⟩ := List.cons.inj h
      exact ⟨[], found, rfl, rfl⟩
    | token t =>
      rw [fillSegments_cons_token] at h
      cases hf : f t with
      | nil =>
        rw [hf, List.nil_append] at h
        obtain ⟨ts, after, rfl, hafter⟩ := ih (fun t ht => unmarked t (List.mem_cons_of_mem _ ht)) h
        exact ⟨t :: ts, after, rfl, hafter⟩
      | cons c cs =>
        rw [hf] at h
        obtain ⟨rfl, -⟩ := List.cons.inj h
        exact absurd (hf ▸ List.mem_cons_self) (unmarked t List.mem_cons_self).2.1

/-- **If no tokens split a placeholder, no placeholder is left** once they are replaced by unmarked
characters. -/
theorem not_occurs_fillSegments (whole : ∀ ts, ¬ Splits ts found)
    (unmarked : ∀ t, Segment.token t ∈ found → Unmarked (f t)) : ¬ Occurs (fillSegments f found) := by
  induction found with
  | nil => exact Placeholder.not_occurs_nil
  | cons segment found ih =>
    have hrest : ∀ t, Segment.token t ∈ found → Unmarked (f t) :=
      fun t ht => unmarked t (List.mem_cons_of_mem _ ht)
    have hnot := ih (fun ts hts => whole ts (hts.cons segment)) hrest
    cases segment with
    | token t =>
      rwa [fillSegments_cons_token, Placeholder.occurs_append_of_notMem (unmarked t List.mem_cons_self).1]
    | char c =>
      rw [fillSegments_cons_char, Placeholder.occurs_cons, not_or]
      refine ⟨?_, hnot⟩
      rintro ⟨rfl, rest, hopen, hclose⟩
      -- the braces can only be characters of the text, so tokens stand between them and the `$`
      obtain ⟨ts, after, rfl, rfl⟩ := exists_of_fillSegments_eq_cons hrest hopen
      refine whole ts ⟨[], after, rfl, (mem_fillSegments.1 hclose).resolve_right ?_⟩
      rintro ⟨t, ht, hmem⟩
      exact (hrest t (by simp [ht])).2.2 hmem

/-- Tokens that split a placeholder let it come about when they come to nothing. -/
example : fill (fun _ => "") "$${x}{y}" = "${y}" := by decide +kernel

/-- A text without tokens whose placeholders are tokens has no placeholder. -/
theorem not_occurs_of_not_hasTokens {text : String} (wellFormed : Placeholder.WellFormed text)
    (h : hasTokens text = false) : ¬ Occurs text.toList := by
  have htokens : tokens text = [] := by simpa [hasTokens] using h
  have hnone : ∀ t, Segment.token t ∉ segments text.toList := fun t ht => by
    simpa [htokens] using mem_tokens.2 ht
  rw [← (cut_segments text.toList).fill]
  refine not_occurs_fillSegments (fun ts hts => ?_) fun t ht => absurd ht (hnone t)
  cases ts with
  | nil => exact not_splits_nil wellFormed hts
  | cons t ts =>
    obtain ⟨before, after, hfound, -⟩ := hts
    exact hnone t (by simp [hfound])

end Template

end Runbook
