import Runbook.Proofs.Json.Rendering

/-!
# Passes over renderings

A pass reads a text from the front and writes another. `Respects f literal literal'` says that the pass `f` copies
what stands between the literals of a rendering, and makes of a literal of one kind a literal of another kind for
the same text. `Respects.renders`: such a pass makes of every rendering a rendering of the same value, whatever
follows.
-/

namespace Runbook.Json

/-- The characters that a pass may take for more than themselves. -/
def special : List Char :=
  ['"', '\'', '`', '\\', '{', ',']

/-- A character of ASCII that stands for itself. -/
def IsPlain (c : Char) : Prop :=
  c.toNat < 0x7F ∧ c ∉ special

instance (c : Char) : Decidable (IsPlain c) :=
  inferInstanceAs (Decidable (c.toNat < 0x7F ∧ c ∉ special))

variable {gap cs rest : List Char} {part : Part} {f : List Char → List Char}
  {literal literal' : List Char → String → Prop}

theorem isPlain_of_isSpace {c : Char} (h : isSpace c = true) : IsPlain c := by
  simp only [isSpace, Bool.or_eq_true, beq_iff_eq] at h
  obtain ((rfl | rfl) | rfl) | rfl := h <;> decide

theorem isPlain_of_isDigit {c : Char} (h : Decimal.isDigit c = true) : IsPlain c := by
  rw [Decimal.isDigit_eq_isDigit] at h
  have hrange : 48 ≤ c.toNat ∧ c.toNat ≤ 57 := by
    simpa [Char.isDigit, UInt32.le_iff_toNat_le] using h
  refine ⟨by omega, fun hspecial => ?_⟩
  simp only [special, List.mem_cons, List.not_mem_nil, or_false] at hspecial
  obtain rfl | rfl | rfl | rfl | rfl | rfl := hspecial <;> exact absurd hrange (by decide)

theorem isPlain_of_mem_words {word : String} {json : Json} (h : (word, json) ∈ words) :
    ∀ c ∈ word.toList, IsPlain c := by
  have hall : (words.map Prod.fst).all (fun word => word.toList.all fun c => decide (IsPlain c)) = true := by
    decide
  have hword := List.all_eq_true.1 hall word (List.mem_map_of_mem (f := Prod.fst) h)
  exact fun c hc => of_decide_eq_true (List.all_eq_true.1 hword c hc)

theorem isPlain_of_mem_exponent (e : Exponent) : ∀ c ∈ e.text, IsPlain c := by
  rw [Exponent.text, List.forall_mem_cons, List.forall_mem_append]
  refine ⟨?_, fun c hc => ?_, fun c hc => isPlain_of_isDigit (e.areDigits c hc)⟩
  · rcases e.letter_eq with heq | heq <;> rw [heq] <;> decide
  · rcases e.sign_eq c (by simpa using hc) with rfl | rfl <;> decide

theorem isPlain_of_mem_numeral (n : Numeral) : ∀ c ∈ n.text, IsPlain c := by
  simp only [n.text_eq, List.forall_mem_append]
  refine ⟨?_, fun c hc => isPlain_of_isDigit (n.whole_areDigits c hc), ?_, ?_⟩
  · intro c hc
    obtain rfl : c = '-' := by
      cases hnegative : n.negative <;> simp_all
    decide
  · unfold Numeral.fractionText
    split
    · simp
    · rw [List.forall_mem_cons]
      exact ⟨by decide, fun c hc => isPlain_of_isDigit (n.fraction_areDigits c hc)⟩
  · unfold Numeral.exponentText
    cases n.exponent with
    | none => simp
    | some e => exact isPlain_of_mem_exponent e

/-- Does a pass copy what stands between literals, and make other literals of them? A comma and an opening brace
are copied where they stand in a rendering. -/
structure Respects (f : List Char → List Char) (literal literal' : List Char → String → Prop) : Prop where
  plain : ∀ c rest, IsPlain c → f (c :: rest) = c :: f rest
  comma : ∀ gap cs rest, IsGap gap →
    ((∃ items, Renders literal cs (.items items)) ∨ ∃ fields, Renders literal cs (.members fields)) →
    f (',' :: (gap ++ (cs ++ rest))) = ',' :: f (gap ++ (cs ++ rest))
  brace : ∀ gap cs rest, IsGap gap → (cs = ['}'] ∨ ∃ fields, Renders literal cs (.members fields)) →
    f ('{' :: (gap ++ (cs ++ rest))) = '{' :: f (gap ++ (cs ++ rest))
  literal : ∀ cs text, literal cs text → ∃ ds, literal' ds text ∧ ∀ rest, f (cs ++ rest) = ds ++ f rest

namespace Respects

theorem append_of_plain (h : Respects f literal literal') (hcs : ∀ c ∈ cs, IsPlain c) (rest : List Char) :
    f (cs ++ rest) = cs ++ f rest := by
  induction cs with
  | nil => rfl
  | cons c cs ih =>
    rw [List.forall_mem_cons] at hcs
    rw [List.cons_append, h.plain c _ hcs.1, ih hcs.2, List.cons_append]

theorem append_of_isGap (h : Respects f literal literal') (hgap : IsGap gap) (rest : List Char) :
    f (gap ++ rest) = gap ++ f rest :=
  h.append_of_plain (fun c hc => isPlain_of_isSpace (hgap c hc)) rest

/-- A pass that respects renderings makes a rendering of a rendering. -/
theorem renders (h : Respects f literal literal') (hcs : Renders literal cs part) :
    ∃ ds, Renders literal' ds part ∧ ∀ rest, f (cs ++ rest) = ds ++ f rest := by
  have hgap (gap : List Char) (hgap : IsGap gap) (rest : List Char) : f (gap ++ rest) = gap ++ f rest :=
    h.append_of_isGap hgap rest
  have hclose (rest : List Char) : f (']' :: rest) = ']' :: f rest := h.plain ']' rest (by decide)
  have hclose' (rest : List Char) : f ('}' :: rest) = '}' :: f rest := h.plain '}' rest (by decide)
  have hcolon (rest : List Char) : f (':' :: rest) = ':' :: f rest := h.plain ':' rest (by decide)
  have hopen (rest : List Char) : f ('[' :: rest) = '[' :: f rest := h.plain '[' rest (by decide)
  induction hcs with
  | @word word json hword =>
    exact ⟨word.toList, .word hword, h.append_of_plain (isPlain_of_mem_words hword)⟩
  | numeral n hfits => exact ⟨n.text, .numeral n hfits, h.append_of_plain (isPlain_of_mem_numeral n)⟩
  | @str cs text hliteral =>
    obtain ⟨ds, hds, hf⟩ := h.literal cs text hliteral
    exact ⟨ds, .str hds, hf⟩
  | @emptyList gap hg =>
    refine ⟨'[' :: (gap ++ [']']), .emptyList hg, fun rest => ?_⟩
    simp [hopen, hgap gap hg, hclose]
  | @list gap cs items hg _ ih =>
    obtain ⟨ds, hds, hf⟩ := ih
    refine ⟨'[' :: (gap ++ ds), .list hg hds, fun rest => ?_⟩
    simp [hopen, hgap gap hg, hf]
  | @emptyRecord gap hg =>
    refine ⟨'{' :: (gap ++ ['}']), .emptyRecord hg, fun rest => ?_⟩
    rw [List.cons_append, List.append_assoc, h.brace gap ['}'] rest hg (.inl rfl), hgap gap hg]
    simp [hclose']
  | @record gap cs fields hg hrenders ih =>
    obtain ⟨ds, hds, hf⟩ := ih
    refine ⟨'{' :: (gap ++ ds), .record hg hds, fun rest => ?_⟩
    rw [List.cons_append, List.append_assoc, h.brace gap cs rest hg (.inr ⟨fields, hrenders⟩), hgap gap hg, hf]
    simp
  | @lastItem gap cs item hg _ ih =>
    obtain ⟨ds, hds, hf⟩ := ih
    refine ⟨ds ++ (gap ++ [']']), .lastItem hg hds, fun rest => ?_⟩
    simp [hf, hgap gap hg, hclose]
  | @item before after cs cs' item items hbefore hafter _ hrenders ih ihrest =>
    obtain ⟨ds, hds, hf⟩ := ih
    obtain ⟨ds', hds', hf'⟩ := ihrest
    refine ⟨ds ++ (before ++ ',' :: (after ++ ds')), .item hbefore hafter hds hds', fun rest => ?_⟩
    have hcomma := h.comma after cs' rest hafter (.inl ⟨items, hrenders⟩)
    simp only [List.append_assoc, List.cons_append, hf, hgap before hbefore, hcomma, hgap after hafter, hf']
  | @lastMember before after gap key cs name item hbefore hafter hg hkey _ ih =>
    obtain ⟨ds, hds, hf⟩ := ih
    obtain ⟨key', hkey', hfkey⟩ := h.literal key name hkey
    refine ⟨key' ++ (before ++ ':' :: (after ++ (ds ++ (gap ++ ['}'])))),
      .lastMember hbefore hafter hg hkey' hds, fun rest => ?_⟩
    simp only [List.append_assoc, List.cons_append, List.nil_append, hfkey, hgap before hbefore, hcolon,
      hgap after hafter, hf, hgap gap hg, hclose']
  | @member before after gap next key cs cs' name item fields hbefore hafter hg hnext hkey _ hrenders ih ihrest =>
    obtain ⟨ds, hds, hf⟩ := ih
    obtain ⟨ds', hds', hf'⟩ := ihrest
    obtain ⟨key', hkey', hfkey⟩ := h.literal key name hkey
    refine ⟨key' ++ (before ++ ':' :: (after ++ (ds ++ (gap ++ ',' :: (next ++ ds'))))),
      .member hbefore hafter hg hnext hkey' hds hds', fun rest => ?_⟩
    have hcomma := h.comma next cs' rest hnext (.inr ⟨fields, hrenders⟩)
    simp only [List.append_assoc, List.cons_append, hfkey, hgap before hbefore, hcolon, hgap after hafter, hf,
      hgap gap hg, hcomma, hgap next hnext, hf']

end Respects

end Runbook.Json
