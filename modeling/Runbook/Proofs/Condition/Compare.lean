import Runbook.Proofs.Condition.Parse

/-!
# Comparisons and their operands

* `parse_compare` — a comparison between two operands is read as such.
* `compare_numbers`, `compare_texts`, `compare_error` — what an ordering compares.
* `eval_leading` — a comparison without its left operand is none: it is a text that is true by itself, or after
  `!` the opposite of one.
* `lex_word` and `lex_enclosed` — words, and texts in quotes without that quote inside, are single lexemes, and
  so they are operands.
-/

namespace Runbook.Condition

variable {op other : String} {cs left right : List Char} {c : Char}

/-! ## Texts that are not split -/

/-- A text without operators is not split. -/
theorem Undivided.length_split (h : Undivided cs) (op : String) : (split op cs).length < 2 := by
  have hle := List.length_filterMap_le (cover cs) (groups op.toList (lex cs))
  rw [groups_of_free (h.free op), List.length_singleton] at hle
  rw [split, groups_of_free (h.free op)]
  omega

/-- Only two parts make up a comparison. -/
theorem compared_eq_none {parts : List (List Char)} (h : parts.length < 2) (op : Comparison) :
    (match parts with
      | [left, right] => some (Expr.compare op (operand left) (operand right))
      | _ => none) = none := by
  split
  · exact absurd h (Nat.lt_irrefl 2)
  · rfl

theorem comparison?_eq_none (h : ∀ op, (split op cs).length < 2) : comparison? cs = none :=
  List.findSome?_eq_none_iff.2 fun op _ => compared_eq_none (h op.symbol) op

/-- What no operator splits is a text that is true or not by itself. -/
theorem parse_truthy (htrim : Text.trimChars cs = cs) (hblank : ' ' ∈ cs) (hfirst : cs.head? ≠ some '!')
    (h : ∀ op, (split op cs).length < 2) : parse (String.ofList cs) = .truthy (String.ofList cs) := by
  rw [parse_of_head? htrim hblank hfirst, parseParts, if_neg (Nat.not_le.2 (h _)),
    if_neg (Nat.not_le.2 (h _)), comparison?_eq_none h]
  rfl

/-- A text with a blank in it is true. -/
theorem eval_truthy (hblank : ' ' ∈ cs) : (Expr.truthy (String.ofList cs)).eval = .ok true := by
  have hnone : ∀ text ∈ emptyTexts, ' ' ∉ text.toList := by decide
  have hempty : emptyTexts.contains (String.ofList cs) = false := by
    rw [List.contains_eq_any_beq, List.any_eq_false]
    intro text htext heq
    refine hnone text htext ?_
    rwa [← beq_iff_eq.1 heq, String.toList_ofList]
  rw [Expr.eval, hempty]
  rfl

/-! ## Two operands -/

theorem comparison?_eq_some {op : Comparison} (hop : split op.symbol cs = [left, right])
    (hothers : ∀ other, other ≠ op → (split other.symbol cs).length < 2) :
    comparison? cs = some (.compare op (operand left) (operand right)) := by
  have hmem : op ∈ Comparison.all := by cases op <;> decide
  obtain ⟨before, after, hall, hbefore⟩ := List.eq_append_cons_of_mem hmem
  exact List.findSome?_eq_some_iff.2 ⟨before, op, after, hall, by rw [hop], fun other hother =>
    compared_eq_none (hothers other fun heq => hbefore (heq ▸ hother)) other⟩

/-- A comparison between two operands is read as such. -/
theorem parse_compare (op : Comparison) (hleft : IsPart left) (hright : IsPart right)
    (undividedLeft : Undivided left) (undividedRight : Undivided right) (hfirst : left.head? ≠ some '!') :
    parse (String.ofList (left ++ spaced op.symbol ++ right)) =
      .compare op (operand left) (operand right) := by
  have htrim := Text.trimChars_append hleft.trimmed hright.trimmed hleft.nonempty hright.nonempty
    (spaced op.symbol)
  have hsplit : split op.symbol (left ++ spaced op.symbol ++ right) = [left, right] := by
    rw [split_append op.isSymbol hleft (undividedLeft.free _),
      split_eq_singleton hright.nonempty hright.trimmed (undividedRight.free _)]
  have hothers : ∀ other, other ≠ op.symbol →
      (split other (left ++ spaced op.symbol ++ right)).length < 2 := by
    intro other hne
    rw [split_eq_singleton (by simp [hleft.nonempty]) htrim (free_append_spaced op.isSymbol hne
      hleft.closed (undividedLeft.free _) (undividedRight.free _))]
    exact Nat.lt_succ_self 1
  have hcomparison := comparison?_eq_some hsplit fun other hne =>
    hothers other.symbol (by revert hne; cases other <;> cases op <;> decide)
  have hblank : ' ' ∈ left ++ spaced op.symbol ++ right := by simp [spaced]
  have hhead : (left ++ spaced op.symbol ++ right).head? ≠ some '!' := by
    rwa [List.append_assoc, List.head?_append_of_ne_nil _ hleft.nonempty]
  have hand := hothers "&&" (by cases op <;> decide)
  have hor := hothers "||" (by cases op <;> decide)
  rw [parse_of_head? htrim hblank hhead, parseParts, if_neg (Nat.not_le.2 hand),
    if_neg (Nat.not_le.2 hor), hcomparison, Option.getD_some]

/-! ## The orderings -/

/-- Is a comparison one of the orderings? Only these look at numbers. -/
def Comparison.IsOrdering (op : Comparison) : Prop :=
  op ≠ .eq ∧ op ≠ .ne

instance (op : Comparison) : Decidable op.IsOrdering :=
  inferInstanceAs (Decidable (_ ∧ _))

/-- Does the relation that a comparison asks for hold? -/
def Comparison.Relates {α : Type} [LT α] [LE α] (op : Comparison) (a b : α) : Prop :=
  match op with
  | .ge => b ≤ a
  | .le => a ≤ b
  | .eq => a = b
  | .ne => a ≠ b
  | .gt => b < a
  | .lt => a < b

section

variable {op : Comparison} {left right : Operand}

/-- An ordering asks for the relation between what two values stand for, if these are ordered as the values. -/
theorem orders_eq_true {α β : Type} [LT β] [LE β] {less atMost : α → α → Bool} (value : α → β → Prop)
    (ordering : op.IsOrdering)
    (hless : ∀ {a b v w}, value a v → value b w → (less a b = true ↔ v < w))
    (hatMost : ∀ {a b v w}, value a v → value b w → (atMost a b = true ↔ v ≤ w))
    {a b : α} {v w : β} (ha : value a v) (hb : value b w) : op.orders less atMost a b = true ↔ op.Relates v w := by
  cases op with
  | gt => exact hless hb ha
  | ge => exact hatMost hb ha
  | lt => exact hless ha hb
  | le => exact hatMost ha hb
  | eq => exact absurd rfl ordering.1
  | ne => exact absurd rfl ordering.2

/-- An ordering compares the numbers of its operands, if both have one, and else their texts. -/
theorem compare_of_ordering (ordering : op.IsOrdering) (left right : Operand) :
    compare op left right = (do
      match ← left.toNumber?, ← right.toNumber? with
      | some x, some y => return op.orders (fun x y => x < y) (fun x y => x ≤ y) x y
      | _, _ =>
        return op.orders (fun x y : String => x < y) (fun x y => !decide (y < x)) (← left.plain) (← right.plain)) := by
  cases op with
  | eq => exact absurd rfl ordering.1
  | ne => exact absurd rfl ordering.2
  | _ => rfl

theorem compare_numbers (ordering : op.IsOrdering) {x y : Float} (hx : left.toNumber? = .ok (some x))
    (hy : right.toNumber? = .ok (some y)) :
    compare op left right = .ok (op.orders (fun x y => x < y) (fun x y => x ≤ y) x y) := by
  rw [compare_of_ordering ordering, hx, hy]
  rfl

/-- If one of the operands is no number, their texts are compared. -/
theorem compare_texts (ordering : op.IsOrdering) {x y : Option Float} {leftText rightText : String}
    (hx : left.toNumber? = .ok x) (hy : right.toNumber? = .ok y) (hnone : x = none ∨ y = none)
    (hleft : left.plain = .ok leftText) (hright : right.plain = .ok rightText) :
    compare op left right =
      .ok (op.orders (fun x y : String => x < y) (fun x y => !decide (y < x)) leftText rightText) := by
  rw [compare_of_ordering ordering, hx, hy, hleft, hright]
  cases x with
  | none => rfl
  | some x =>
    obtain rfl := hnone.resolve_left (by simp)
    rfl

/-- If one of the operands is beyond the floating-point numbers, nothing is compared. -/
theorem compare_error (ordering : op.IsOrdering) {e : EvalError}
    (h : left.toNumber? = .error e ∨ ∃ x, left.toNumber? = .ok x ∧ right.toNumber? = .error e) :
    compare op left right = .error e := by
  rw [compare_of_ordering ordering]
  rcases h with h | ⟨x, hx, h⟩
  · rw [h]
    rfl
  · rw [hx, h]
    rfl

end

/-! ## No left operand -/

/-- An operator at the front splits nothing off. -/
theorem length_split_leading (hop : IsSymbol op) (h : Undivided cs) (other : String) :
    (split other (op.toList ++ ' ' :: cs)).length < 2 := by
  have hblank : Text.isBlank ' ' = true := by decide
  have hclosed : Closed (lex op.toList) := by
    rw [hop]
    simp [Closed]
  have hfree : ∀ l ∈ (lex cs).map (Lexeme.shift (op.toList.length + 1)),
      l.isOperator other.toList = false := List.forall_mem_map.2 (h.free other)
  rw [split, lex_append_blank hblank hclosed, hop, List.singleton_append, groups]
  split
  · -- before the operator there is nothing, and nothing covers no part
    rw [groups_of_free hfree, List.filterMap_cons_none rfl]
    exact Nat.lt_succ_of_le (List.length_filterMap_le _ _)
  · rw [groups_of_free hfree]
    exact Nat.lt_succ_of_le (List.length_filterMap_le _ _)

/-- Without its left operand a comparison is a text that is true by itself; but `!` negates what comes after. -/
theorem eval_leading (op : Comparison) (hne : cs ≠ []) (htrim : Text.trimChars cs = cs)
    (h : Undivided cs) :
    (parse (String.ofList (op.symbol.toList ++ ' ' :: cs))).eval = .ok (op != .ne) := by
  have hleading : ∀ start : List Char, start ≠ [] → Text.trimChars start = start →
      start.head? ≠ some '!' → (∀ op, (split op (start ++ ' ' :: cs)).length < 2) →
      (parse (String.ofList (start ++ ' ' :: cs))).eval = .ok true := by
    intro start hstart hstartTrim hfirst hlength
    have hblank : ' ' ∈ start ++ ' ' :: cs := by simp
    have htrimAll := Text.trimChars_append hstartTrim htrim hstart hne [' ']
    rw [List.append_assoc, List.singleton_append] at htrimAll
    rw [parse_truthy htrimAll hblank (by rwa [List.head?_append_of_ne_nil _ hstart]) hlength,
      eval_truthy hblank]
  by_cases hop : op = .ne
  · subst hop
    have hlex : lex ['='] = [⟨.text, ['='], 0, 1⟩] := by decide
    have hundivided : Undivided (['='] ++ ' ' :: cs) := by
      rw [Undivided, lex_append_blank (by decide) (by rw [hlex]; simp [Closed]), hlex]
      exact List.forall_mem_append.2 ⟨by simp, List.forall_mem_map.2 h⟩
    have htext : String.ofList (Comparison.ne.symbol.toList ++ ' ' :: cs) =
        "!" ++ String.ofList (['='] ++ ' ' :: cs) := by
      rw [← String.toList_inj, String.toList_append]
      simp only [String.toList_ofList]
      rfl
    rw [htext, parse_not, Expr.eval, hleading ['='] (by simp) (by decide) (by decide)
      hundivided.length_split]
    rfl
  · have hsymbol : op.symbol.toList ≠ [] ∧ Text.trimChars op.symbol.toList = op.symbol.toList ∧
        op.symbol.toList.head? ≠ some '!' := by
      revert hop
      cases op <;> decide
    rw [hleading _ hsymbol.1 hsymbol.2.1 hsymbol.2.2 (length_split_leading op.isSymbol h),
      bne_iff_ne.2 hop]

/-! ## Words and texts in quotes -/

/-- Does a character neither end a run of text nor begin anything else? -/
def IsOrdinary (c : Char) : Prop :=
  Text.isBlank c = false ∧ isQuote c = false ∧ ∀ cs, operatorAt? (c :: cs) = none

theorem isOrdinary_of_isAlphanum (h : c.isAlphanum = true) : IsOrdinary c := by
  have hne : ∀ d : Char, d.isAlphanum = false → c ≠ d := by
    rintro d hd rfl
    rw [h] at hd
    cases hd
  refine ⟨?_, ?_, fun cs => ?_⟩
  · have hclass : (decide (c.val ≥ 'A'.val ∧ c.val ≤ 'Z'.val) ||
        (decide (c.val ≥ 'a'.val) && decide (c.val ≤ 'z'.val)) ||
        (decide (c.val ≥ '0'.val) && decide (c.val ≤ '9'.val))) = true := h
    have hrange : ((65 ≤ c.toNat ∧ c.toNat ≤ 90) ∨ 97 ≤ c.toNat ∧ c.toNat ≤ 122) ∨
        48 ≤ c.toNat ∧ c.toNat ≤ 57 := by
      simpa [UInt32.le_iff_toNat_le, ← Char.toNat_val] using hclass
    simp [Text.isBlank, Text.isWhiteSpace]
    omega
  · simp [isQuote, hne '"' (by decide), hne '\'' (by decide)]
  · unfold operatorAt?
    split <;> simp_all

theorem IsOrdinary.step {pending : Lexeme.Pending} (h : IsOrdinary c) (run : pending.IsRun) (previous : Option Char)
    (position : Nat) (cs : List Char) :
    Lexeme.Step previous position c (operatorAt? (c :: cs)) pending [] (pending.push position c) :=
  .plain run h.1 (by simp [h.2.1]) (h.2.2 cs)

theorem lexFrom_ordinary {start position : Nat} {read : List Char} (previous : Option Char)
    (h : ∀ c ∈ cs, IsOrdinary c) :
    lexFrom (.text start read) previous position cs =
      [⟨.text, read.reverse ++ cs, start, position + cs.length⟩] := by
  induction cs generalizing previous position read with
  | nil =>
    rw [lexFrom_nil, List.append_nil]
    rfl
  | cons c cs ih =>
    have hrun : (Lexeme.Pending.text start read).IsRun := trivial
    rw [List.forall_mem_cons] at h
    rw [(h.1.step hrun previous position cs).lexFrom_cons, Lexeme.Pending.push, ih _ h.2, List.reverse_cons,
      List.append_assoc, List.length_cons, Nat.add_assoc, Nat.add_comm 1]
    rfl

/-- A word is a single lexeme. -/
theorem lex_word (hne : cs ≠ []) (h : ∀ c ∈ cs, IsOrdinary c) : lex cs = [⟨.text, cs, 0, cs.length⟩] := by
  have hgap : Lexeme.Pending.gap.IsRun := trivial
  obtain ⟨c, cs, rfl⟩ := List.exists_cons_of_ne_nil hne
  rw [List.forall_mem_cons] at h
  rw [lex, (h.1.step hgap none 0 cs).lexFrom_cons, Lexeme.Pending.push, lexFrom_ordinary _ h.2, List.length_cons,
    Nat.zero_add, Nat.add_comm]
  · rfl
  · simp

/-- The characters between two of one quote. -/
def enclosed (quote : Char) (cs : List Char) : List Char :=
  quote :: (cs ++ [quote])

/-- The characters in double quotes. -/
def quoted (cs : List Char) : List Char :=
  '"' :: (cs ++ ['"'])

variable {quote : Char}

theorem lexFrom_enclosed {start position : Nat} {read : List Char} (previous : Option Char)
    (h : quote ∉ cs) :
    lexFrom (.string quote start read) previous position (cs ++ [quote]) =
      [⟨.string, read.reverse ++ cs ++ [quote], start, position + cs.length + 1⟩] := by
  induction cs generalizing previous position read with
  | nil =>
    by_cases hbare : previous ≠ some '\\'
    · rw [List.nil_append, (Lexeme.Step.closing rfl hbare).lexFrom_cons, lexFrom_nil]
      simp [Lexeme.Pending.close]
    · -- after a backslash the quote is part of a string that is not closed
      rw [List.nil_append, (Lexeme.Step.inside fun hcloses => hbare hcloses.2).lexFrom_cons, lexFrom_nil]
      simp [Lexeme.Pending.close]
  | cons c cs ih =>
    rw [List.mem_cons, not_or] at h
    rw [List.cons_append, (Lexeme.Step.inside fun hcloses => h.1 hcloses.1.symm).lexFrom_cons, ih _ h.2]
    simp
    omega

theorem isQuote_iff : isQuote c = true ↔ c = '"' ∨ c = '\'' := by
  simp [isQuote]

theorem isBlank_of_isQuote (hquote : isQuote quote = true) : Text.isBlank quote = false := by
  rcases isQuote_iff.1 hquote with rfl | rfl <;> decide

/-- A text in quotes without that quote inside is a single lexeme. -/
theorem lex_enclosed (hquote : isQuote quote = true) (h : quote ∉ cs) :
    lex (enclosed quote cs) = [⟨.string, enclosed quote cs, 0, cs.length + 2⟩] := by
  have hgap : Lexeme.Pending.gap.IsRun := trivial
  rw [lex, enclosed, (Lexeme.Step.opening hgap (isBlank_of_isQuote hquote) hquote (by simp)).lexFrom_cons,
    lexFrom_enclosed _ h, Nat.zero_add, Nat.add_assoc, Nat.add_comm 1, Nat.add_assoc]
  rfl

theorem isPart_word (hne : cs ≠ []) (h : ∀ c ∈ cs, IsOrdinary c) : IsPart cs where
  nonempty := hne
  trimmed := Text.trimChars_eq_self_iff.2
    ⟨fun c hc => (h c (List.mem_of_head? hc)).1, fun c hc => (h c (List.mem_of_getLast? hc)).1⟩
  closed := by
    rw [lex_word hne h]
    simp [Closed]

theorem undivided_word (hne : cs ≠ []) (h : ∀ c ∈ cs, IsOrdinary c) : Undivided cs := by
  rw [Undivided, lex_word hne h]
  simp

theorem trimChars_enclosed (hquote : isQuote quote = true) (cs : List Char) :
    Text.trimChars (enclosed quote cs) = enclosed quote cs := by
  have hblank := isBlank_of_isQuote hquote
  refine Text.trimChars_eq_self_iff.2 ⟨fun c hc => ?_, fun c hc => ?_⟩
  · obtain rfl : quote = c := Option.some.inj hc
    exact hblank
  · rw [enclosed, ← List.cons_append, List.getLast?_concat] at hc
    obtain rfl : quote = c := Option.some.inj hc
    exact hblank

theorem trimChars_quoted (cs : List Char) : Text.trimChars (quoted cs) = quoted cs :=
  trimChars_enclosed rfl cs

theorem isPart_enclosed (hquote : isQuote quote = true) (h : quote ∉ cs) (hlast : cs.getLast? ≠ some '\\') :
    IsPart (enclosed quote cs) where
  nonempty := List.cons_ne_nil _ _
  trimmed := trimChars_enclosed hquote cs
  closed := by
    rw [lex_enclosed hquote h]
    intro l hl _
    obtain rfl := List.mem_singleton.1 hl
    exact ⟨cs, rfl, hlast⟩

theorem isPart_quoted (h : '"' ∉ cs) (hlast : cs.getLast? ≠ some '\\') : IsPart (quoted cs) :=
  isPart_enclosed rfl h hlast

/-- No quote in the text, no operator outside the quotes around it. -/
theorem undivided_enclosed (hquote : isQuote quote = true) (h : quote ∉ cs) : Undivided (enclosed quote cs) := by
  rw [Undivided, lex_enclosed hquote h]
  simp

theorem undivided_quoted (h : '"' ∉ cs) : Undivided (quoted cs) :=
  undivided_enclosed rfl h

/-- In quotes a text is an operand as it stands. -/
theorem operand_enclosed (hquote : isQuote quote = true) (cs : List Char) :
    operand (enclosed quote cs) = .text (String.ofList cs) := by
  have hlower : ∀ word : List Char, word.head? ≠ some quote.toLower → lower (enclosed quote cs) ≠ word := by
    rintro word hword rfl
    exact hword rfl
  have hword : "true".toList.head? ≠ some quote.toLower ∧ "false".toList.head? ≠ some quote.toLower := by
    rcases isQuote_iff.1 hquote with rfl | rfl <;> decide
  have hunquote : unquote? (enclosed quote cs) = some cs := by
    rw [unquote?.eq_def, enclosed]
    dsimp only
    rw [← List.cons_append, List.getLast?_concat, List.dropLast_concat, hquote]
    simp
  rw [operand, trimChars_enclosed hquote, if_neg (hlower _ hword.1), if_neg (hlower _ hword.2), hunquote]

theorem operand_quoted (cs : List Char) : operand (quoted cs) = .text (String.ofList cs) :=
  operand_enclosed rfl cs

end Runbook.Condition
