import Runbook.Proofs.Condition.Integer

/-!
# Conditions on two texts in quotes

In quotes a text stands for itself, whatever operators, blanks and other quotes are in it. So a comparison of two
texts in quotes can be told from the texts alone.

* `codePoints_lt_iff` — texts are ordered by their code points.
* `reading?` — the number that a text is taken for; integers are taken for what 53 bits keep of them
  (`reading?_integerText`).
* `Beyond` — texts that write an integer beyond the floating-point numbers, which only a numeral with the letter of
  its base before it does (`Beyond.prefixed`), such as the powers of sixteen from `16 ^ 256` on
  (`beyond_powerOfSixteen`).
* `compare_readings`, `compare_codePoints`, `compare_beyond` — what an ordering makes of two texts.
* `evaluate_comparingQuoted` — how two texts in quotes are compared; `evaluate_comparingQuoted_false` — two
  conditions that ought to be true and are not.
-/

namespace Runbook

/-! ## Code points -/

/-- The code points of a text. -/
def codePoints (s : String) : List Nat :=
  s.toList.map Char.toNat

theorem map_toNat_lt_iff (as bs : List Char) : as.map Char.toNat < bs.map Char.toNat ↔ as < bs := by
  induction as generalizing bs with
  | nil => cases bs <;> simp
  | cons a as ih =>
    cases bs with
    | nil => simp
    | cons b bs =>
      have hlt : a.toNat < b.toNat ↔ a < b := Iff.rfl
      rw [List.map_cons, List.map_cons, List.cons_lt_cons_iff, List.cons_lt_cons_iff, ih, hlt, Char.toNat_inj]

theorem codePoints_lt_iff {s t : String} : codePoints s < codePoints t ↔ s < t := by
  rw [codePoints, codePoints, map_toNat_lt_iff, String.lt_iff_toList_lt]

namespace Condition

open Decimal (nearestNat nearestInt signed Value)

variable {op : Comparison} {quote quote' : Char} {s t : String} {v w : ℚ} {n : Int}

/-! ## The number that a text is taken for -/

/-- Does a text write a number? -/
def IsNumeral (s : String) : Prop :=
  (number? s.toList).isSome = true

instance (s : String) : Decidable (IsNumeral s) :=
  inferInstanceAs (Decidable (_ = true))

/-- Does a text write an integer beyond the floating-point numbers? -/
def Beyond (s : String) : Prop :=
  ∃ n, number? s.toList = some (.int n) ∧ ¬ InRange n

/-- The number that a text is taken for in an ordering, if it writes one and there is a floating-point number for
it. -/
def reading? (s : String) : Option ℚ :=
  match number? s.toList with
  | some (.int n) => if InRange n then some (nearestInt n) else none
  | some (.float x) =>
    match Value.ofFloat x with
    | .finite negative m q => some (signed negative m q)
    | _ => none
  | none => none

/-- A decimal numeral writes a floating-point number, or the integer that this is. -/
theorem of_decimal? {cs : List Char} {number : Number} (h : decimal? cs = some number) :
    ∃ x, x.isFinite = true ∧ (number = .float x ∨ ∃ n, number = .int n ∧ Decimal.toInt? x = some n) := by
  unfold decimal? at h
  split at h
  · cases h
  · rename_i x hx
    cases hfinite : x.isFinite with
    | false => simp [hfinite] at h
    | true =>
      refine ⟨x, hfinite, ?_⟩
      simp only [hfinite, Bool.not_true, Bool.false_eq_true, if_false] at h
      split at h
      · exact .inl (Option.some.inj h).symm
      · split at h
        · rename_i n hn
          exact .inr ⟨n, (Option.some.inj h).symm, hn⟩
        · exact .inl (Option.some.inj h).symm

/-- Any other numeral has the letter of its base before it. -/
theorem of_number? {cs : List Char} {number : Number} (h : number? cs = some number) :
    decimal? (Text.trimChars cs) = some number ∨ ∃ b digits n,
      Text.trimChars cs = '0' :: b :: digits ∧ b ∈ "xXoObB".toList ∧ number = .int n := by
  unfold number? at h
  dsimp only at h
  split at h
  · cases h
  · split at h
    · rename_i b digits hcs
      have hbase {base : Nat} {lower upper : Char} (hb : (decide (b = lower) || decide (b = upper)) = true)
          (hletter : [lower, upper] ⊆ "xXoObB".toList)
          (hread : (inBase? base digits).map Number.int = some number) :
          ∃ b digits n, Text.trimChars cs = '0' :: b :: digits ∧ b ∈ "xXoObB".toList ∧ number = .int n := by
        obtain ⟨n, -, rfl⟩ := Option.map_eq_some_iff.1 hread
        exact ⟨b, digits, n, hcs, hletter (by simpa using hb), rfl⟩
      split_ifs at h with hx ho hb
      · exact .inr (hbase hx (by decide) h)
      · exact .inr (hbase ho (by decide) h)
      · exact .inr (hbase hb (by decide) h)
      · exact .inl h
    · exact .inl h

/-- Only with the letter of its base before it a numeral writes an integer beyond the floating-point numbers. -/
theorem Beyond.prefixed (h : Beyond s) :
    ∃ b digits, Text.trimChars s.toList = '0' :: b :: digits ∧ b ∈ "xXoObB".toList := by
  obtain ⟨n, hn, hrange⟩ := h
  obtain hdecimal | ⟨b, digits, -, hcs, hb, -⟩ := of_number? hn
  · obtain ⟨x, -, hfloat | ⟨n', hint, hx⟩⟩ := of_decimal? hdecimal
    · cases hfloat
    · cases hint
      exact absurd (Decimal.nearestNat_of_toInt? hx) hrange
  · exact ⟨b, digits, hcs, hb⟩

/-- An integer of 53 bits at most is taken for itself. -/
theorem reading?_of_int (h : number? s.toList = some (.int n)) (hbits : n.natAbs ≤ 2 ^ 53) :
    reading? s = some (n : ℚ) := by
  simp [reading?, h, inRange_of_natAbs_le hbits, Decimal.nearestInt_of_natAbs_le hbits]

/-- An integer in decimal digits is taken for what is kept of it. -/
theorem reading?_integerText (h : InRange n) :
    reading? (String.ofList (Json.integerText n)) = some (nearestInt n : ℚ) := by
  have hkept : InRange (nearestInt n) := nearestNat_nearestInt_lt h
  have hread : number? (Json.integerText n) = some (.int (nearestInt n)) := by
    rw [number?_integerText, decimal?_integerText, if_pos h]
  simp [reading?, hread, hkept, Decimal.nearestInt_nearestInt]

theorem reading?_integerText_small (h : n.natAbs ≤ 2 ^ 53) :
    reading? (String.ofList (Json.integerText n)) = some (n : ℚ) := by
  rw [reading?_integerText (inRange_of_natAbs_le h), Decimal.nearestInt_of_natAbs_le h]

theorem isNumeral_of_reading (h : reading? s = some v) : IsNumeral s := by
  unfold reading? at h
  rw [IsNumeral]
  cases hs : number? s.toList with
  | none => simp [hs] at h
  | some number => rfl

theorem not_beyond_of_head? {c : Char} (hhead : (Text.trimChars s.toList).head? = some c) (hc : c ≠ '0') :
    ¬ Beyond s := by
  intro h
  obtain ⟨b, digits, hcs, -⟩ := h.prefixed
  rw [hcs] at hhead
  exact hc (Option.some.inj hhead).symm

/-- Does a floating-point number stand for a number? -/
def StandsFor (x : Float) (v : ℚ) : Prop :=
  ∃ negative m q, Value.ofFloat x = .finite negative m q ∧ v = signed negative m q

theorem toNumber?_of_reading (h : reading? s = some v) :
    ∃ x, StandsFor x v ∧ (Operand.text s).toNumber? = .ok (some x) := by
  unfold reading? at h
  split at h
  · rename_i n hn
    split at h
    · rename_i hrange
      obtain ⟨m, q, hvalue, hkept⟩ := Decimal.ofFloat_nearest_finite hrange (decide (n < 0))
      have hfinite := Decimal.isFinite_nearest n.natAbs (decide (n < 0))
      rw [decide_eq_true (show nearestNat n.natAbs < 2 ^ 1024 from hrange)] at hfinite
      refine ⟨_, ⟨_, m, q, hvalue, ?_⟩, ?_⟩
      · rw [← Option.some.inj h, Decimal.signed_nearestInt hkept]
      · simp [Operand.toNumber?, hn, Operand.toNumber?.ofInt, Decimal.ofInt?, hfinite]
    · cases h
  · rename_i x hx
    split at h
    · rename_i negative m q hvalue
      exact ⟨x, ⟨negative, m, q, hvalue, (Option.some.inj h).symm⟩, by simp [Operand.toNumber?, hx]⟩
    · cases h
  · cases h

theorem toNumber?_of_beyond (h : Beyond s) : (Operand.text s).toNumber? = .error .beyondFloat := by
  obtain ⟨n, hn, hrange⟩ := h
  have hfinite := Decimal.isFinite_nearest n.natAbs (decide (n < 0))
  rw [decide_eq_false (show ¬ nearestNat n.natAbs < 2 ^ 1024 from hrange)] at hfinite
  simp [Operand.toNumber?, hn, Operand.toNumber?.ofInt, Decimal.ofInt?, hfinite]

theorem toNumber?_of_not_isNumeral (h : ¬ IsNumeral s) : (Operand.text s).toNumber? = .ok none := by
  rw [IsNumeral, Bool.not_eq_true, Option.isSome_eq_false_iff, Option.isNone_iff_eq_none] at h
  simp [Operand.toNumber?, h]

/-- A numeral that is not beyond the floating-point numbers is taken for a number. -/
theorem exists_reading (h : IsNumeral s) (within : ¬ Beyond s) : ∃ v, reading? s = some v := by
  obtain ⟨number, hnumber⟩ := Option.isSome_iff_exists.1 h
  cases number with
  | int n =>
    have hrange : InRange n := not_not.1 fun hrange => within ⟨n, hnumber, hrange⟩
    exact ⟨nearestInt n, by simp [reading?, hnumber, hrange]⟩
  | float x =>
    obtain hdecimal | ⟨-, -, n, -, -, hn⟩ := of_number? hnumber
    · obtain ⟨x', hfinite, hx | ⟨n, hn, -⟩⟩ := of_decimal? hdecimal
      · cases hx
        obtain ⟨negative, m, q, hvalue⟩ := Decimal.isFinite_eq_true.1 hfinite
        exact ⟨signed negative m q, by simp [reading?, hnumber, hvalue]⟩
      · cases hn
    · cases hn

theorem exists_toNumber? (within : ¬ Beyond s) :
    ∃ x, (Operand.text s).toNumber? = .ok x ∧ (¬ IsNumeral s → x = none) := by
  by_cases hnumeral : IsNumeral s
  · obtain ⟨v, hv⟩ := exists_reading hnumeral within
    obtain ⟨x, -, hx⟩ := toNumber?_of_reading hv
    exact ⟨some x, hx, fun hnot => absurd hnumeral hnot⟩
  · exact ⟨none, toNumber?_of_not_isNumeral hnumeral, fun _ => rfl⟩

/-! ## Powers of sixteen -/

/-- The hexadecimal numeral of a power of sixteen. -/
def powerOfSixteen (k : Nat) : String :=
  String.ofList ('0' :: 'x' :: '1' :: List.replicate k '0')

theorem isAlphanum_powerOfSixteen (k : Nat) : ∀ c ∈ (powerOfSixteen k).toList, c.isAlphanum = true := by
  rw [powerOfSixteen, String.toList_ofList]
  simp only [List.forall_mem_cons]
  exact ⟨rfl, rfl, rfl, fun c hc => List.eq_of_mem_replicate hc ▸ rfl⟩

theorem mapM_replicate {α β : Type} {f : α → Option β} {a : α} {b : β} (h : f a = some b) (k : Nat) :
    (List.replicate k a).mapM f = some (List.replicate k b) := by
  induction k with
  | zero => rfl
  | succ k ih => simp [List.replicate_succ, h, ih]

theorem foldl_replicate_zero (base k n : Nat) :
    (List.replicate k 0).foldl (fun n d => base * n + d) n = base ^ k * n := by
  induction k generalizing n with
  | zero => simp
  | succ k ih =>
    rw [List.replicate_succ, List.foldl_cons, ih]
    ring

theorem inBase?_powerOfSixteen (k : Nat) :
    inBase? 16 ('1' :: List.replicate k '0') = some ((16 ^ k : Nat) : Int) := by
  have hascii : asciiDigits ('1' :: List.replicate k '0') = '1' :: List.replicate k '0' := by
    rw [asciiDigits, List.map_cons, List.map_replicate]
    rfl
  have hdigits {value? : Char → Option Nat} (hone : value? '1' = some 1) (hzero : value? '0' = some 0) :
      ('1' :: List.replicate k '0').mapM value? = some (1 :: List.replicate k 0) := by
    simp [hone, mapM_replicate hzero]
  unfold inBase?
  simp only [hascii]
  rw [hdigits (by decide) (by decide)]
  simp [foldl_replicate_zero]

theorem number?_powerOfSixteen (k : Nat) :
    number? (powerOfSixteen k).toList = some (.int ((16 ^ k : Nat) : Int)) := by
  have hchars := isAlphanum_powerOfSixteen k
  have hblank {c : Char} (h : c ∈ (powerOfSixteen k).toList) : Text.isBlank c = false :=
    (isOrdinary_of_isAlphanum (hchars c h)).1
  have htrim : Text.trimChars (powerOfSixteen k).toList = (powerOfSixteen k).toList :=
    Text.trimChars_eq_self_iff.2
      ⟨fun c hc => hblank (List.mem_of_head? hc), fun c hc => hblank (List.mem_of_getLast? hc)⟩
  have hunderscore : (powerOfSixteen k).toList.contains '_' = false := by
    rw [List.contains_eq_mem, decide_eq_false_iff_not]
    exact notMem_of_isAlphanum hchars (by decide)
  rw [number?, htrim, hunderscore]
  simp only [powerOfSixteen, String.toList_ofList, Bool.false_eq_true, if_false]
  simp [inBase?_powerOfSixteen]

theorem beyond_powerOfSixteen {k : Nat} (h : 256 ≤ k) : Beyond (powerOfSixteen k) := by
  refine ⟨_, number?_powerOfSixteen k, ?_⟩
  have hpow : 16 ^ k = 2 ^ (4 * k) := (pow_mul 2 4 k).symm
  rw [InRange, Int.natAbs_natCast, hpow, Decimal.nearestNat_two_pow, Nat.not_lt]
  exact Nat.pow_le_pow_right two_pos (by omega)

/-! ## What an ordering makes of two texts -/

/-- Two texts that are taken for numbers are ordered as these. -/
theorem compare_readings (ordering : op.IsOrdering) (hs : reading? s = some v) (ht : reading? t = some w) :
    ∃ b, compare op (.text s) (.text t) = .ok b ∧ (b = true ↔ op.Relates v w) := by
  obtain ⟨x, hx, hxs⟩ := toNumber?_of_reading hs
  obtain ⟨y, hy, hyt⟩ := toNumber?_of_reading ht
  refine ⟨_, compare_numbers ordering hxs hyt, orders_eq_true StandsFor ordering ?_ ?_ hx hy⟩
  · rintro a b v w ⟨_, _, _, ha, rfl⟩ ⟨_, _, _, hb, rfl⟩
    rw [decide_eq_true_iff, Decimal.lt_iff_signed_lt ha hb]
  · rintro a b v w ⟨_, _, _, ha, rfl⟩ ⟨_, _, _, hb, rfl⟩
    rw [decide_eq_true_iff, Decimal.le_iff_signed_le ha hb]

/-- Two texts one of which is no numeral are ordered by their code points. -/
theorem compare_codePoints (ordering : op.IsOrdering) (h : ¬ (IsNumeral s ∧ IsNumeral t)) (hs : ¬ Beyond s)
    (ht : ¬ Beyond t) :
    ∃ b, compare op (.text s) (.text t) = .ok b ∧ (b = true ↔ op.Relates (codePoints s) (codePoints t)) := by
  obtain ⟨x, hx, hxnone⟩ := exists_toNumber? hs
  obtain ⟨y, hy, hynone⟩ := exists_toNumber? ht
  have hnone : x = none ∨ y = none := (not_and_or.1 h).imp hxnone hynone
  refine ⟨_, compare_texts ordering hx hy hnone rfl rfl,
    orders_eq_true (fun s points => points = codePoints s) ordering ?_ ?_ rfl rfl⟩
  · rintro a b _ _ rfl rfl
    rw [decide_eq_true_iff, codePoints_lt_iff]
  · rintro a b _ _ rfl rfl
    rw [Bool.not_eq_true', decide_eq_false_iff_not, ← codePoints_lt_iff, not_lt]

/-- A numeral beyond the floating-point numbers is not ordered at all. -/
theorem compare_beyond (ordering : op.IsOrdering) (h : Beyond s ∨ Beyond t) :
    compare op (.text s) (.text t) = .error .beyondFloat := by
  refine compare_error ordering ?_
  by_cases hs : Beyond s
  · exact .inl (toNumber?_of_beyond hs)
  · obtain ⟨x, hx, -⟩ := exists_toNumber? hs
    exact .inr ⟨x, hx, toNumber?_of_beyond (h.resolve_left hs)⟩

/-! ## Conditions -/

/-- The condition that compares two texts in quotes. -/
def comparingQuoted (op : Comparison) (quote quote' : Char) (s t : String) : String :=
  quote.toString ++ s ++ quote.toString ++ " " ++ op.symbol ++ " " ++ (quote'.toString ++ t ++ quote'.toString)

/-- Two texts in quotes around an operator are read as a comparison of them, if neither of them ends its quotes. -/
theorem parse_comparingQuoted (op : Comparison) (hquote : isQuote quote = true) (hquote' : isQuote quote' = true)
    (hs : quote ∉ s.toList) (hlast : s.toList.getLast? ≠ some '\\') (ht : quote' ∉ t.toList)
    (hlast' : t.toList.getLast? ≠ some '\\') :
    parse (comparingQuoted op quote quote' s t) = .compare op (.text s) (.text t) := by
  have htext : comparingQuoted op quote quote' s t =
      String.ofList (enclosed quote s.toList ++ spaced op.symbol ++ enclosed quote' t.toList) := by
    rw [← String.toList_inj, String.toList_ofList]
    simp [comparingQuoted, enclosed, spaced]
  have hfirst : (enclosed quote s.toList).head? ≠ some '!' := by
    rcases isQuote_iff.1 hquote with rfl | rfl <;> simp [enclosed]
  rw [htext, parse_compare op (isPart_enclosed hquote hs hlast) (isPart_enclosed hquote' ht hlast')
    (undivided_enclosed hquote hs) (undivided_enclosed hquote' ht) hfirst, operand_enclosed hquote,
    operand_enclosed hquote', String.ofList_toList, String.ofList_toList]

theorem value_of_parse {text : String} {left right : Operand} {b : Bool} (h : parse text = .compare op left right)
    (hcompare : compare op left right = .ok b) : (evaluate text).value = b := by
  rw [value_evaluate, h, Expr.eval, hcompare]
  rfl

theorem value_of_parse_error {text : String} {left right : Operand} {e : EvalError}
    (h : parse text = .compare op left right) (hcompare : compare op left right = .error e) :
    (evaluate text).value = false := by
  rw [value_evaluate, h, Expr.eval, hcompare]
  rfl

/-- **How two texts in quotes are compared.** Whatever operators, blanks and other quotes are in them, they are the
two operands. `==` and `!=` compare them as they are. The orderings compare the numbers that they are taken for, if
both are numerals, and their code points otherwise; but if one of them writes an integer beyond the floating-point
numbers, which only a numeral with the letter of its base before it does, the condition is false whatever it asks
for. A numeral is taken for a floating-point number, so integers are compared exactly up to 53 bits. -/
theorem evaluate_comparingQuoted (op : Comparison) (quote quote' : Char) (s t : String)
    (hquote : isQuote quote = true) (hquote' : isQuote quote' = true) (hs : quote ∉ s.toList)
    (hlast : s.toList.getLast? ≠ some '\\') (ht : quote' ∉ t.toList) (hlast' : t.toList.getLast? ≠ some '\\') :
    let text := comparingQuoted op quote quote' s t
    parse text = .compare op (.text s) (.text t) ∧
      (op = .eq → ((evaluate text).value = true ↔ s = t)) ∧
      (op = .ne → ((evaluate text).value = true ↔ s ≠ t)) ∧
      (op.IsOrdering →
        (¬ Beyond s → ¬ Beyond t →
          (IsNumeral s → IsNumeral t → ∃ v w, reading? s = some v ∧ reading? t = some w ∧
            ((evaluate text).value = true ↔ op.Relates v w)) ∧
          (¬ (IsNumeral s ∧ IsNumeral t) →
            ((evaluate text).value = true ↔ op.Relates (codePoints s) (codePoints t)))) ∧
        (Beyond s ∨ Beyond t → (evaluate text).value = false)) ∧
      ∀ u : String,
        (Beyond u → ∃ b digits, Text.trimChars u.toList = '0' :: b :: digits ∧ b ∈ "xXoObB".toList) ∧
        (∀ n, number? u.toList = some (.int n) → n.natAbs ≤ 2 ^ 53 → reading? u = some (n : ℚ)) := by
  intro text
  have hparse : parse text = .compare op (.text s) (.text t) :=
    parse_comparingQuoted op hquote hquote' hs hlast ht hlast'
  refine ⟨hparse, ?_, ?_, fun ordering => ⟨fun within within' => ⟨fun hnumeral hnumeral' => ?_, fun hnot => ?_⟩,
    fun hbeyond => ?_⟩, fun u => ⟨Beyond.prefixed, fun n => reading?_of_int⟩⟩
  · rintro rfl
    rw [value_of_parse hparse (b := s == t) rfl, beq_iff_eq]
  · rintro rfl
    rw [value_of_parse hparse (b := s != t) rfl, bne_iff_ne]
  · obtain ⟨v, hv⟩ := exists_reading hnumeral within
    obtain ⟨w, hw⟩ := exists_reading hnumeral' within'
    obtain ⟨b, hcompare, hb⟩ := compare_readings ordering hv hw
    exact ⟨v, w, hv, hw, by rwa [value_of_parse hparse hcompare]⟩
  · obtain ⟨b, hcompare, hb⟩ := compare_codePoints ordering hnot within within'
    rwa [value_of_parse hparse hcompare]
  · exact value_of_parse_error hparse (compare_beyond ordering hbeyond)

/-- Operators and the other quote do not end a text in quotes; numerals are compared as numbers, and a numeral and
another text by their code points. -/
theorem evaluate_comparingQuoted_operators :
    parse "'a && \"b' != \"it's >= 1\"" = .compare .ne (.text "a && \"b") (.text "it's >= 1") ∧
      (evaluate "'a && \"b' != \"it's >= 1\"").value = true ∧
      (evaluate "\"10\" > '9'").value = true ∧ (evaluate "\"10a\" > '9'").value ≠ true := by
  obtain ⟨hparse, -, hne, -⟩ := evaluate_comparingQuoted .ne '\'' '"' "a && \"b" "it's >= 1" rfl rfl
    (by decide) (by decide) (by decide) (by decide)
  obtain ⟨-, -, -, hnumbers, -⟩ := evaluate_comparingQuoted .gt '"' '\'' "10" "9" rfl rfl
    (by decide) (by decide) (by decide) (by decide)
  obtain ⟨-, -, -, htexts, -⟩ := evaluate_comparingQuoted .gt '"' '\'' "10a" "9" rfl rfl
    (by decide) (by decide) (by decide) (by decide)
  have hten : reading? "10" = some ((10 : Int) : ℚ) := reading?_integerText_small (n := 10) (by decide)
  have hnine : reading? "9" = some ((9 : Int) : ℚ) := reading?_integerText_small (n := 9) (by decide)
  have hnineWithin : ¬ Beyond "9" := not_beyond_of_head? (c := '9') rfl (by decide)
  obtain ⟨v, w, hv, hw, hgt⟩ := ((hnumbers (by decide)).1 (not_beyond_of_head? (c := '1') rfl (by decide))
    hnineWithin).1 (isNumeral_of_reading hten) (isNumeral_of_reading hnine)
  obtain rfl := Option.some.inj (hten.symm.trans hv)
  obtain rfl := Option.some.inj (hnine.symm.trans hw)
  have hless := ((htexts (by decide)).1 (not_beyond_of_head? (c := '1') rfl (by decide)) hnineWithin).2 (by decide)
  refine ⟨hparse, (hne rfl).2 (by decide), hgt.2 ?_, mt hless.1 ?_⟩
  · show ((9 : Int) : ℚ) < ((10 : Int) : ℚ)
    norm_num
  · show ¬ codePoints "9" < codePoints "10a"
    decide

/-- Two conditions that ought to be true, by the numbers and by the code points, and are not. -/
theorem evaluate_comparingQuoted_false :
    ((evaluate (comparingQuoted .gt '"' '"' (powerOfSixteen 256) "-5")).value = false ∧
      number? (powerOfSixteen 256).toList = some (.int ((16 ^ 256 : Nat) : Int)) ∧
      codePoints "-5" < codePoints (powerOfSixteen 256)) ∧
    ((evaluate (comparingQuoted .gt '"' '"' "9007199254740993" "9007199254740992")).value = false ∧
      (9007199254740992 : Int) < 9007199254740993 ∧
      codePoints "9007199254740992" < codePoints "9007199254740993") := by
  constructor
  · have hchars := isAlphanum_powerOfSixteen 256
    have hquote : '"' ∉ (powerOfSixteen 256).toList := notMem_of_isAlphanum hchars (by decide)
    have hlast : (powerOfSixteen 256).toList.getLast? ≠ some '\\' := fun hlast =>
      notMem_of_isAlphanum hchars (by decide) (List.mem_of_getLast? hlast)
    have hparse := parse_comparingQuoted (t := "-5") .gt (rfl : isQuote '"' = true) (rfl : isQuote '"' = true)
      hquote hlast (by decide) (by decide)
    have hbeyond : Beyond (powerOfSixteen 256) := beyond_powerOfSixteen le_rfl
    refine ⟨value_of_parse_error hparse (compare_beyond (by decide) (.inl hbeyond)), number?_powerOfSixteen 256, ?_⟩
    have hminus : codePoints "-5" = [45, 53] := by decide
    have hzero : ∃ points, codePoints (powerOfSixteen 256) = 48 :: points :=
      ⟨_, by rw [codePoints, powerOfSixteen, String.toList_ofList, List.map_cons]; rfl⟩
    obtain ⟨points, hpoints⟩ := hzero
    rw [hminus, hpoints, List.cons_lt_cons_iff]
    exact .inl (by decide)
  · have hparse := parse_comparingQuoted (s := "9007199254740993") (t := "9007199254740992") .gt
      (rfl : isQuote '"' = true) (rfl : isQuote '"' = true) (by decide) (by decide) (by decide) (by decide)
    have hoddText : "9007199254740993" = String.ofList (Json.integerText 9007199254740993) := by decide +kernel
    have hevenText : "9007199254740992" = String.ofList (Json.integerText 9007199254740992) := by decide +kernel
    have hodd := reading?_integerText (n := 9007199254740993) (by decide +kernel)
    have heven := reading?_integerText (n := 9007199254740992) (by decide +kernel)
    have hsame : nearestInt 9007199254740993 = nearestInt 9007199254740992 := by decide +kernel
    rw [← hoddText, hsame] at hodd
    rw [← hevenText] at heven
    obtain ⟨b, hcompare, hb⟩ := compare_readings (by decide : Comparison.gt.IsOrdering) hodd heven
    refine ⟨?_, by decide, by decide⟩
    rw [value_of_parse hparse hcompare, Bool.eq_false_iff, Ne, hb]
    exact lt_irrefl _

end Condition

end Runbook
