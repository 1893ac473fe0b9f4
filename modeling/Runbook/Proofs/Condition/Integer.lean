import Runbook.Proofs.Condition.Guard
import Runbook.Proofs.Decimal.Integer
import Runbook.Proofs.Json.Numeral
import Runbook.Proofs.Token.Substitution

/-!
# Conditions on two integers

An integer comes into a condition as its decimal digits, and digits are read as a floating-point number first. So what
is compared is what that number keeps of the integer (`asRead`); beyond the floating-point numbers the digits are a
text.

* `operand_integerText` — what the digits of an integer are read as.
* `holdsFor_integers` — how a condition compares two integers.
-/

namespace Runbook.Condition

open Decimal (nearestNat nearestInt)
open Json (integerText)

variable {a b : Int} {c : Char}

/-! ## The digits of an integer -/

/-- Is an integer within the floating-point numbers? -/
def InRange (a : Int) : Prop :=
  nearestNat a.natAbs < 2 ^ 1024

instance (a : Int) : Decidable (InRange a) :=
  inferInstanceAs (Decidable (nearestNat a.natAbs < 2 ^ 1024))

/-- The integer that an integer is taken for. -/
def asRead (a : Int) : Int :=
  if InRange a then nearestInt a else a

theorem integerText_eq (a : Int) :
    integerText a = (if decide (a < 0) then ['-'] else []) ++ Decimal.digitText a.natAbs := by
  rw [integerText]
  by_cases h : a < 0 <;> simp [h]

theorem mem_integerText (h : c ∈ integerText a) : c = '-' ∨ Decimal.isDigit c = true := by
  rw [integerText_eq, List.mem_append] at h
  rcases h with h | h
  · split at h
    · exact .inl (List.mem_singleton.1 h)
    · cases h
  · exact .inr (Decimal.isDigit_of_mem_digitText h)

theorem integerText_ne_nil (a : Int) : integerText a ≠ [] := by
  rw [integerText_eq]
  exact List.append_ne_nil_of_right_ne_nil _ (Decimal.digitText_ne_nil _)

theorem notMem_integerText_of {d : Char} (hminus : d ≠ '-') (hdigit : Decimal.isDigit d = false) :
    d ∉ integerText a := by
  intro h
  rcases mem_integerText h with rfl | h
  · exact hminus rfl
  · rw [h] at hdigit
    cases hdigit

theorem isOrdinary_of_mem (h : c ∈ integerText a) : IsOrdinary c := by
  rcases mem_integerText h with rfl | h
  · refine ⟨by decide, by decide, fun cs => ?_⟩
    unfold operatorAt?
    split <;> simp_all
  · refine isOrdinary_of_isAlphanum ?_
    rw [Decimal.isDigit_eq_isDigit] at h
    simp [Char.isAlphanum, h]

theorem exists_digitChar (h : Decimal.isDigit c = true) : ∃ d < 10, c = Nat.digitChar d := by
  obtain ⟨hlow, hhigh⟩ := Decimal.isDigit_iff.1 h
  have hlow : 48 ≤ c.toNat := hlow
  have hhigh : c.toNat ≤ 57 := hhigh
  rw [← Char.ofNat_toNat c]
  generalize c.toNat = n at hlow hhigh ⊢
  refine ⟨n - 48, by omega, ?_⟩
  interval_cases n <;> rfl

/-- What leaves a minus and each digit as they are leaves the text of an integer as it is. -/
theorem map_integerText {f : Char → Char} (hminus : f '-' = '-')
    (hdigits : ∀ d < 10, f (Nat.digitChar d) = Nat.digitChar d) (a : Int) : (integerText a).map f = integerText a := by
  have hsame : ∀ c ∈ integerText a, f c = c := by
    intro c hc
    rcases mem_integerText hc with rfl | h
    · exact hminus
    · obtain ⟨d, hd, rfl⟩ := exists_digitChar h
      exact hdigits d hd
  rw [List.map_congr_left hsame, List.map_id']

theorem isPart_integerText (a : Int) : IsPart (integerText a) :=
  isPart_word (integerText_ne_nil a) fun _ => isOrdinary_of_mem

/-! ## Reading the digits -/

/-- The digits of an integer are a number, if that is within the floating-point numbers. -/
theorem decimal?_integerText (a : Int) :
    decimal? (integerText a) = if InRange a then some (.int (nearestInt a)) else none := by
  have hnearest := (Decimal.ofScientific_zero a.natAbs (decide (a < 0))).1
  have hfinite : (Decimal.ofScientific (decide (a < 0)) a.natAbs 0).isFinite = decide (InRange a) :=
    (Decimal.ofScientific_zero a.natAbs (decide (a < 0))).2
  have hfloat := Decimal.float?_digitText a.natAbs (decide (a < 0))
  have hascii : asciiDigits (integerText a) = integerText a := map_integerText (by decide) (by decide) a
  have hwhole {d : Char} (hminus : d ≠ '-') (hdigit : Decimal.isDigit d = false) :
      (integerText a).contains d = false := by
    simpa using notMem_integerText_of hminus hdigit
  rw [← integerText_eq] at hfloat
  rw [decimal?, hascii, hfloat]
  simp only [hfinite, hwhole (d := '.') (by decide) rfl, hwhole (d := 'e') (by decide) rfl,
    hwhole (d := 'E') (by decide) rfl, Bool.or_self, Bool.false_eq_true, if_false]
  by_cases h : InRange a
  · simp [h, hnearest h, Decimal.toInt?_nearest h]
  · simp [h]

theorem number?_integerText (a : Int) : number? (integerText a) = decimal? (integerText a) := by
  have hunderscore : (integerText a).contains '_' = false := by
    simpa using notMem_integerText_of (a := a) (d := '_') (by decide) rfl
  rw [number?, (isPart_integerText a).trimmed]
  simp only [hunderscore, Bool.false_eq_true, if_false]
  split
  · -- a zero at the front is the whole numeral
    rename_i b digits hdigits
    have hdigitText : Decimal.digitText a.natAbs = '0' :: b :: digits := by
      rw [integerText] at hdigits
      split at hdigits
      · cases hdigits
      · exact hdigits
    have hzero : a.natAbs = 0 := by
      by_contra hne
      exact Decimal.head?_digitText (Nat.pos_of_ne_zero hne) (by rw [hdigitText]; rfl)
    rw [hzero] at hdigitText
    cases hdigitText
  · rfl

/-- An integer is read as what is kept of it, or as a text if it is beyond the floating-point numbers. -/
theorem operand_integerText (a : Int) :
    operand (integerText a) = if InRange a then .int (nearestInt a) else .text (String.ofList (integerText a)) := by
  have hlower : lower (integerText a) = integerText a := map_integerText (by decide) (by decide) a
  have hword {word : List Char} {d : Char} (hd : d ∈ word) (hminus : d ≠ '-') (hdigit : Decimal.isDigit d = false) :
      integerText a ≠ word := by
    rintro rfl
    exact notMem_integerText_of hminus hdigit hd
  have hunquote : unquote? (integerText a) = none := by
    obtain ⟨c, cs, hcs⟩ := List.exists_cons_of_ne_nil (integerText_ne_nil a)
    have hquote : isQuote c = false := (isOrdinary_of_mem (hcs ▸ List.mem_cons_self)).2.1
    rw [hcs, unquote?, hquote]
    rfl
  rw [operand, (isPart_integerText a).trimmed, hlower]
  rw [if_neg (hword (d := 't') (by decide) (by decide) rfl), if_neg (hword (d := 'f') (by decide) (by decide) rfl),
    hunquote, number?_integerText, decimal?_integerText]
  by_cases h : InRange a <;> simp [h]

/-! ## Comparing integers -/

theorem integerText_injective (h : integerText a = integerText b) : a = b := by
  have hdigits (a : Int) : Decimal.ofDigits (integerText a) = a.natAbs := by
    rw [integerText]
    split
    · exact Decimal.ofDigits_digitText a.natAbs
    · exact Decimal.ofDigits_digitText a.natAbs
  have hsign (a : Int) : '-' ∈ integerText a ↔ a < 0 := by
    have hnot : '-' ∉ Decimal.digitText a.natAbs := fun h => absurd (Decimal.isDigit_of_mem_digitText h) (by decide)
    rw [integerText_eq]
    by_cases ha : a < 0 <;> simp [ha, hnot]
  have habs : a.natAbs = b.natAbs := by rw [← hdigits, h, hdigits]
  have hneg : a < 0 ↔ b < 0 := by rw [← hsign, h, hsign]
  omega

theorem plain_eq_plain_iff : (Json.int a).plain = (Json.int b).plain ↔ a = b := by
  constructor
  · intro h
    refine integerText_injective ?_
    rwa [Json.plain, Json.plain, ← String.toList_inj, String.toList_ofList, String.toList_ofList] at h
  · rintro rfl
    rfl

theorem plain_operand (a : Int) : (operand (integerText a)).plain = .ok (Json.int (asRead a)).plain := by
  rw [operand_integerText, asRead]
  by_cases h : InRange a
  · have hpow {j k : Nat} (hjk : j ≤ k) : 2 ^ j ≤ Nat.pow 10 k :=
      (pow_le_pow_right₀ one_le_two hjk).trans (Nat.pow_le_pow_left (by decide) k)
    have hlt : (nearestInt a).natAbs < Nat.pow 10 4300 := by
      rw [Decimal.natAbs_nearestInt]
      exact h.trans_le (hpow (by decide : 1024 ≤ 4300))
    rw [if_pos h, if_pos h, Operand.plain, if_neg (Nat.not_le.2 hlt)]
    rfl
  · rw [if_neg h, if_neg h]
    rfl

theorem nearestNat_nearestInt_lt (h : InRange a) : nearestNat (nearestInt a).natAbs < 2 ^ 1024 := by
  rw [Decimal.natAbs_nearestInt, Decimal.nearestNat_nearestNat]
  exact h

theorem isFinite_nearestInt (h : InRange a) :
    (Decimal.nearest (decide (nearestInt a < 0)) (nearestInt a).natAbs 1).isFinite = true := by
  rw [Decimal.isFinite_nearest]
  exact decide_eq_true (nearestNat_nearestInt_lt h)

theorem toNumber?_of_inRange (h : InRange a) : (operand (integerText a)).toNumber? =
    .ok (some (Decimal.nearest (decide (nearestInt a < 0)) (nearestInt a).natAbs 1)) := by
  rw [operand_integerText, if_pos h]
  simp [Operand.toNumber?, Operand.toNumber?.ofInt, Decimal.ofInt?, isFinite_nearestInt h]

theorem toNumber?_of_not_inRange (h : ¬ InRange a) : (operand (integerText a)).toNumber? = .ok none := by
  rw [operand_integerText, if_neg h, Operand.toNumber?, String.toList_ofList, number?_integerText,
    decimal?_integerText, if_neg h]

/-- Is an integer less than another in a condition? If one is beyond the floating-point numbers, both are texts. -/
def ReadLess (a b : Int) : Prop :=
  ((InRange a ∧ InRange b) ∧ asRead a < asRead b) ∨
    (¬ (InRange a ∧ InRange b) ∧ (Json.int (asRead a)).plain < (Json.int (asRead b)).plain)

instance (a b : Int) : Decidable (ReadLess a b) :=
  inferInstanceAs (Decidable (_ ∨ _))

theorem readLess_of_inRange (ha : InRange a) (hb : InRange b) : ReadLess a b ↔ asRead a < asRead b := by
  rw [ReadLess, and_iff_right ⟨ha, hb⟩, or_iff_left fun h => h.1 ⟨ha, hb⟩]

theorem readLess_of_not (h : ¬ (InRange a ∧ InRange b)) :
    ReadLess a b ↔ (Json.int (asRead a)).plain < (Json.int (asRead b)).plain := by
  rw [ReadLess, and_iff_right h, or_iff_right fun hin => h hin.1]

theorem compare_eq_integers (a b : Int) :
    compare .eq (operand (integerText a)) (operand (integerText b)) = .ok (decide (asRead a = asRead b)) := by
  have hsame : ((Json.int (asRead a)).plain == (Json.int (asRead b)).plain) = decide (asRead a = asRead b) := by
    rw [Bool.eq_iff_iff, beq_iff_eq, decide_eq_true_iff, plain_eq_plain_iff]
  rw [← hsame, compare, plain_operand, plain_operand]
  rfl

theorem compare_ne_integers (a b : Int) :
    compare .ne (operand (integerText a)) (operand (integerText b)) = .ok (decide (asRead a ≠ asRead b)) := by
  have hother : ((Json.int (asRead a)).plain != (Json.int (asRead b)).plain) = decide (asRead a ≠ asRead b) := by
    rw [Bool.eq_iff_iff, bne_iff_ne, decide_eq_true_iff, ne_eq, ne_eq, plain_eq_plain_iff]
  rw [← hother, compare, plain_operand, plain_operand]
  rfl

theorem compare_lt_integers (a b : Int) :
    compare .lt (operand (integerText a)) (operand (integerText b)) = .ok (decide (ReadLess a b)) := by
  by_cases ha : InRange a
  · by_cases hb : InRange b
    · have hless := Decimal.nearest_lt_nearest (nearestNat_nearestInt_lt ha) (nearestNat_nearestInt_lt hb)
      rw [Decimal.nearestInt_nearestInt, Decimal.nearestInt_nearestInt] at hless
      rw [compare_numbers (by decide) (toNumber?_of_inRange ha) (toNumber?_of_inRange hb)]
      simp only [Comparison.orders, readLess_of_inRange ha hb, asRead, ha, hb, hless, ↓reduceIte]
    · rw [compare_texts (by decide) (toNumber?_of_inRange ha) (toNumber?_of_not_inRange hb) (.inr rfl)
        (plain_operand a) (plain_operand b)]
      simp only [Comparison.orders, readLess_of_not fun h => hb h.2]
  · obtain ⟨y, hy⟩ : ∃ y, (operand (integerText b)).toNumber? = .ok y := by
      by_cases hb : InRange b
      · exact ⟨_, toNumber?_of_inRange hb⟩
      · exact ⟨_, toNumber?_of_not_inRange hb⟩
    rw [compare_texts (by decide) (toNumber?_of_not_inRange ha) hy (.inl rfl) (plain_operand a) (plain_operand b)]
    simp only [Comparison.orders, readLess_of_not fun h => ha h.1]

/-! ## Conditions -/

/-- The digits of two integers around an operator are read as a comparison of them. -/
theorem eval_integers (op : Comparison) (a b : Int) :
    (parse (String.ofList (integerText a ++ spaced op.symbol ++ integerText b))).eval =
      compare op (operand (integerText a)) (operand (integerText b)) := by
  have hundivided (a : Int) : Undivided (integerText a) :=
    undivided_word (integerText_ne_nil a) fun _ => isOrdinary_of_mem
  have hfirst : (integerText a).head? ≠ some '!' := fun hhead =>
    notMem_integerText_of (by decide) rfl (List.mem_of_head? hhead)
  rw [parse_compare op (isPart_integerText a) (isPart_integerText b) (hundivided a) (hundivided b) hfirst, Expr.eval]

variable {s : Store} {p q : DataPoint}

/-- The condition that compares two data points. -/
def comparing (op : Comparison) (p q : DataPoint) : String :=
  Token.write ⟨p.id, none⟩ ++ " " ++ op.symbol ++ " " ++ Token.write ⟨q.id, none⟩

theorem resolveToken_int (hp : p ∈ s.points) (ha : p.value = .int a) :
    s.resolveToken ⟨p.id, none⟩ = .ok (String.ofList (integerText a)) := by
  simp only [Store.resolveToken, Store.lookup_of_mem hp, ha]
  rfl

/-- A condition on two data points that hold integers compares what is read of their digits. -/
theorem value_comparing (op : Comparison) (hp : p ∈ s.points) (hq : q ∈ s.points)
    (identp : Token.isIdent p.id = true) (identq : Token.isIdent q.id = true) (ha : p.value = .int a)
    (hb : q.value = .int b) : (holdsFor s (some (comparing op p q))).value =
      (compare op (operand (integerText a)) (operand (integerText b))).toOption.getD false := by
  have hbetween : (" " ++ op.symbol ++ " ").toList = spaced op.symbol := by simp [spaced]
  have hplain : '$' ∉ (" " ++ op.symbol ++ " ").toList := by
    rw [hbetween]
    cases op <;> decide
  have hcondition : comparing op p q =
      Token.write ⟨p.id, none⟩ ++ (" " ++ op.symbol ++ " ") ++ Token.write ⟨q.id, none⟩ := by
    simp only [comparing, String.append_assoc]
  have hresolved := Store.resolveText_pair (Token.isWellFormed_none.trans identp) hplain
    (Token.isWellFormed_none.trans identq) (resolveToken_int hp ha) (resolveToken_int hq hb)
  have hdigits : String.ofList (integerText a) ++ (" " ++ op.symbol ++ " ") ++ String.ofList (integerText b) =
      String.ofList (integerText a ++ spaced op.symbol ++ integerText b) := by
    rw [← hbetween, String.ofList_append, String.ofList_append, String.ofList_toList]
  have hne {t : Token} : t.chars ≠ [] := by
    rw [Token.chars_eq]
    exact List.cons_ne_nil _ _
  have hlist : (comparing op p q).toList =
      Token.chars ⟨p.id, none⟩ ++ spaced op.symbol ++ Token.chars ⟨q.id, none⟩ := by
    rw [hcondition, String.toList_append, String.toList_append, hbetween, Token.write, Token.write,
      String.toList_ofList, String.toList_ofList]
  have htrim : Text.trimChars (comparing op p q).toList = (comparing op p q).toList := by
    rw [hlist]
    exact Text.trimChars_append (Token.trimChars_chars (Token.isWellFormed_none.trans identp))
      (Token.trimChars_chars (Token.isWellFormed_none.trans identq)) hne hne _
  have hempty : comparing op p q ≠ "" := by
    refine mt String.toList_eq_nil_iff.2 ?_
    rw [hlist]
    exact List.append_ne_nil_of_right_ne_nil _ hne
  rw [← hcondition] at hresolved
  rw [value_holdsFor htrim hempty hresolved, hdigits, eval_integers]

/-- Up to 53 bits all of an integer is kept. -/
theorem asRead_eq_self (h : a.natAbs ≤ 2 ^ 53) : asRead a = a := by
  rw [asRead, Decimal.nearestInt_of_natAbs_le h, ite_self]

theorem inRange_of_natAbs_le (h : a.natAbs ≤ 2 ^ 53) : InRange a := by
  rw [InRange, Decimal.nearestNat_of_le h]
  exact h.trans_lt (Nat.pow_lt_pow_right one_lt_two (by decide))

theorem readLess_iff (h : a.natAbs ≤ 2 ^ 53) (h' : b.natAbs ≤ 2 ^ 53) : ReadLess a b ↔ a < b := by
  rw [readLess_of_inRange (inRange_of_natAbs_le h) (inRange_of_natAbs_le h'), asRead_eq_self h, asRead_eq_self h']

/-- Reading keeps the order, so what is read as less is less. -/
theorem lt_of_readLess (ha : InRange a) (hb : InRange b) (h : ReadLess a b) : a < b := by
  rw [readLess_of_inRange ha hb, asRead, asRead, if_pos ha, if_pos hb] at h
  exact lt_of_not_ge fun hle => h.not_ge (Decimal.nearestInt_mono hle)

theorem value_eq_decide {op : Comparison} {r : Prop} [Decidable r] (hp : p ∈ s.points) (hq : q ∈ s.points)
    (identp : Token.isIdent p.id = true) (identq : Token.isIdent q.id = true) (ha : p.value = .int a)
    (hb : q.value = .int b)
    (hcompare : compare op (operand (integerText a)) (operand (integerText b)) = .ok (decide r)) :
    (holdsFor s (some (comparing op p q))).value = decide r := by
  rw [value_comparing op hp hq identp identq ha hb, hcompare, Except.toOption, Option.getD_some]

/-- The data point `x`. -/
def pointX (a : Int) : DataPoint :=
  { id := "x", value := .int a, timestamp := 1 }

/-- The data point `y`. -/
def pointY (b : Int) : DataPoint :=
  { id := "y", value := .int b, timestamp := 2 }

/-- The store of two integers. -/
def twoIntegers (a b : Int) : Store :=
  (Store.empty.add (pointX a)).add (pointY b)

theorem pointX_mem : pointX a ∈ (twoIntegers a b).points := List.mem_cons_self

theorem pointY_mem : pointY b ∈ (twoIntegers a b).points := List.mem_cons_of_mem _ List.mem_cons_self

theorem comparing_points (op : Comparison) :
    comparing op (pointX a) (pointY b) = "${x} " ++ op.symbol ++ " ${y}" := by
  have hx : Token.write ⟨"x", none⟩ = "${x}" := by decide
  have hy : Token.write ⟨"y", none⟩ = "${y}" := by decide
  simp only [comparing, pointX, pointY, hx, hy]
  cases op <;> decide

end Runbook.Condition
