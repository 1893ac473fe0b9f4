import Runbook.Proofs.Decimal.Float
import Runbook.Proofs.Json.Scalar

/-!
# Numerals

A `Numeral` is a number as JSON writes it: digits, with or without a fraction and an exponent. Without both it is
an integer, and otherwise a floating-point number (`Numeral.value`). Every numeral is read as its value
(`Numeral.number_text`).

`exists_numeral_floatText`: the text of a finite floating-point number is a numeral, and its value is the number.
The digits lie in the interval of that number (`Decimal.isNear_shortest`), wherever the point stands among them.
-/

namespace Runbook

namespace Decimal

/-- Nothing but digits. -/
def AreDigits (cs : List Char) : Prop :=
  ∀ c ∈ cs, isDigit c = true

variable {cs ds : List Char} {n : Nat}

theorem areDigits_digitText (n : Nat) : AreDigits (digitText n) :=
  fun _ => isDigit_of_mem_digitText

theorem areDigits_zeros (n : Nat) : AreDigits (List.replicate n '0') := by
  intro c hc
  rw [List.eq_of_mem_replicate hc]
  decide

theorem AreDigits.append (h : AreDigits cs) (h' : AreDigits ds) : AreDigits (cs ++ ds) :=
  fun c hc => (List.mem_append.1 hc).elim (h c) (h' c)

theorem ofDigits_eq (h : AreDigits cs) : ofDigits cs = Nat.ofDigitChars 10 cs 0 :=
  foldl_digit? h 0

/-- Zeros before digits do not count. -/
theorem ofDigits_zeros_append (h : AreDigits cs) (n : Nat) : ofDigits (List.replicate n '0' ++ cs) = ofDigits cs := by
  rw [ofDigits_eq ((areDigits_zeros n).append h), Nat.ofDigitChars_append, Nat.ofDigitChars_replicate_zero, mul_zero,
    ← ofDigits_eq h]

/-- Each zero after digits makes ten times as much of them. -/
theorem ofDigits_append_zeros (h : AreDigits cs) (n : Nat) :
    ofDigits (cs ++ List.replicate n '0') = 10 ^ n * ofDigits cs := by
  rw [ofDigits_eq (h.append (areDigits_zeros n)), Nat.ofDigitChars_append, Nat.ofDigitChars_replicate_zero,
    ← ofDigits_eq h]

end Decimal

namespace Json

open Decimal (AreDigits Scientific)

/-- An exponent: its letter, its sign or none, and its digits. -/
structure Exponent where
  letter : Char
  sign : Option Char
  digits : List Char
  letter_eq : letter = 'e' ∨ letter = 'E'
  sign_eq : ∀ c ∈ sign, c = '+' ∨ c = '-'
  areDigits : AreDigits digits
  ne_nil : digits ≠ []

/-- How an exponent is written. -/
def Exponent.text (e : Exponent) : List Char :=
  e.letter :: (e.sign.toList ++ e.digits)

/-- The number that an exponent is. -/
def Exponent.value (e : Exponent) : Int :=
  if e.sign = some '-' then -(Decimal.ofDigits e.digits : Int) else (Decimal.ofDigits e.digits : Int)

/-- A number as JSON writes it. There is no point where there is no fraction. -/
structure Numeral where
  negative : Bool
  whole : List Char
  fraction : List Char
  exponent : Option Exponent
  whole_areDigits : AreDigits whole
  whole_ne_nil : whole ≠ []
  /-- Only zero starts with a zero. -/
  whole_eq_zero : whole.head? = some '0' → whole = ['0']
  fraction_areDigits : AreDigits fraction

namespace Numeral

variable (n : Numeral) {rest : List Char}

/-- How a number is written. -/
def text : List Char :=
  (if n.negative then ['-'] else []) ++ (n.whole ++
    ((if n.fraction.isEmpty then [] else '.' :: n.fraction) ++ n.exponent.elim [] Exponent.text))

/-- Has a number neither a fraction nor an exponent? -/
def isInteger : Bool :=
  n.fraction.isEmpty && n.exponent.isNone

/-- All digits of a number without the point, and the power of ten by which it would have to be moved. -/
def scientific : Scientific :=
  ⟨Decimal.ofDigits (n.whole ++ n.fraction), n.exponent.elim 0 Exponent.value - n.fraction.length⟩

/-- The value that is written. -/
def value : Json :=
  if n.isInteger then
    .int (if n.negative then -(Decimal.ofDigits n.whole : Int) else (Decimal.ofDigits n.whole : Int))
  else .float (Decimal.ofScientific n.negative n.scientific.digits n.scientific.exponent)

/-- Is a number read at all? An integer must not have too many digits. -/
def Fits : Prop :=
  n.isInteger = true → n.whole.length ≤ maxDigits

/-! ## Numerals are read -/

theorem wholeDigits_whole (h : ∀ c ∈ rest.head?, Decimal.isDigit c = false) :
    wholeDigits (n.whole ++ rest) = (n.whole, rest) := by
  by_cases hzero : n.whole.head? = some '0'
  · rw [n.whole_eq_zero hzero]
    rfl
  · exact wholeDigits_append n.whole_areDigits n.whole_ne_nil hzero h

theorem fractionDigits_fraction {cs : List Char} (hcs : AreDigits cs) (hne : cs ≠ [])
    (h : ∀ c ∈ rest.head?, Decimal.isDigit c = false) : fractionDigits ('.' :: (cs ++ rest)) = (cs, rest) := by
  obtain ⟨htake, hdrop⟩ := digits_append hcs h
  simp [fractionDigits, htake, hdrop, hne]

theorem exponentPart_text (e : Exponent) (h : ∀ c ∈ rest.head?, Decimal.isDigit c = false) :
    exponentPart (e.text ++ rest) = (some e.value, rest) := by
  obtain ⟨htake, hdrop⟩ := digits_append e.areDigits h
  have hletter : (e.letter == 'e' || e.letter == 'E') = true := by
    rcases e.letter_eq with heq | heq <;> simp [heq]
  have hsign : Decimal.splitSign (e.sign.toList ++ (e.digits ++ rest)) =
      (e.sign == some '-', e.digits ++ rest) := by
    cases hs : e.sign with
    | none =>
      obtain ⟨d, ds, hds⟩ := List.exists_cons_of_ne_nil e.ne_nil
      have hd : Decimal.isDigit d = true := e.areDigits d (hds ▸ List.mem_cons_self)
      rw [hds]
      simp only [Option.toList_none, List.nil_append, List.cons_append]
      unfold Decimal.splitSign
      split <;> rename_i heq
      · exact absurd ((List.cons.inj heq).1 ▸ hd) (by decide)
      · exact absurd ((List.cons.inj heq).1 ▸ hd) (by decide)
      · rfl
    | some c =>
      rcases e.sign_eq c (by simp [hs]) with rfl | rfl <;> rfl
  simp only [Exponent.text, List.cons_append, List.append_assoc, exponentPart, hsign, hletter, htake, hdrop]
  cases hs : e.sign == some '-' <;> simp_all [Exponent.value, e.ne_nil]

/-- The point and the fraction, if there is one. -/
def fractionText : List Char :=
  if n.fraction.isEmpty then [] else '.' :: n.fraction

/-- The exponent, if there is one. -/
def exponentText : List Char :=
  n.exponent.elim [] Exponent.text

theorem text_eq : n.text = (if n.negative then ['-'] else []) ++ (n.whole ++ (n.fractionText ++ n.exponentText)) :=
  rfl

theorem exponentPart_exponentText (h : EndsNumber rest) :
    exponentPart (n.exponentText ++ rest) = (n.exponent.map Exponent.value, rest) := by
  unfold exponentText
  cases n.exponent with
  | none => exact exponentPart_of_endsNumber h
  | some e => exact exponentPart_text e fun c hc => (h c hc).1

/-- An exponent or the end of the number is neither a digit nor a point. -/
theorem head?_exponentText (h : EndsNumber rest) :
    ∀ c ∈ (n.exponentText ++ rest).head?, Decimal.isDigit c = false ∧ c ≠ '.' := by
  unfold exponentText
  cases n.exponent with
  | none => exact fun c hc => ⟨(h c hc).1, (h c hc).2.1⟩
  | some e =>
    rintro c hc
    obtain rfl : e.letter = c := by simpa [Exponent.text] using hc
    rcases e.letter_eq with heq | heq <;> rw [heq] <;> decide

theorem fractionDigits_fractionText (h : EndsNumber rest) :
    fractionDigits (n.fractionText ++ (n.exponentText ++ rest)) = (n.fraction, n.exponentText ++ rest) := by
  have hhead := n.head?_exponentText h
  unfold fractionText
  split
  · rename_i hempty
    rw [List.isEmpty_iff.1 hempty, List.nil_append]
    unfold fractionDigits
    split
    · rename_i hpoint
      rw [hpoint] at hhead
      exact absurd rfl (hhead '.' rfl).2
    · rfl
  · rename_i hne
    exact fractionDigits_fraction n.fraction_areDigits (by simpa using hne) fun c hc => (hhead c hc).1

theorem wholeDigits_fractionText (h : EndsNumber rest) :
    wholeDigits (n.whole ++ (n.fractionText ++ (n.exponentText ++ rest))) =
      (n.whole, n.fractionText ++ (n.exponentText ++ rest)) := by
  refine n.wholeDigits_whole fun c hc => ?_
  unfold fractionText at hc
  split at hc
  · exact (n.head?_exponentText h c hc).1
  · obtain rfl : '.' = c := by simpa using hc
    decide

theorem text_append : n.text ++ rest =
    (if n.negative then ['-'] else []) ++ (n.whole ++ (n.fractionText ++ (n.exponentText ++ rest))) := by
  simp [text_eq]

theorem exists_digit : ∃ d ds, n.whole = d :: ds ∧ Decimal.isDigit d = true := by
  obtain ⟨d, ds, hds⟩ := List.exists_cons_of_ne_nil n.whole_ne_nil
  exact ⟨d, ds, hds, n.whole_areDigits d (hds ▸ List.mem_cons_self)⟩

/-- A number is read as its value, whatever follows that is no more of it. -/
theorem number_text (hfits : n.Fits) (h : EndsNumber rest) : number (n.text ++ rest) = .ok (n.value, rest) := by
  have hwhole := n.wholeDigits_fractionText h
  have hfraction := n.fractionDigits_fractionText h
  have hexponent := n.exponentPart_exponentText h
  have hne : n.whole.isEmpty = false := by simpa using n.whole_ne_nil
  have hgetD : (n.exponent.map Exponent.value).getD 0 = n.exponent.elim 0 Exponent.value := by
    cases n.exponent <;> rfl
  have hshort : n.isInteger = true → ¬ maxDigits < n.whole.length := fun h => Nat.not_lt.2 (hfits h)
  have hminus : ∀ ds, n.whole ++ (n.fractionText ++ (n.exponentText ++ rest)) ≠ '-' :: ds := by
    obtain ⟨d, ds, hds, hd⟩ := n.exists_digit
    intro ds' heq
    rw [hds] at heq
    exact absurd ((List.cons.inj heq).1 ▸ hd) (by decide)
  rw [text_append, value]
  generalize n.whole ++ (n.fractionText ++ (n.exponentText ++ rest)) = body at hwhole hminus ⊢
  cases hnegative : n.negative <;> by_cases hinteger : n.isInteger = true
  all_goals
    simp only [isInteger] at hinteger hshort
    simp [number, hwhole, hne, hfraction, hexponent, hgetD, scientific, isInteger, hinteger, hshort]

end Numeral

/-! ## Floating-point numbers are written as numerals -/

/-- Does a numeral write a decimal number, as a floating-point number with a sign? -/
structure Numeral.Writes (n : Numeral) (negative : Bool) (s : Scientific) : Prop where
  negative_eq : n.negative = negative
  isInteger_eq : n.isInteger = false
  toRat_eq : n.scientific.toRat = s.toRat

/-- An exponent with its sign and at least two digits. -/
def Exponent.ofInt (e : Int) : Exponent where
  letter := 'e'
  sign := some (if e < 0 then '-' else '+')
  digits :=
    if (Decimal.digitText e.natAbs).length < 2 then '0' :: Decimal.digitText e.natAbs
    else Decimal.digitText e.natAbs
  letter_eq := .inl rfl
  sign_eq := by
    intro c hc
    obtain rfl := Option.some.inj hc
    split
    · exact .inr rfl
    · exact .inl rfl
  areDigits := by
    split
    · exact (Decimal.areDigits_zeros 1).append (Decimal.areDigits_digitText _)
    · exact Decimal.areDigits_digitText _
  ne_nil := by
    split
    · exact List.cons_ne_nil _ _
    · exact Decimal.digitText_ne_nil _

theorem Exponent.text_ofInt (e : Int) : (Exponent.ofInt e).text = Decimal.exponentText e :=
  rfl

theorem Exponent.value_ofInt (e : Int) : (Exponent.ofInt e).value = e := by
  have hdigits : Decimal.ofDigits (Exponent.ofInt e).digits = e.natAbs := by
    unfold Exponent.ofInt
    dsimp only
    split
    · exact (Decimal.ofDigits_zeros_append (Decimal.areDigits_digitText _) 1).trans (Decimal.ofDigits_digitText _)
    · exact Decimal.ofDigits_digitText _
  rw [Exponent.value, hdigits]
  by_cases h : e < 0
  · have hsign : (Exponent.ofInt e).sign = some '-' := congrArg some (if_pos h)
    rw [if_pos hsign]
    omega
  · have hsign : (Exponent.ofInt e).sign = some '+' := congrArg some (if_neg h)
    rw [if_neg (by simp [hsign])]
    omega

variable {s : Scientific} (negative : Bool)

theorem eq_zero_of_head? {n : Nat} (h : (Decimal.digitText n).head? = some '0') : n = 0 := by
  by_contra hpos
  exact Decimal.head?_digitText (Nat.pos_of_ne_zero hpos) h

/-- Digits, zeros up to the point, and a zero after it. -/
theorem exists_numeral_whole {k : Nat} (hexponent : s.exponent = k) (hzero : s.digits = 0 → k = 0) :
    ∃ n : Numeral, n.text = (if negative then ['-'] else []) ++
      (Decimal.digitText s.digits ++ List.replicate k '0' ++ ['.', '0']) ∧ n.Writes negative s := by
  have hdigits := Decimal.areDigits_digitText s.digits
  have hne := Decimal.digitText_ne_nil s.digits
  refine ⟨⟨negative, Decimal.digitText s.digits ++ List.replicate k '0', ['0'], none,
    hdigits.append (Decimal.areDigits_zeros k), by simp [hne], fun h => ?_, Decimal.areDigits_zeros 1⟩,
    ?_, rfl, rfl, ?_⟩
  · rw [List.head?_append_of_ne_nil _ hne] at h
    have hdigit := eq_zero_of_head? h
    rw [hdigit, hzero hdigit]
    rfl
  · simp [Numeral.text]
  · have hvalue : Decimal.ofDigits (Decimal.digitText s.digits ++ List.replicate k '0' ++ ['0']) =
        10 ^ (k + 1) * s.digits := by
      have hzeros := Decimal.ofDigits_append_zeros hdigits (k + 1)
      rwa [List.replicate_succ', ← List.append_assoc, Decimal.ofDigits_digitText] at hzeros
    have hpower : (10 : ℚ) ^ (0 - (1 : Int)) = 10⁻¹ := by norm_num
    simp only [Numeral.scientific, Scientific.toRat, hvalue, hexponent, Option.elim_none, List.length_singleton,
      Nat.cast_one, hpower]
    push_cast
    rw [pow_succ, zpow_natCast]
    ring

/-- The point stands among the digits. -/
theorem exists_numeral_pointed {k : Nat} (hexponent : s.exponent < 0)
    (hplace : ((Decimal.digitText s.digits).length : Int) + s.exponent = k) (hk : 0 < k)
    (hzero : s.digits = 0 → s.exponent = 0) :
    ∃ n : Numeral, n.text = (if negative then ['-'] else []) ++
      ((Decimal.digitText s.digits).take k ++ '.' :: (Decimal.digitText s.digits).drop k) ∧ n.Writes negative s := by
  have hdigits := Decimal.areDigits_digitText s.digits
  have hof := Decimal.ofDigits_digitText s.digits
  have hhead : ((Decimal.digitText s.digits).take k).head? = (Decimal.digitText s.digits).head? := by
    simp [List.head?_take, hk.ne']
  have hpoint : ((Decimal.digitText s.digits).drop k).isEmpty = false := by
    rw [← Bool.not_eq_true, List.isEmpty_iff, List.drop_eq_nil_iff]
    omega
  refine ⟨⟨negative, (Decimal.digitText s.digits).take k, (Decimal.digitText s.digits).drop k, none,
    fun c hc => hdigits c (List.mem_of_mem_take hc), ?_, fun h => ?_, fun c hc => hdigits c (List.mem_of_mem_drop hc)⟩,
    ?_, rfl, ?_, ?_⟩
  · simp [Decimal.digitText_ne_nil, hk.ne']
  · have := hzero (eq_zero_of_head? (hhead ▸ h))
    omega
  · simp [Numeral.text, hpoint]
  · simp [Numeral.isInteger, hpoint]
  · have hlength : (0 : Int) - ((Decimal.digitText s.digits).drop k).length = s.exponent := by
      rw [List.length_drop]
      omega
    simp only [Numeral.scientific, Scientific.toRat, List.take_append_drop, hof, Option.elim_none, hlength]

/-- The point stands before all digits, with zeros between. -/
theorem exists_numeral_fraction {k : Nat}
    (hplace : -(((Decimal.digitText s.digits).length : Int) + s.exponent) = k) :
    ∃ n : Numeral, n.text = (if negative then ['-'] else []) ++
      ('0' :: '.' :: (List.replicate k '0' ++ Decimal.digitText s.digits)) ∧ n.Writes negative s := by
  have hdigits := Decimal.areDigits_digitText s.digits
  have hne := Decimal.digitText_ne_nil s.digits
  have hall : AreDigits (List.replicate k '0' ++ Decimal.digitText s.digits) :=
    (Decimal.areDigits_zeros k).append hdigits
  refine ⟨⟨negative, ['0'], List.replicate k '0' ++ Decimal.digitText s.digits, none, Decimal.areDigits_zeros 1,
    by simp, fun _ => rfl, hall⟩, ?_, rfl, ?_, ?_⟩
  · simp [Numeral.text, hne]
  · simp [Numeral.isInteger, hne]
  · have hvalue : Decimal.ofDigits ('0' :: (List.replicate k '0' ++ Decimal.digitText s.digits)) = s.digits := by
      rw [← List.cons_append, ← List.replicate_succ, Decimal.ofDigits_zeros_append hdigits, Decimal.ofDigits_digitText]
    have hlength : (0 : Int) - (List.replicate k '0' ++ Decimal.digitText s.digits).length = s.exponent := by
      rw [List.length_append, List.length_replicate]
      omega
    simp only [Numeral.scientific, Scientific.toRat, List.singleton_append, hvalue, hlength, Option.elim_none]

/-- Without an exponent a decimal number is written as a numeral. -/
theorem exists_numeral_positional (hzero : s.digits = 0 → s.exponent = 0) :
    ∃ n : Numeral, n.text = (if negative then ['-'] else []) ++ Decimal.positional .exact s ∧ n.Writes negative s := by
  have hkeeps : Decimal.Style.exact.keepsPoint = true := rfl
  simp only [Decimal.positional, hkeeps, if_true]
  by_cases hwhole : 0 ≤ s.exponent
  · rw [if_pos hwhole]
    refine exists_numeral_whole negative (Int.toNat_of_nonneg hwhole).symm fun h => ?_
    rw [hzero h]
    rfl
  · rw [if_neg hwhole]
    by_cases hplace : 0 < ((Decimal.digitText s.digits).length : Int) + s.exponent
    · rw [if_pos hplace]
      exact exists_numeral_pointed negative (by omega) (Int.toNat_of_nonneg hplace.le).symm (by omega) hzero
    · rw [if_neg hplace]
      exact exists_numeral_fraction negative (Int.toNat_of_nonneg (by omega)).symm

/-- So it is with an exponent. -/
theorem exists_numeral_exponential (s : Scientific) :
    ∃ n : Numeral, n.text = (if negative then ['-'] else []) ++ Decimal.exponential s ∧ n.Writes negative s := by
  have hdigits := Decimal.areDigits_digitText s.digits
  have hof := Decimal.ofDigits_digitText s.digits
  obtain ⟨d, ds, hds⟩ := List.exists_cons_of_ne_nil (Decimal.digitText_ne_nil s.digits)
  simp only [Decimal.exponential, hds] at hdigits hof ⊢
  have hfirst : AreDigits [d] := fun c hc => hdigits c (by simp_all)
  have hrest : AreDigits ds := fun c hc => hdigits c (List.mem_cons_of_mem d hc)
  refine ⟨⟨negative, [d], ds, some (.ofInt ((ds.length : Int) + s.exponent)), hfirst, by simp, by simp, hrest⟩,
    ?_, rfl, ?_, ?_⟩
  · have hplace : ((d :: ds).length : Int) + s.exponent - 1 = ds.length + s.exponent := by
      rw [List.length_cons]
      omega
    rw [hplace]
    cases ds with
    | nil => simp [Numeral.text, Exponent.text_ofInt]
    | cons d' ds => simp [Numeral.text, Exponent.text_ofInt]
  · simp [Numeral.isInteger]
  · simp [Numeral.scientific, Scientific.toRat, hof, Exponent.value_ofInt]

theorem writeScientific_eq (style : Decimal.Style) (s : Scientific) :
    style.writeScientific s = Decimal.positional style s ∨ style.writeScientific s = Decimal.exponential s :=
  ite_eq_or_eq _ _ _

theorem shortest_zero {m : Nat} {q : Int} (h : Decimal.IsMagnitude m q)
    (hzero : (Decimal.shortest m q).digits = 0) : (Decimal.shortest m q).exponent = 0 := by
  rcases Nat.eq_zero_or_pos m with rfl | hm
  · rfl
  · have hpos := (Decimal.isNear_shortest h hm).pos hm
    rw [Scientific.toRat, hzero, Nat.cast_zero, zero_mul] at hpos
    exact absurd hpos (lt_irrefl 0)

/-- The text of a finite floating-point number is a numeral of that number. -/
theorem exists_numeral_floatText {x : Float} {negative : Bool} {m : Nat} {q : Int}
    (h : Decimal.Value.ofFloat x = .finite negative m q) :
    ∃ n : Numeral, n.text = floatText x ∧ n.value = .float x ∧ n.Fits := by
  have hmagnitude := (Decimal.toNat_toBits h).1
  have htext : floatText x =
      (if negative then ['-'] else []) ++ Decimal.Style.exact.writeScientific (Decimal.shortest m q) := by
    simp only [floatText, Decimal.Style.write, h]
    cases negative <;> simp [Decimal.Style.exact]
  have hwritten : ∃ n : Numeral, n.text = floatText x ∧ n.Writes negative (Decimal.shortest m q) := by
    rw [htext]
    rcases writeScientific_eq .exact (Decimal.shortest m q) with heq | heq <;> rw [heq]
    · exact exists_numeral_positional negative (shortest_zero hmagnitude)
    · exact exists_numeral_exponential negative _
  obtain ⟨n, hn, hwrites⟩ := hwritten
  refine ⟨n, hn, ?_, fun hinteger => absurd hinteger (by simp [hwrites.isInteger_eq])⟩
  rw [Numeral.value, hwrites.isInteger_eq, hwrites.negative_eq, if_neg Bool.false_ne_true]
  congr 1
  rcases Nat.eq_zero_or_pos m with rfl | hm
  · have hzero : n.scientific.toRat = 0 := hwrites.toRat_eq.trans (by simp [Scientific.toRat, Decimal.shortest])
    have hdigits : n.scientific.digits = 0 := by
      exact_mod_cast (mul_eq_zero.1 hzero).resolve_right (zpow_ne_zero _ (by norm_num))
    rw [Decimal.ofScientific, hdigits]
    exact Decimal.nearest_zero h
  · have near := Decimal.isNear_shortest hmagnitude hm
    rw [← hwrites.toRat_eq] at near
    exact Decimal.ofScientific_of_isNear h hm near

end Json

end Runbook
