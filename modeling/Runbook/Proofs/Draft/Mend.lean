import Runbook.Proofs.Draft.Requote
import Runbook.Proofs.Text.Substring

/-!
# What mending leaves alone

A slip (`IsSlip`) is a comma before a closing brace or bracket, or a bare name before a colon. The corrections look
for slips in the characters of a text alone. Outside its strings, JSON text has none (`respects_dropTrailingCommas`,
`respects_quoteNames`); so a text without a slip in its strings is mended to a text of the same value
(`read_mend`), and a slip in a string is corrected all the same (`read_mend_slip`).
-/

namespace Runbook.Draft

open Json

variable {cs ds rest gap : List Char} {c : Char} {part : Part}

/-! ## Slips -/

/-- Is the text a slip from its first to its last character? -/
inductive IsSlip : List Char → Prop
  | trailingComma {blanks : List Char} {close : Char} (hblanks : ∀ c ∈ blanks, Text.isBlank c = true)
      (hclose : close = '}' ∨ close = ']') : IsSlip (',' :: (blanks ++ [close]))
  | bareName {opening first : Char} {blanks name blanks' : List Char} (hopening : opening = '{' ∨ opening = ',')
      (hblanks : ∀ c ∈ blanks, Text.isBlank c = true) (hfirst : isNameStart first = true)
      (hname : ∀ c ∈ name, isNameChar c = true) (hblanks' : ∀ c ∈ blanks', Text.isBlank c = true) :
      IsSlip (opening :: (blanks ++ first :: (name ++ (blanks' ++ [':']))))

/-- Is there no slip in a text? -/
def Clean (cs : List Char) : Prop :=
  ∀ slip, slip <:+: cs → ¬ IsSlip slip

theorem Clean.of_infix (h : Clean cs) (hds : ds <:+: cs) : Clean ds :=
  fun slip hslip => h slip (hslip.trans hds)

/-- Does a character stop every slip? It is no part of one. -/
structure Stops (c : Char) : Prop where
  not_blank : Text.isBlank c = false
  not_nameChar : isNameChar c = false
  not_special : c ∉ ['}', ']', ':', '{', ',']

theorem stops_quote : Stops '"' :=
  ⟨by decide, by decide, by decide⟩

/-! ## Trailing commas -/

theorem closesNext_eq_true : closesNext cs = true ↔
    ∃ close after, cs.dropWhile Text.isBlank = close :: after ∧ (close = '}' ∨ close = ']') := by
  unfold closesNext
  split
  · rename_i after heq
    simpa using ⟨'}', ⟨after, heq⟩, .inl rfl⟩
  · rename_i after heq
    simpa using ⟨']', ⟨after, heq⟩, .inr rfl⟩
  · rename_i hbrace hbracket
    simp only [Bool.false_eq_true, false_iff, not_exists, not_and, not_or]
    exact fun close after heq =>
      ⟨fun hclose => hbrace after (hclose ▸ heq), fun hclose => hbracket after (hclose ▸ heq)⟩

/-- What closes next stands before a character that stops every slip. -/
theorem closesNext_stop (hc : Stops c) (h : closesNext cs = false) (rest : List Char) :
    closesNext (cs ++ c :: rest) = false := by
  rw [← Bool.not_eq_true, closesNext_eq_true] at h ⊢
  rintro ⟨close, after, heq, hclose⟩
  rw [Text.dropWhile_stop hc.not_blank] at heq
  cases hdrop : cs.dropWhile Text.isBlank with
  | nil =>
    rw [hdrop] at heq
    obtain rfl := (List.cons.inj heq).1
    rcases hclose with rfl | rfl <;> exact absurd hc.not_special (by simp)
  | cons d ds =>
    rw [hdrop] at heq
    obtain rfl := (List.cons.inj heq).1
    exact h ⟨d, ds, hdrop, hclose⟩

theorem dropTrailingCommas_cons (h : c = ',' → closesNext cs = false) :
    dropTrailingCommas (c :: cs) = c :: dropTrailingCommas cs := by
  rw [dropTrailingCommas, if_neg]
  simp only [Bool.and_eq_true, decide_eq_true_eq, not_and]
  exact fun hcomma => by simp [h hcomma]

/-! ## Bare names -/

/-- The parts of a bare name that is found. -/
theorem bareName?_ne_none : bareName? cs ≠ none ↔
    ∃ first name after, (cs.dropWhile Text.isBlank).takeWhile isNameChar = first :: name ∧
      ((cs.dropWhile Text.isBlank).dropWhile isNameChar).dropWhile Text.isBlank = ':' :: after ∧
      isNameStart first = true := by
  simp only [bareName?]
  split
  · rename_i first name after hfirst hafter
    rw [hfirst, hafter]
    by_cases hstart : isNameStart first = true
    · simp [hstart]
    · simp [hstart]
  · rename_i hnone
    simp only [ne_eq, not_true, false_iff, not_exists, not_and]
    exact fun first name after hfirst hafter => absurd hafter (hnone first name after hfirst)

/-- A bare name stands before a character that stops every slip. -/
theorem bareName?_stop (hc : Stops c) (h : bareName? cs = none) (rest : List Char) :
    bareName? (cs ++ c :: rest) = none := by
  by_contra hfound
  obtain ⟨first, name, after, hfirst, hafter, hstart⟩ := bareName?_ne_none.1 hfound
  simp only [Text.dropWhile_stop hc.not_blank, Text.dropWhile_stop hc.not_nameChar, Text.takeWhile_stop hc.not_nameChar]
    at hfirst hafter
  cases hrest : ((cs.dropWhile Text.isBlank).dropWhile isNameChar).dropWhile Text.isBlank with
  | nil =>
    rw [hrest] at hafter
    obtain rfl := (List.cons.inj hafter).1
    exact absurd hc.not_special (by simp)
  | cons d ds =>
    rw [hrest] at hafter
    obtain rfl := (List.cons.inj hafter).1
    exact bareName?_ne_none.2 ⟨first, name, ds, hfirst, hrest, hstart⟩ h

theorem quoteNamesFrom_cons (h : c = '{' ∨ c = ',' → bareName? cs = none) :
    quoteNamesFrom 0 (c :: cs) = c :: quoteNamesFrom 0 cs := by
  have hnone : (if c = '{' || c = ',' then bareName? cs else none) = none := by
    split
    · rename_i hopening
      exact h (by simpa using hopening)
    · rfl
  rw [quoteNamesFrom, hnone]

/-! ## Texts without a slip -/

theorem not_blank_of_isNameChar (h : isNameChar c = true) : Text.isBlank c = false := by
  have hlt : c.toNat < 128 := by
    simp only [isNameChar, isNameStart, Bool.or_eq_true, Bool.and_eq_true, decide_eq_true_eq, beq_iff_eq, Char.le_def,
      UInt32.le_iff_toNat_le] at h
    rcases h with ((⟨-, h⟩ | ⟨-, h⟩) | rfl) | ⟨-, h⟩
    · exact Nat.lt_of_le_of_lt h (by decide)
    · exact Nat.lt_of_le_of_lt h (by decide)
    · decide
    · exact Nat.lt_of_le_of_lt h (by decide)
  have hall : ∀ n < 128, isNameChar (Char.ofNat n) = true → Text.isBlank (Char.ofNat n) = false := by decide
  simpa using hall c.toNat hlt (by simpa using h)

/-- A comma is taken out where a trailing comma stands, and nowhere else. -/
theorem closesNext_iff : closesNext cs = true ↔ ∃ blanks close after, cs = blanks ++ close :: after ∧
    (∀ c ∈ blanks, Text.isBlank c = true) ∧ (close = '}' ∨ close = ']') := by
  rw [closesNext_eq_true]
  constructor
  · rintro ⟨close, after, heq, hclose⟩
    refine ⟨cs.takeWhile Text.isBlank, close, after, ?_, fun c hc => List.mem_takeWhile_imp hc, hclose⟩
    rw [← heq, List.takeWhile_append_dropWhile]
  · rintro ⟨blanks, close, after, rfl, hblanks, hclose⟩
    have hblank : Text.isBlank close = false := by rcases hclose with rfl | rfl <;> decide
    refine ⟨close, after, ?_, hclose⟩
    rw [Text.dropWhile_stop hblank, List.dropWhile_eq_nil_iff.2 hblanks, List.nil_append]

/-- A name is put in quotes where a bare name stands, and nowhere else. -/
theorem bareName?_iff : bareName? cs ≠ none ↔ ∃ blanks first name blanks' after,
    cs = blanks ++ first :: (name ++ (blanks' ++ ':' :: after)) ∧ (∀ c ∈ blanks, Text.isBlank c = true) ∧
      isNameStart first = true ∧ (∀ c ∈ name, isNameChar c = true) ∧ ∀ c ∈ blanks', Text.isBlank c = true := by
  rw [bareName?_ne_none]
  constructor
  · rintro ⟨first, name, after, hfirst, hafter, hstart⟩
    have hblanks := List.takeWhile_append_dropWhile (p := Text.isBlank) (l := cs)
    generalize cs.dropWhile Text.isBlank = named at hblanks hfirst hafter
    have hname := List.takeWhile_append_dropWhile (p := isNameChar) (l := named)
    have hblanks' := List.takeWhile_append_dropWhile (p := Text.isBlank) (l := named.dropWhile isNameChar)
    rw [hafter] at hblanks'
    rw [hfirst, ← hblanks'] at hname
    refine ⟨cs.takeWhile Text.isBlank, first, name, (named.dropWhile isNameChar).takeWhile Text.isBlank, after, ?_,
      fun c hc => List.mem_takeWhile_imp hc, hstart, fun c hc => ?_, fun c hc => List.mem_takeWhile_imp hc⟩
    · exact hblanks.symm.trans (congrArg _ hname.symm)
    · have hmem : c ∈ named.takeWhile isNameChar := hfirst ▸ List.mem_cons_of_mem first hc
      exact List.mem_takeWhile_imp hmem
  · rintro ⟨blanks, first, name, blanks', after, rfl, hblanks, hstart, hname, hblanks'⟩
    have hfirst : isNameChar first = true := by simp [isNameChar, hstart]
    have hnamed : ∀ c ∈ first :: name, isNameChar c = true := List.forall_mem_cons.2 ⟨hfirst, hname⟩
    have hdrop : (blanks ++ first :: (name ++ (blanks' ++ ':' :: after))).dropWhile Text.isBlank =
        first :: name ++ (blanks' ++ ':' :: after) := by
      rw [Text.dropWhile_stop (not_blank_of_isNameChar hfirst), List.dropWhile_eq_nil_iff.2 hblanks]
      rfl
    have hstop : (blanks' ++ ':' :: after).takeWhile isNameChar = [] ∧
        (blanks' ++ ':' :: after).dropWhile isNameChar = blanks' ++ ':' :: after := by
      cases blanks' with
      | nil => exact ⟨rfl, rfl⟩
      | cons d ds =>
        have hd : isNameChar d = false := by
          by_contra hname
          have hblank := not_blank_of_isNameChar (by simpa using hname)
          rw [hblanks' d List.mem_cons_self] at hblank
          cases hblank
        simp [hd]
    refine ⟨first, name, after, ?_, ?_, hstart⟩
    · rw [hdrop, List.takeWhile_append_of_pos hnamed, hstop.1, List.append_nil]
    · rw [hdrop, List.dropWhile_append_of_pos hnamed, hstop.2, List.dropWhile_append_of_pos hblanks']
      rfl

/-- The corrections find every slip, and nothing else. -/
theorem clean_cons : Clean (c :: cs) ↔
    ((c = ',' → closesNext cs = false) ∧ (c = '{' ∨ c = ',' → bareName? cs = none)) ∧ Clean cs := by
  constructor
  · intro h
    refine ⟨⟨fun hcomma => ?_, fun hopening => ?_⟩, h.of_infix (List.suffix_cons c cs).isInfix⟩
    · rw [← Bool.not_eq_true, closesNext_iff]
      rintro ⟨blanks, close, after, rfl, hblanks, hclose⟩
      exact h (',' :: (blanks ++ [close])) ⟨[], after, by simp [hcomma]⟩ (.trailingComma hblanks hclose)
    · by_contra hfound
      obtain ⟨blanks, first, name, blanks', after, rfl, hblanks, hstart, hname, hblanks'⟩ := bareName?_iff.1 hfound
      exact h (c :: (blanks ++ first :: (name ++ (blanks' ++ [':'])))) ⟨[], after, by simp⟩
        (.bareName hopening hblanks hstart hname hblanks')
  · rintro ⟨⟨hcomma, hopening⟩, hclean⟩ slip hslip h
    rcases List.infix_cons_iff.1 hslip with ⟨after, hafter⟩ | hinfix
    · cases h with
      | @trailingComma blanks close hblanks hclose =>
        obtain ⟨rfl, htail⟩ := List.cons.inj hafter
        have hcloses := closesNext_iff.2 ⟨blanks, close, after, by simpa using htail.symm, hblanks, hclose⟩
        rw [hcomma rfl] at hcloses
        cases hcloses
      | @bareName opening first blanks name blanks' hopen hblanks hfirst hname hblanks' =>
        obtain ⟨rfl, htail⟩ := List.cons.inj hafter
        exact bareName?_iff.2 ⟨blanks, first, name, blanks', after, by simpa using htail.symm, hblanks, hfirst, hname,
          hblanks'⟩ (hopening hopen)
    · exact hclean slip hinfix h

theorem clean_nil : Clean [] := by
  intro slip hslip h
  rw [List.infix_nil] at hslip
  subst hslip
  cases h

instance decidableClean : (cs : List Char) → Decidable (Clean cs)
  | [] => isTrue clean_nil
  | _ :: cs =>
    have := decidableClean cs
    decidable_of_iff _ clean_cons.symm

theorem dropTrailingCommas_of_clean (h : Clean cs) (hc : Stops c) (rest : List Char) :
    dropTrailingCommas (cs ++ c :: rest) = cs ++ c :: dropTrailingCommas rest := by
  induction cs with
  | nil =>
    refine dropTrailingCommas_cons fun hcomma => ?_
    subst hcomma
    exact absurd hc.not_special (by simp)
  | cons d cs ih =>
    obtain ⟨⟨hcomma, -⟩, hclean⟩ := clean_cons.1 h
    rw [List.cons_append, dropTrailingCommas_cons fun heq => closesNext_stop hc (hcomma heq) rest, ih hclean,
      List.cons_append]

theorem quoteNamesFrom_of_clean (h : Clean cs) (hc : Stops c) (rest : List Char) :
    quoteNamesFrom 0 (cs ++ c :: rest) = cs ++ c :: quoteNamesFrom 0 rest := by
  induction cs with
  | nil =>
    refine quoteNamesFrom_cons fun hopening => ?_
    rcases hopening with rfl | rfl <;> exact absurd hc.not_special (by simp)
  | cons d cs ih =>
    obtain ⟨⟨-, hopening⟩, hclean⟩ := clean_cons.1 h
    rw [List.cons_append, quoteNamesFrom_cons fun heq => bareName?_stop hc (hopening heq) rest, ih hclean,
      List.cons_append]

/-! ## Outside strings -/

theorem isBlank_of_isGap (h : IsGap gap) : ∀ c ∈ gap, Text.isBlank c = true := by
  intro c hc
  have hspace := h c hc
  simp only [isSpace, Bool.or_eq_true, beq_iff_eq] at hspace
  obtain ((rfl | rfl) | rfl) | rfl := hspace <;> decide

theorem not_nameChar_of_isSpace (h : isSpace c = true) : isNameChar c = false := by
  simp only [isSpace, Bool.or_eq_true, beq_iff_eq] at h
  obtain ((rfl | rfl) | rfl) | rfl := h <;> decide

/-- Does a character start a value or the name of a member, and no bare name? -/
structure Starts (c : Char) : Prop where
  not_blank : Text.isBlank c = false
  not_close : c ≠ '}' ∧ c ≠ ']'
  not_nameStart : isNameStart c = false

theorem starts_of_isDigit (h : Decimal.isDigit c = true) : Starts c := by
  rw [Decimal.isDigit_eq_isDigit] at h
  have hrange : 48 ≤ c.toNat ∧ c.toNat ≤ 57 := by
    simpa [Char.isDigit, UInt32.le_iff_toNat_le] using h
  have hall : ∀ n < 58, 48 ≤ n → Text.isBlank (Char.ofNat n) = false ∧
      (Char.ofNat n ≠ '}' ∧ Char.ofNat n ≠ ']') ∧ isNameStart (Char.ofNat n) = false := by
    decide
  have hc := hall c.toNat (by omega) hrange.1
  rw [Char.ofNat_toNat] at hc
  exact ⟨hc.1, hc.2.1, hc.2.2⟩

variable {literal : List Char → String → Prop} {json : Json}

/-- A value is a word that could be a bare name, or starts with a character that starts none. -/
theorem word_or_starts (hliteral : ∀ cs text, literal cs text → Quoted '"' cs text)
    (h : Renders literal cs (.value json)) :
    (cs ≠ [] ∧ ∀ c ∈ cs, isNameChar c = true ∧ Text.isBlank c = false) ∨ ∃ c ds, cs = c :: ds ∧ Starts c := by
  cases h with
  | word h =>
    simp only [words, List.mem_cons, Prod.mk.injEq, List.not_mem_nil, or_false] at h
    obtain ⟨rfl, rfl⟩ | ⟨rfl, rfl⟩ | ⟨rfl, rfl⟩ | ⟨rfl, rfl⟩ | ⟨rfl, rfl⟩ | ⟨rfl, rfl⟩ := h
    iterate 5
      · left
        simp
        decide
    · exact .inr ⟨'-', _, rfl, by decide, by decide, by decide⟩
  | numeral n _ =>
    obtain ⟨d, ds, hds, hd⟩ := n.exists_digit
    rw [n.text_eq, hds]
    cases n.negative
    · exact .inr ⟨d, _, rfl, starts_of_isDigit hd⟩
    · exact .inr ⟨'-', _, rfl, by decide, by decide, by decide⟩
  | str h =>
    obtain ⟨body, -, rfl⟩ := hliteral _ _ h
    exact .inr ⟨'"', _, rfl, by decide, by decide, by decide⟩
  | emptyList | list => exact .inr ⟨'[', _, rfl, by decide, by decide, by decide⟩
  | emptyRecord | record => exact .inr ⟨'{', _, rfl, by decide, by decide, by decide⟩

/-- What may stand after a comma: a character that starts no bare name, or a word and then a comma or the end of a
list. -/
inductive FollowsComma : List Char → Prop
  | start {c : Char} {ds : List Char} (hc : Starts c) : FollowsComma (c :: ds)
  | word {word gap ds : List Char} {c : Char} (hne : word ≠ [])
      (hword : ∀ c ∈ word, isNameChar c = true ∧ Text.isBlank c = false) (hgap : IsGap gap) (hc : c = ',' ∨ c = ']') :
      FollowsComma (word ++ (gap ++ c :: ds))

theorem FollowsComma.append (h : FollowsComma cs) (rest : List Char) : FollowsComma (cs ++ rest) := by
  cases h with
  | start hc => exact .start hc
  | word hne hword hgap hc => simpa using FollowsComma.word hne hword hgap hc

theorem followsComma_value (hliteral : ∀ cs text, literal cs text → Quoted '"' cs text)
    (h : Renders literal cs (.value json)) (hgap : IsGap gap) (hc : c = ',' ∨ c = ']') (ds : List Char) :
    FollowsComma (cs ++ (gap ++ c :: ds)) := by
  rcases word_or_starts hliteral h with ⟨hne, hword⟩ | ⟨first, tail, rfl, hfirst⟩
  · exact .word hne hword hgap hc
  · exact .start hfirst

theorem members_start (hliteral : ∀ cs text, literal cs text → Quoted '"' cs text) {fields : Fields}
    (h : Renders literal cs (.members fields)) : ∃ ds, cs = '"' :: ds := by
  cases h with
  | lastMember _ _ _ hkey _ | member _ _ _ _ hkey _ _ =>
    obtain ⟨body, -, rfl⟩ := hliteral _ _ hkey
    exact ⟨_, rfl⟩

theorem followsComma_of_renders (hliteral : ∀ cs text, literal cs text → Quoted '"' cs text)
    (h : (∃ items, Renders literal cs (.items items)) ∨ ∃ fields, Renders literal cs (.members fields)) :
    FollowsComma cs := by
  rcases h with ⟨items, h⟩ | ⟨fields, h⟩
  · cases h with
    | lastItem hgap h => exact followsComma_value hliteral h hgap (.inr rfl) []
    | item hbefore _ h _ => exact followsComma_value hliteral h hbefore (.inl rfl) _
  · obtain ⟨ds, rfl⟩ := members_start hliteral h
    exact .start ⟨by decide, by decide, by decide⟩

theorem dropWhile_gap (hgap : IsGap gap) (hc : Text.isBlank c = false) (rest : List Char) :
    (gap ++ c :: rest).dropWhile Text.isBlank = c :: rest := by
  rw [Text.dropWhile_stop hc, List.dropWhile_eq_nil_iff.2 (isBlank_of_isGap hgap), List.nil_append]

theorem closesNext_of_followsComma (hgap : IsGap gap) (h : FollowsComma cs) : closesNext (gap ++ cs) = false := by
  have hfirst {c : Char} {ds : List Char} (hc : Text.isBlank c = false) (hclose : c ≠ '}' ∧ c ≠ ']') :
      closesNext (gap ++ c :: ds) = false := by
    rw [← Bool.not_eq_true, closesNext_eq_true]
    rintro ⟨close, after, heq, hclose'⟩
    rw [dropWhile_gap hgap hc] at heq
    obtain rfl := (List.cons.inj heq).1
    exact hclose'.elim hclose.1 hclose.2
  cases h with
  | start hc => exact hfirst hc.not_blank hc.not_close
  | word hne hword _ _ =>
    obtain ⟨first, tail, rfl⟩ := List.exists_cons_of_ne_nil hne
    have hname := hword first List.mem_cons_self
    refine hfirst hname.2 ⟨?_, ?_⟩
    all_goals
      rintro rfl
      exact absurd hname.1 (by decide)

/-- No bare name stands where a character starts none. -/
theorem bareName?_of_first (hgap : IsGap gap) (hblank : Text.isBlank c = false) (hstart : isNameStart c = false)
    (rest : List Char) : bareName? (gap ++ c :: rest) = none := by
  simp only [bareName?, dropWhile_gap hgap hblank]
  split
  · rename_i first name after hname _
    rw [List.takeWhile_cons] at hname
    split at hname
    · obtain rfl := (List.cons.inj hname).1
      rw [hstart]
      rfl
    · cases hname
  · rfl

/-- A word before a comma or a closing bracket is no bare name. -/
theorem bareName?_of_followsComma (hgap : IsGap gap) (h : FollowsComma cs) : bareName? (gap ++ cs) = none := by
  cases h with
  | start hc => exact bareName?_of_first hgap hc.not_blank hc.not_nameStart _
  | @word word gap' ds c hne hword hgap' hc =>
    have hstops : Text.isBlank c = false ∧ isNameChar c = false ∧ c ≠ ':' := by
      rcases hc with rfl | rfl <;> decide
    obtain ⟨first, tail, rfl⟩ := List.exists_cons_of_ne_nil hne
    have hblank : (gap ++ (first :: tail ++ (gap' ++ c :: ds))).dropWhile Text.isBlank =
        first :: tail ++ (gap' ++ c :: ds) := dropWhile_gap hgap (hword first List.mem_cons_self).2 _
    have hname : (first :: tail ++ (gap' ++ c :: ds)).dropWhile isNameChar = gap' ++ c :: ds := by
      rw [List.dropWhile_append_of_pos fun c hc => (hword c hc).1]
      cases gap' with
      | nil => exact List.dropWhile_cons_of_neg (by simp [hstops.2.1])
      | cons d gap' =>
        exact List.dropWhile_cons_of_neg (by simp [not_nameChar_of_isSpace (hgap' d List.mem_cons_self)])
    simp only [bareName?, hblank, hname, dropWhile_gap hgap' hstops.1]
    split
    · rename_i heq
      exact absurd (List.cons.inj heq).1 hstops.2.2
    · rfl

/-! ## Passes -/

/-- Strings in double quotes that hold no slip. -/
def CleanQuoted (cs : List Char) (text : String) : Prop :=
  Quoted '"' cs text ∧ Clean cs

theorem special_of_isPlain (h : IsPlain c) : c ≠ '{' ∧ c ≠ ',' := by
  constructor
  · rintro rfl
    exact absurd h (by decide)
  · rintro rfl
    exact absurd h (by decide)

theorem respects_dropTrailingCommas : Respects dropTrailingCommas CleanQuoted CleanQuoted where
  plain c rest h := dropTrailingCommas_cons fun hcomma => absurd hcomma (special_of_isPlain h).2
  comma gap cs rest hgap h := dropTrailingCommas_cons fun _ =>
    closesNext_of_followsComma hgap ((followsComma_of_renders (fun _ _ h => h.1) h).append rest)
  brace gap cs rest _ _ := dropTrailingCommas_cons fun hcomma => absurd hcomma (by decide)
  literal cs text h := by
    obtain ⟨⟨body, hbody, rfl⟩, hclean⟩ := h
    refine ⟨'"' :: (body ++ ['"']), ⟨⟨body, hbody, rfl⟩, hclean⟩, fun rest => ?_⟩
    have hopen : Clean ('"' :: body) := hclean.of_infix ⟨[], ['"'], by simp⟩
    simpa using dropTrailingCommas_of_clean hopen stops_quote rest

theorem respects_quoteNames : Respects (quoteNamesFrom 0) CleanQuoted CleanQuoted where
  plain c rest h := quoteNamesFrom_cons fun hopening => absurd hopening (not_or.2 (special_of_isPlain h))
  comma gap cs rest hgap h := quoteNamesFrom_cons fun _ =>
    bareName?_of_followsComma hgap ((followsComma_of_renders (fun _ _ h => h.1) h).append rest)
  brace gap cs rest hgap h := by
    refine quoteNamesFrom_cons fun _ => ?_
    rcases h with rfl | ⟨fields, h⟩
    · exact bareName?_of_first hgap (by decide) (by decide) _
    · obtain ⟨ds, rfl⟩ := members_start (fun _ _ h => h.1) h
      exact bareName?_of_first hgap (by decide) (by decide) _
  literal cs text h := by
    obtain ⟨⟨body, hbody, rfl⟩, hclean⟩ := h
    refine ⟨'"' :: (body ++ ['"']), ⟨⟨body, hbody, rfl⟩, hclean⟩, fun rest => ?_⟩
    have hopen : Clean ('"' :: body) := hclean.of_infix ⟨[], ['"'], by simp⟩
    simpa using quoteNamesFrom_of_clean hopen stops_quote rest

/-- JSON text without a slip in its strings is mended to text of the same value. -/
theorem read_mend (h : Renders CleanQuoted cs (.value json)) : Json.read (mend (String.ofList cs)) = .ok json := by
  obtain ⟨ds, hds, hcommas⟩ := respects_dropTrailingCommas.renders h
  obtain ⟨ds', hds', hnames⟩ := respects_quoteNames.renders hds
  have hread := read_of_renders (fun cs text h => readsString_of_quoted cs text h.1) isGap_nil isGap_nil hds'
  have hcommas : dropTrailingCommas cs = ds := by simpa [dropTrailingCommas] using hcommas []
  have hnames : quoteNames ds = ds' := by simpa [quoteNames, quoteNamesFrom] using hnames []
  have hquotes : requoteFrom none ds' = ds' := by
    simpa using (requote_of_after _).1 (Place.after_of_read hread)
  rw [mend, String.toList_ofList, hcommas, hnames, requote, hquotes]
  simpa using hread

/-- The text of a value in ASCII, without a slip in a text or a name, is mended to text of the same value. -/
theorem read_mend_ascii (json : Json) (hreadable : json.Readable)
    (hclean : ∀ text ∈ json.strings, Clean (asciiQuoted text)) : Json.read (mend json.ascii) = .ok json := by
  have hrenders : Renders CleanQuoted json.ascii.toList (.value json) :=
    renders_ascii hreadable fun text htext => ⟨quoted_asciiQuoted text, hclean text htext⟩
  simpa using read_mend hrenders

/-- Commas, braces and colons in a name and in texts, none of them a slip. -/
theorem read_mend_ascii_punctuation :
    (Json.record [("a, b", .list [.str "x, 1y: \x7bz\x7d", .float 0.5])]).Readable ∧
    (∀ text ∈ (Json.record [("a, b", .list [.str "x, 1y: \x7bz\x7d", .float 0.5])]).strings, Clean (asciiQuoted text)) ∧
    Json.read (mend (Json.record [("a, b", .list [.str "x, 1y: \x7bz\x7d", .float 0.5])]).ascii) =
      .ok (.record [("a, b", .list [.str "x, 1y: \x7bz\x7d", .float 0.5])]) := by
  have hreadable : (Json.record [("a, b", .list [.str "x, 1y: \x7bz\x7d", .float 0.5])]).Readable :=
    ⟨by simp [Fields.Distinct], ⟨trivial, trivial, trivial⟩, trivial⟩
  have hclean : ∀ text ∈ (Json.record [("a, b", .list [.str "x, 1y: \x7bz\x7d", .float 0.5])]).strings,
      Clean (asciiQuoted text) := by
    decide
  exact ⟨hreadable, hclean, read_mend_ascii _ hreadable hclean⟩

/-- A comma before a brace is taken out of a text as well. -/
theorem read_mend_slip : (Json.record [("a", .str ",\x7d")]).Readable ∧
    Json.read (mend (Json.record [("a", .str ",\x7d")]).ascii) = .ok (.record [("a", .str "\x7d")]) := by
  refine ⟨⟨by simp [Fields.Distinct], trivial, trivial⟩, ?_⟩
  have htext : mend (Json.record [("a", .str ",\x7d")]).ascii = (Json.record [("a", .str "\x7d")]).ascii := by
    decide
  rw [htext]
  exact read_ascii ⟨by simp [Fields.Distinct], trivial, trivial⟩

end Runbook.Draft
