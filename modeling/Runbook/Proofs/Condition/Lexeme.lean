import Mathlib.Data.List.Basic
import Runbook.Condition.Lexeme

/-!
# How a condition falls into lexemes

* `lexFrom_shift` — lexemes do not hang on where the text starts.
* `exists_lexFrom_append` — reading goes on from what is at hand where one text ends and another begins, if no
  operator goes on from the one into the other.
* `lex_append_blank` — so what stands on either side of a blank has lexemes of its own, if all strings before
  it are closed.
* `laid_lex` — the lexemes and the blanks between them make up the text.
-/

namespace Runbook.Condition

variable {pending next : Lexeme.Pending} {previous : Option Char} {position : Nat} {c : Char}
  {cs ds : List Char} {op : Option (List Char)} {out ls : List Lexeme}

/-! ## Operators -/

/-- Do two characters make up an operator? -/
def arePair (c d : Char) : Bool :=
  (c == '&' && d == '&') || (c == '|' && d == '|') ||
    ((c == '>' || c == '<' || c == '=' || c == '!') && d == '=')

theorem operatorAt?_singleton (c : Char) :
    operatorAt? [c] = if c = '>' ∨ c = '<' ∨ c = '!' then some [c] else none := by
  unfold operatorAt?
  split <;> simp_all

theorem operatorAt?_cons_cons (c d : Char) (cs : List Char) :
    operatorAt? (c :: d :: cs) = if arePair c d then some [c, d] else operatorAt? [c] := by
  by_cases h : arePair c d = true
  · rw [if_pos h]
    simp only [arePair, Bool.or_eq_true, Bool.and_eq_true, beq_iff_eq] at h
    rcases h with (⟨rfl, rfl⟩ | ⟨rfl, rfl⟩) | ⟨((rfl | rfl) | rfl) | rfl, rfl⟩ <;> rfl
  · rw [if_neg h, operatorAt?_singleton]
    unfold operatorAt?
    split <;> simp_all [arePair]

/-- An operator has one character, or two that are a pair. -/
theorem operatorAt?_cases {op : List Char} (h : operatorAt? (c :: cs) = some op) :
    op = [c] ∨ ∃ d rest, op = [c, d] ∧ cs = d :: rest := by
  have hsingle : operatorAt? [c] = some op → op = [c] := by
    intro h
    rw [operatorAt?_singleton] at h
    split at h <;> cases h
    rfl
  cases cs with
  | nil => exact .inl (hsingle h)
  | cons d rest =>
    rw [operatorAt?_cons_cons] at h
    split at h
    · exact .inr ⟨d, rest, (Option.some.inj h).symm, rfl⟩
    · exact .inl (hsingle h)

/-- Can no operator go on into the text from what stands before it? -/
def Apart (cs : List Char) : Prop :=
  ∀ d ∈ cs.head?, ∀ c, arePair c d = false

theorem apart_nil : Apart [] := by
  simp [Apart]

theorem apart_blank (h : Text.isBlank c = true) (cs : List Char) : Apart (c :: cs) := by
  intro d hd a
  obtain rfl := Option.some.inj hd
  by_contra hpair
  simp only [arePair, Bool.not_eq_false, Bool.or_eq_true, Bool.and_eq_true, beq_iff_eq] at hpair
  rcases hpair with (⟨-, rfl⟩ | ⟨-, rfl⟩) | ⟨-, rfl⟩ <;> revert h <;> decide

theorem operatorAt?_append (h : Apart ds) (c : Char) (cs : List Char) :
    operatorAt? (c :: (cs ++ ds)) = operatorAt? (c :: cs) := by
  cases cs with
  | cons d cs => rw [List.cons_append, operatorAt?_cons_cons, operatorAt?_cons_cons]
  | nil =>
    cases ds with
    | nil => rfl
    | cons d ds => rw [List.nil_append, operatorAt?_cons_cons, h d rfl c, if_neg Bool.false_ne_true]

/-! ## Reading one character -/

/-- Is no lexeme at hand that a blank or an operator would be part of? -/
def Lexeme.Pending.IsRun : Lexeme.Pending → Prop
  | gap | text _ _ => True
  | string _ _ _ | operator => False

/-- The ways in which a character is read: what is at hand before it, what is given out, and what is at hand
after it. `op` is the operator that begins with the character. -/
inductive Lexeme.Step (previous : Option Char) (position : Nat) (c : Char) (op : Option (List Char)) :
    Lexeme.Pending → List Lexeme → Lexeme.Pending → Prop where
  /-- The second character of an operator was given out with the first. -/
  | second : Step previous position c op .operator [] .gap
  | closing {quote : Char} {start : Nat} {read : List Char} (same : c = quote) (bare : previous ≠ some '\\') :
      Step previous position c op (.string quote start read)
        [⟨.string, (c :: read).reverse, start, position + 1⟩] .gap
  | inside {quote : Char} {start : Nat} {read : List Char} (goes : ¬ (c = quote ∧ previous ≠ some '\\')) :
      Step previous position c op (.string quote start read) [] (.string quote start (c :: read))
  | blank {pending : Lexeme.Pending} (run : pending.IsRun) (isBlank : Text.isBlank c = true) :
      Step previous position c op pending (pending.close position) .gap
  | opening {pending : Lexeme.Pending} (run : pending.IsRun) (noBlank : Text.isBlank c = false)
      (opens : isQuote c = true) (bare : previous ≠ some '\\') :
      Step previous position c op pending (pending.close position) (.string c position [c])
  | symbol {pending : Lexeme.Pending} {symbol : List Char} (run : pending.IsRun) (noBlank : Text.isBlank c = false)
      (noQuote : ¬ (isQuote c = true ∧ previous ≠ some '\\')) (begins : op = some symbol) :
      Step previous position c op pending
        (pending.close position ++ [⟨.operator, symbol, position, position + symbol.length⟩])
        (if symbol.length = 2 then .operator else .gap)
  | plain {pending : Lexeme.Pending} (run : pending.IsRun) (noBlank : Text.isBlank c = false)
      (noQuote : ¬ (isQuote c = true ∧ previous ≠ some '\\')) (begins : op = none) :
      Step previous position c op pending [] (pending.push position c)

theorem Lexeme.Pending.IsRun.ne_operator (run : pending.IsRun) : pending ≠ .operator := by
  rintro rfl
  exact run

/-- Every character is read in one of these ways, whatever is at hand. -/
theorem exists_step (pending : Lexeme.Pending) (previous : Option Char) (position : Nat) (c : Char)
    (op : Option (List Char)) : ∃ out next, Lexeme.Step previous position c op pending out next := by
  cases pending with
  | operator => exact ⟨_, _, .second⟩
  | string quote start read =>
    by_cases hcloses : c = quote ∧ previous ≠ some '\\'
    · exact ⟨_, _, .closing hcloses.1 hcloses.2⟩
    · exact ⟨_, _, .inside hcloses⟩
  | gap | text start read =>
    cases hblank : Text.isBlank c with
    | true => exact ⟨_, _, .blank trivial hblank⟩
    | false =>
      by_cases hquote : isQuote c = true ∧ previous ≠ some '\\'
      · exact ⟨_, _, .opening trivial hblank hquote.1 hquote.2⟩
      · cases op with
        | some symbol => exact ⟨_, _, .symbol trivial hblank hquote rfl⟩
        | none => exact ⟨_, _, .plain trivial hblank hquote rfl⟩

theorem lexFrom_nil (pending : Lexeme.Pending) (previous : Option Char) (position : Nat) :
    lexFrom pending previous position [] = pending.close position := by
  rw [lexFrom.eq_def]

theorem lexFrom_of_isRun (run : pending.IsRun) (previous : Option Char) (position : Nat) (c : Char)
    (cs : List Char) :
    lexFrom pending previous position (c :: cs) =
      if Text.isBlank c then pending.close position ++ lexFrom .gap (some c) (position + 1) cs
      else if isQuote c && previous != some '\\' then
        pending.close position ++ lexFrom (.string c position [c]) (some c) (position + 1) cs
      else match operatorAt? (c :: cs) with
        | some op =>
          pending.close position ++ ⟨.operator, op, position, position + op.length⟩ ::
            lexFrom (if op.length = 2 then .operator else .gap) (some c) (position + 1) cs
        | none => lexFrom (pending.push position c) (some c) (position + 1) cs := by
  cases pending with
  | gap | text start read => exact lexFrom.eq_def ..
  | string quote start read | operator => cases run

/-- Cutting a text is reading its characters one after the other. -/
theorem Lexeme.Step.lexFrom_cons (step : Step previous position c (operatorAt? (c :: cs)) pending out next) :
    lexFrom pending previous position (c :: cs) = out ++ lexFrom next (some c) (position + 1) cs := by
  cases step with
  | second => rw [lexFrom.eq_def, List.nil_append]
  | closing same bare =>
    rw [lexFrom.eq_def]
    exact if_pos (by simp [same, bare])
  | inside goes =>
    rw [lexFrom.eq_def]
    exact if_neg (by simpa using goes)
  | blank run isBlank => rw [lexFrom_of_isRun run, if_pos isBlank]
  | opening run noBlank opens bare => simp [lexFrom_of_isRun run, noBlank, opens, bare]
  | symbol run noBlank noQuote begins =>
    have hquote : ¬ (isQuote c && previous != some '\\') = true := by simpa using noQuote
    rw [lexFrom_of_isRun run, noBlank, if_neg Bool.false_ne_true, if_neg hquote, begins, List.append_assoc]
    rfl
  | plain run noBlank noQuote begins =>
    have hquote : ¬ (isQuote c && previous != some '\\') = true := by simpa using noQuote
    rw [lexFrom_of_isRun run, noBlank, if_neg Bool.false_ne_true, if_neg hquote, begins, List.nil_append]

/-! ## Positions -/

/-- The lexeme `k` places further on. -/
def Lexeme.shift (k : Nat) (l : Lexeme) : Lexeme :=
  { l with start := l.start + k, stop := l.stop + k }

/-- What is at hand, `k` places further on. -/
def Lexeme.Pending.shift (k : Nat) : Lexeme.Pending → Lexeme.Pending
  | gap => gap
  | text start read => text (start + k) read
  | string quote start read => string quote (start + k) read
  | operator => operator

theorem close_shift (k : Nat) (pending : Lexeme.Pending) (position : Nat) :
    (pending.shift k).close (position + k) = (pending.close position).map (Lexeme.shift k) := by
  cases pending <;> rfl

theorem Lexeme.Pending.IsRun.shift (run : pending.IsRun) (k : Nat) : (pending.shift k).IsRun := by
  cases pending <;> exact run

theorem push_shift (run : pending.IsRun) (k : Nat) (position : Nat) (c : Char) :
    (pending.shift k).push (position + k) c = (pending.push position c).shift k := by
  cases pending with
  | gap | text start read => rfl
  | string quote start read | operator => cases run

/-- A character is read in the same way `k` places further on. -/
theorem Lexeme.Step.shift (step : Step previous position c op pending out next) (k : Nat) :
    Step previous (position + k) c op (pending.shift k) (out.map (Lexeme.shift k)) (next.shift k) := by
  cases step with
  | second => exact .second
  | closing same bare =>
    simpa [Lexeme.shift, Lexeme.Pending.shift, Nat.add_right_comm] using Lexeme.Step.closing same bare
  | inside goes => exact .inside goes
  | blank run isBlank => exact close_shift k pending position ▸ .blank (run.shift k) isBlank
  | opening run noBlank opens bare =>
    exact close_shift k pending position ▸ .opening (run.shift k) noBlank opens bare
  | @symbol _ symbol run noBlank noQuote begins =>
    have hnext : (if symbol.length = 2 then Lexeme.Pending.operator else .gap).shift k =
        if symbol.length = 2 then .operator else .gap := by
      split <;> rfl
    rw [List.map_append, ← close_shift, hnext, List.map_singleton, Lexeme.shift, Nat.add_right_comm]
    exact .symbol (run.shift k) noBlank noQuote begins
  | plain run noBlank noQuote begins =>
    exact push_shift run k position c ▸ .plain (run.shift k) noBlank noQuote begins

/-- Lexemes do not hang on where the text starts. -/
theorem lexFrom_shift (k : Nat) (pending : Lexeme.Pending) (previous : Option Char) (position : Nat)
    (cs : List Char) :
    lexFrom (pending.shift k) previous (position + k) cs =
      (lexFrom pending previous position cs).map (Lexeme.shift k) := by
  induction cs generalizing pending previous position with
  | nil => rw [lexFrom_nil, lexFrom_nil, close_shift]
  | cons c cs ih =>
    obtain ⟨out, next, step⟩ := exists_step pending previous position c (operatorAt? (c :: cs))
    rw [(step.shift k).lexFrom_cons, step.lexFrom_cons, List.map_append, ← ih, Nat.add_right_comm]

/-! ## Strings -/

/-- Does a string end with the quote that opens it, and with no backslash before that? -/
def IsClosed : List Char → Prop
  | [] => False
  | quote :: rest => ∃ inner, rest = inner ++ [quote] ∧ inner.getLast? ≠ some '\\'

theorem isClosed_cons_iff {quote : Char} {rest : List Char} : IsClosed (quote :: rest) ↔
    rest.getLast? = some quote ∧ rest.dropLast.getLast? ≠ some '\\' := by
  constructor
  · rintro ⟨inner, rfl, hlast⟩
    exact ⟨List.getLast?_concat, by rwa [List.dropLast_concat]⟩
  · rintro ⟨hquote, hlast⟩
    exact ⟨rest.dropLast, (List.dropLast_append_getLast? _ hquote).symm, hlast⟩

instance : DecidablePred IsClosed
  | [] => .isFalse id
  | _ :: _ => decidable_of_iff' _ isClosed_cons_iff

/-- Are all strings among some lexemes closed? -/
def Closed (ls : List Lexeme) : Prop :=
  ∀ l ∈ ls, l.kind = .string → IsClosed l.text

theorem closed_nil : Closed [] := by
  simp [Closed]

instance (ls : List Lexeme) : Decidable (Closed ls) :=
  inferInstanceAs (Decidable (∀ l ∈ ls, l.kind = .string → IsClosed l.text))

/-- What can be at hand: a string that is not closed is one so far, and the second character of an operator
is there. -/
def Lexeme.Pending.Fits (previous : Option Char) (cs : List Char) : Lexeme.Pending → Prop
  | gap => True
  | text _ _ => True
  | string quote _ read => isQuote quote = true ∧ previous = read.head? ∧
      ∃ inner, read.reverse = quote :: inner ∧ ¬ IsClosed read.reverse
  | operator => cs ≠ []

/-- A string goes on with a quote only if a backslash stands before it. -/
theorem not_isClosed_concat {quote : Char} {inner : List Char} (hquote : isQuote quote = true)
    (h : ¬ (c = quote ∧ (quote :: inner).getLast? ≠ some '\\')) :
    ¬ IsClosed (quote :: (inner ++ [c])) := by
  rintro ⟨inner', heq, hlast⟩
  obtain ⟨rfl, hc⟩ := List.append_inj' heq rfl
  obtain rfl : c = quote := by simpa using hc
  refine h ⟨rfl, ?_⟩
  rw [List.getLast?_cons]
  cases hinner : inner.getLast? with
  | none =>
    rintro hbackslash
    obtain rfl : c = '\\' := Option.some.inj hbackslash
    revert hquote
    decide
  | some d =>
    rw [hinner] at hlast
    exact hlast

/-- Reading a character leaves what can be at hand. -/
theorem Lexeme.Step.fits (step : Step previous position c (operatorAt? (c :: cs)) pending out next)
    (h : pending.Fits previous (c :: cs)) : next.Fits (some c) cs := by
  cases step with
  | second | closing | blank => trivial
  | @inside quote start read goes =>
    obtain ⟨hquote, hprevious, inner, hread, -⟩ := h
    have hreverse : (c :: read).reverse = quote :: (inner ++ [c]) := by simp [hread]
    refine ⟨hquote, rfl, inner ++ [c], hreverse, ?_⟩
    rw [hreverse]
    refine not_isClosed_concat hquote ?_
    rwa [← hread, List.getLast?_reverse, ← hprevious]
  | opening run noBlank opens bare =>
    refine ⟨opens, rfl, [], rfl, ?_⟩
    rintro ⟨inner, hinner, -⟩
    simp at hinner
  | symbol run noBlank noQuote begins =>
    split
    · rename_i hlength
      rcases operatorAt?_cases begins with rfl | ⟨d, rest, -, rfl⟩
      · cases hlength
      · exact List.cons_ne_nil d rest
    · trivial
  | plain run noBlank noQuote begins =>
    cases pending with
    | gap | text start read => trivial
    | string quote start read | operator => cases run

/-! ## Two texts in a row -/

theorem closed_close (run : pending.IsRun) (position : Nat) : Closed (pending.close position) := by
  cases pending with
  | gap => exact closed_nil
  | text start read => simp [Closed, Lexeme.Pending.close]
  | string quote start read | operator => cases run

/-- A string is given out when it is closed. -/
theorem Lexeme.Step.closed (step : Step previous position c op pending out next)
    (h : pending.Fits previous (c :: cs)) : Closed out := by
  cases step with
  | second | inside | plain => exact closed_nil
  | @closing quote start read same bare =>
    obtain ⟨-, hprevious, inner, hread, -⟩ := h
    subst same
    intro l hl _
    obtain rfl := List.mem_singleton.1 hl
    have hreverse : (c :: read).reverse = c :: (inner ++ [c]) := by simp [hread]
    refine hreverse ▸ ⟨inner, rfl, fun hlast => bare ?_⟩
    rw [hprevious, ← List.getLast?_reverse, hread, List.getLast?_cons, hlast]
    rfl
  | blank run | opening run => exact closed_close run position
  | symbol run => exact List.forall_mem_append.2 ⟨closed_close run position, by simp⟩

/-- Reading goes on from what is at hand where one text ends and another begins, if no operator goes on from
the one into the other. All strings that have been given out by then are closed. -/
theorem exists_lexFrom_append (position : Nat) (h : pending.Fits previous cs) :
    ∃ out last, Closed out ∧ last.Fits (cs.getLast?.or previous) [] ∧ ∀ ds, Apart ds →
      lexFrom pending previous position (cs ++ ds) =
        out ++ lexFrom last (cs.getLast?.or previous) (position + cs.length) ds := by
  induction cs generalizing pending previous position with
  | nil => exact ⟨[], pending, closed_nil, h, fun ds _ => rfl⟩
  | cons c cs ih =>
    obtain ⟨given, next, step⟩ := exists_step pending previous position c (operatorAt? (c :: cs))
    obtain ⟨out, last, hout, hlast, hgoes⟩ := ih (position + 1) (step.fits h)
    have hprevious : (c :: cs).getLast?.or previous = cs.getLast?.or (some c) := by
      rw [List.getLast?_cons]
      cases cs.getLast? <;> rfl
    refine ⟨given ++ out, last, ?_, hprevious ▸ hlast, fun ds hds => ?_⟩
    · exact List.forall_mem_append.2 ⟨step.closed h, hout⟩
    · rw [← operatorAt?_append hds] at step
      rw [List.cons_append, step.lexFrom_cons, hgoes ds hds, hprevious, List.append_assoc, List.length_cons,
        Nat.add_assoc, Nat.add_comm 1]

/-- What is at hand when a text with all its strings closed ends is given out at a blank. -/
theorem lexFrom_append_blank {blank : Char} (hblank : Text.isBlank blank = true)
    (h : pending.Fits previous cs) (closed : Closed (lexFrom pending previous position cs))
    (ds : List Char) :
    lexFrom pending previous position (cs ++ blank :: ds) =
      lexFrom pending previous position cs ++
        lexFrom .gap (some blank) (position + cs.length + 1) ds := by
  obtain ⟨out, last, -, hlast, hgoes⟩ := exists_lexFrom_append position h
  have hcs := hgoes [] apart_nil
  rw [List.append_nil, lexFrom_nil] at hcs
  rw [hgoes _ (apart_blank hblank ds), hcs, List.append_assoc]
  congr 1
  cases last with
  | operator => exact absurd rfl hlast
  | string quote start read =>
    obtain ⟨-, -, inner, -, hopen⟩ := hlast
    have hmem : (⟨.string, read.reverse, start, position + cs.length⟩ : Lexeme) ∈
        lexFrom pending previous position cs := hcs ▸ List.mem_append_right _ List.mem_cons_self
    exact absurd (closed _ hmem rfl) hopen
  | gap | text start read => exact Lexeme.Step.lexFrom_cons (.blank trivial hblank)

theorem ne_backslash_of_blank {blank : Char} (h : Text.isBlank blank = true) : some blank ≠ some '\\' := by
  rintro hblank
  cases hblank
  revert h
  decide

/-- The character before a text matters only if it is a backslash. -/
theorem lexFrom_gap_previous (h : previous ≠ some '\\') (position : Nat) (cs : List Char) :
    lexFrom .gap previous position cs = lexFrom .gap none position cs := by
  have hne : (previous != some '\\') = (none != some '\\') := by
    rw [bne_iff_ne.2 h]
    rfl
  cases cs with
  | nil => rw [lexFrom_nil, lexFrom_nil]
  | cons c cs =>
    have hgap : Lexeme.Pending.gap.IsRun := trivial
    rw [lexFrom_of_isRun hgap, lexFrom_of_isRun hgap, hne]

/-- What stands on either side of a blank has lexemes of its own, if all strings before it are closed. -/
theorem lex_append_blank {blank : Char} (hblank : Text.isBlank blank = true) (closed : Closed (lex cs))
    (ds : List Char) :
    lex (cs ++ blank :: ds) = lex cs ++ (lex ds).map (Lexeme.shift (cs.length + 1)) := by
  have hshift := lexFrom_shift (cs.length + 1) .gap none 0 ds
  have hfits : Lexeme.Pending.gap.Fits none cs := trivial
  rw [Nat.zero_add] at hshift
  rw [lex, lexFrom_append_blank hblank hfits closed, lexFrom_gap_previous (ne_backslash_of_blank hblank), lex,
    lex, ← hshift, Nat.zero_add]
  rfl

/-! ## Nothing is lost -/

/-- Lexemes that make up a text from a position on, with blanks between them. -/
inductive Laid : Nat → List Char → List Lexeme → Prop where
  | nil (position : Nat) : Laid position [] []
  | blank {position : Nat} {c : Char} {cs : List Char} {ls : List Lexeme} (isBlank : Text.isBlank c = true)
      (rest : Laid (position + 1) cs ls) : Laid position (c :: cs) ls
  | lexeme {position : Nat} {text cs : List Char} {ls : List Lexeme} (kind : Lexeme.Kind)
      (nonempty : text ≠ []) (rest : Laid (position + text.length) cs ls) :
      Laid position (text ++ cs) (⟨kind, text, position, position + text.length⟩ :: ls)

/-- Is what has been read of the lexeme at hand what stands before the position? -/
def Lexeme.Pending.EndsAt (position : Nat) : Lexeme.Pending → Prop
  | gap | operator => True
  | text start read | string _ start read => read ≠ [] ∧ position = start + read.length

/-- Do lexemes make up what is at hand and the text after it? -/
def Lexeme.Pending.Lays (position : Nat) (cs : List Char) (ls : List Lexeme) : Lexeme.Pending → Prop
  | gap => Laid position cs ls
  | text start read | string _ start read => Laid start (read.reverse ++ cs) ls
  | operator => Laid (position + 1) cs.tail ls

/-- What is at hand is given out before the lexemes of the text after it. -/
theorem lays_close (hends : pending.EndsAt position) (hne : pending ≠ .operator)
    (h : Laid position cs ls) : pending.Lays position cs (pending.close position ++ ls) := by
  cases pending with
  | operator => exact absurd rfl hne
  | gap => exact h
  | text start read | string quote start read =>
    obtain ⟨hread, rfl⟩ := hends
    rw [← List.length_reverse] at h
    simpa [Lexeme.Pending.close, Lexeme.Pending.Lays] using
      Laid.lexeme _ (List.reverse_ne_nil_iff.2 hread) h

/-- Reading a character puts what is given out before the lexemes of the text after it. -/
theorem Lexeme.Step.lays (step : Step previous position c (operatorAt? (c :: cs)) pending out next)
    (hends : pending.EndsAt position) (h : next.Lays (position + 1) cs ls) :
    pending.Lays position (c :: cs) (out ++ ls) := by
  cases step with
  | second => exact h
  | @closing quote start read =>
    obtain ⟨-, rfl⟩ := hends
    have hlength : start + read.length + 1 = start + (c :: read).reverse.length := by
      simp [Nat.add_assoc]
    have hne : (c :: read).reverse ≠ [] := by simp
    rw [hlength] at h ⊢
    simpa [Lexeme.Pending.Lays] using Laid.lexeme .string hne h
  | inside => simpa [Lexeme.Pending.Lays] using h
  | blank run isBlank => exact lays_close hends run.ne_operator (.blank isBlank h)
  | opening run => exact lays_close hends run.ne_operator h
  | symbol run noBlank noQuote begins =>
    rw [List.append_assoc]
    refine lays_close hends run.ne_operator ?_
    rcases operatorAt?_cases begins with rfl | ⟨d, rest, rfl, rfl⟩
    · exact .lexeme .operator (List.cons_ne_nil c []) h
    · exact .lexeme .operator (List.cons_ne_nil c [d]) h
  | plain run =>
    cases pending with
    | gap => exact h
    | text start read => simpa [Lexeme.Pending.Lays, Lexeme.Pending.push] using h
    | string quote start read | operator => cases run

theorem Lexeme.Step.endsAt (step : Step previous position c op pending out next)
    (hends : pending.EndsAt position) : next.EndsAt (position + 1) := by
  cases step with
  | second | closing | blank => trivial
  | inside =>
    obtain ⟨-, rfl⟩ := hends
    exact ⟨List.cons_ne_nil _ _, rfl⟩
  | opening => exact ⟨List.cons_ne_nil _ _, rfl⟩
  | symbol => split <;> trivial
  | plain run =>
    cases pending with
    | gap => exact ⟨List.cons_ne_nil _ _, rfl⟩
    | text start read =>
      obtain ⟨-, rfl⟩ := hends
      exact ⟨List.cons_ne_nil _ _, rfl⟩
    | string quote start read | operator => cases run

theorem lays_lexFrom (hends : pending.EndsAt position) (previous : Option Char) (cs : List Char) :
    pending.Lays position cs (lexFrom pending previous position cs) := by
  induction cs generalizing pending previous position with
  | nil =>
    rw [lexFrom_nil]
    by_cases hoperator : pending = .operator
    · subst hoperator
      exact .nil _
    · simpa using lays_close hends hoperator (.nil position)
  | cons c cs ih =>
    obtain ⟨out, next, step⟩ := exists_step pending previous position c (operatorAt? (c :: cs))
    rw [step.lexFrom_cons]
    exact step.lays hends (ih (step.endsAt hends) (some c))

/-- The lexemes of a text and the blanks between them make up the text. -/
theorem laid_lex (cs : List Char) : Laid 0 cs (lex cs) :=
  have hends : Lexeme.Pending.gap.EndsAt 0 := trivial
  lays_lexFrom hends none cs

end Runbook.Condition
