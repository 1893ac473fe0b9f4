import Runbook.Proofs.Condition.Restart

/-!
# When an operator divides a condition

An operator divides a text into two parts or more exactly if it stands between two other lexemes
(`two_le_split_iff`).

* `lex_of_mem_split` — the lexemes of a part are those that stand in a row in the whole.
* `not_divided_part` — so a part is divided by no operator that does not divide the whole, and not by the one that it is
  split at (`not_divided_part_self`).
* `not_divided_of_negated` — nor does a text that is negated get divided by taking the `!` away, even where the `!`
  was half of another operator.
-/

namespace Runbook.Condition

variable {op : List Char} {position start : Nat} {previous : Option Char} {c : Char} {cs ds part : List Char}
  {l m : Lexeme} {ls ms group before after rest : List Lexeme}

/-! ## Groups with something in them -/

/-- Does an operator stand between two other lexemes? -/
def Divided (op : List Char) (ls : List Lexeme) : Prop :=
  ∃ l sep m, [l, sep, m].Sublist ls ∧ l.isOperator op = false ∧ sep.isOperator op = true ∧ m.isOperator op = false

theorem Divided.mono (h : Divided op ls) (hsub : ls.Sublist ms) : Divided op ms := by
  obtain ⟨l, sep, m, hls, hl, hsep, hm⟩ := h
  exact ⟨l, sep, m, hls.trans hsub, hl, hsep, hm⟩

theorem not_divided_of_free (h : ∀ l ∈ ls, l.isOperator op = false) : ¬ Divided op ls := by
  rintro ⟨l, sep, m, hls, -, hsep, -⟩
  rw [h sep (hls.subset (by simp))] at hsep
  cases hsep

theorem divided_map_shift (k : Nat) : Divided op (ls.map (Lexeme.shift k)) ↔ Divided op ls := by
  constructor
  · rintro ⟨l, sep, m, hls, hl, hsep, hm⟩
    obtain ⟨ls', hls', heq⟩ := List.sublist_map_iff.1 hls
    obtain ⟨l', ms, rfl, rfl, hms⟩ := List.map_eq_cons_iff.1 heq.symm
    obtain ⟨sep', ms', rfl, rfl, hms'⟩ := List.map_eq_cons_iff.1 hms
    obtain ⟨m', ms'', rfl, rfl, hnil⟩ := List.map_eq_cons_iff.1 hms'
    obtain rfl := List.map_eq_nil_iff.1 hnil
    exact ⟨l', sep', m', hls', hl, hsep, hm⟩
  · rintro ⟨l, sep, m, hls, hl, hsep, hm⟩
    exact ⟨l.shift k, sep.shift k, m.shift k, hls.map (Lexeme.shift k), hl, hsep, hm⟩

/-- Does an operator stand before another lexeme? -/
def Leads (op : List Char) (ls : List Lexeme) : Prop :=
  ∃ sep m, [sep, m].Sublist ls ∧ sep.isOperator op = true ∧ m.isOperator op = false

/-- Of lexemes in front among which the operator does not stand it matters only whether there are any. -/
theorem divided_append_iff (hbefore : ∀ l ∈ before, l.isOperator op = false) :
    Divided op (before ++ rest) ↔ Divided op rest ∨ (before ≠ [] ∧ Leads op rest) := by
  constructor
  · rintro ⟨l, sep, m, hsub, hl, hsep, hm⟩
    obtain ⟨front, back, heq, hfront, hback⟩ := List.sublist_append_iff.1 hsub
    rcases List.cons_eq_append_iff.1 heq with ⟨rfl, rfl⟩ | ⟨front, rfl, hfrontBack⟩
    · exact .inl ⟨l, sep, m, hback, hl, hsep, hm⟩
    · have hne : before ≠ [] := by
        rintro rfl
        cases hfront
      rcases List.cons_eq_append_iff.1 hfrontBack with ⟨rfl, rfl⟩ | ⟨front, rfl, -⟩
      · exact .inr ⟨hne, sep, m, hback, hsep, hm⟩
      · rw [hbefore sep (hfront.subset (by simp))] at hsep
        cases hsep
  · rintro (h | ⟨hne, sep, m, hsub, hsep, hm⟩)
    · exact h.mono (List.sublist_append_right before rest)
    · obtain ⟨l, before, rfl⟩ := List.exists_cons_of_ne_nil hne
      refine ⟨l, sep, m, ?_, hbefore l List.mem_cons_self, hsep, hm⟩
      exact (hsub.trans (List.sublist_append_right before rest)).cons_cons l

theorem divided_cons_operator {sep : Lexeme} (hsep : sep.isOperator op = true) :
    Divided op (sep :: ls) ↔ Divided op ls := by
  constructor
  · rintro ⟨l, sep', m, hsub, hl, hsep', hm⟩
    rcases List.sublist_cons_iff.1 hsub with hsub | ⟨rest, heq, -⟩
    · exact ⟨l, sep', m, hsub, hl, hsep', hm⟩
    · rw [(List.cons.inj heq).1, hsep] at hl
      cases hl
  · exact fun h => h.mono (List.sublist_cons_self sep ls)

theorem leads_cons_operator {sep : Lexeme} (hsep : sep.isOperator op = true) :
    Leads op (sep :: ls) ↔ ∃ m ∈ ls, m.isOperator op = false := by
  constructor
  · rintro ⟨sep', m, hsub, hsep', hm⟩
    have hmem : m ∈ sep :: ls := hsub.subset (by simp)
    rcases List.mem_cons.1 hmem with rfl | hmem
    · rw [hsep] at hm
      cases hm
    · exact ⟨m, hmem, hm⟩
  · rintro ⟨m, hmem, hm⟩
    exact ⟨sep, m, (List.singleton_sublist.2 hmem).cons_cons sep, hsep, hm⟩

/-- How many groups between the operators have something in them. -/
def blocks (op : List Char) (ls : List Lexeme) : Nat :=
  (groups op ls).countP fun group => !group.isEmpty

theorem flatten_groups (op : List Char) (ls : List Lexeme) :
    (groups op ls).flatten = ls.filter fun l => !l.isOperator op := by
  induction ls with
  | nil => rfl
  | cons l ls ih =>
    rw [groups]
    by_cases hl : l.isOperator op = true
    · simp [hl, ih]
    · rw [if_neg hl, List.filter_cons_of_pos (by simpa using hl), ← ih]
      cases groups op ls <;> simp

theorem blocks_pos_iff : 1 ≤ blocks op ls ↔ ∃ l ∈ ls, l.isOperator op = false := by
  have hflatten : (∃ group ∈ groups op ls, group ≠ []) ↔ (groups op ls).flatten ≠ [] := by
    simp [List.flatten_eq_nil_iff]
  rw [blocks, Nat.succ_le_iff, List.countP_pos_iff]
  simp only [Bool.not_eq_true', List.isEmpty_eq_false_iff, hflatten, flatten_groups]
  simp [List.filter_eq_nil_iff]

theorem blocks_append {sep : Lexeme} (hbefore : ∀ l ∈ before, l.isOperator op = false)
    (hsep : sep.isOperator op = true) :
    blocks op (before ++ sep :: after) = (if before = [] then 0 else 1) + blocks op after := by
  rw [blocks, groups_append hbefore hsep, List.countP_cons, blocks, Nat.add_comm]
  cases before <;> simp

/-- There are two groups with something in them exactly if the operator stands between two other lexemes. -/
theorem two_le_blocks_iff (op : List Char) (ls : List Lexeme) : 2 ≤ blocks op ls ↔ Divided op ls := by
  by_cases hop : ∃ l ∈ ls, l.isOperator op = true
  · obtain ⟨sep, hfind⟩ := Option.isSome_iff_exists.1 (List.find?_isSome.2 hop)
    obtain ⟨hsep, before, after, rfl, hbefore⟩ := List.find?_eq_some_iff_append.1 hfind
    have hfree : ∀ l ∈ before, l.isOperator op = false := by simpa using hbefore
    rw [divided_append_iff hfree, divided_cons_operator hsep, leads_cons_operator hsep, ← blocks_pos_iff,
      ← two_le_blocks_iff op after, blocks_append hfree hsep]
    by_cases hnil : before = []
    · simp [hnil]
    · rw [if_neg hnil]
      simp only [hnil, ne_eq, not_false_eq_true, true_and]
      omega
  · have hfree : ∀ l ∈ ls, l.isOperator op = false := by simpa using hop
    have hle := List.countP_le_length (p := fun group : List Lexeme => !group.isEmpty) (l := groups op ls)
    rw [groups_of_free hfree, List.length_singleton] at hle
    rw [blocks, groups_of_free hfree]
    exact iff_of_false (by omega) (not_divided_of_free hfree)
termination_by ls.length

/-! ## Parts -/

theorem length_split (op : String) (cs : List Char) : (split op cs).length = blocks op.toList (lex cs) := by
  rw [split, List.length_filterMap_eq_countP, blocks]
  refine List.countP_congr fun group _ => ?_
  unfold cover
  cases group with
  | nil => simp
  | cons l group => simp [List.getLast?_cons]

/-- An operator splits a text into two parts or more exactly if it stands between two other lexemes. -/
theorem two_le_split_iff (op : String) (cs : List Char) :
    2 ≤ (split op cs).length ↔ Divided op.toList (lex cs) := by
  rw [length_split, two_le_blocks_iff]

theorem infix_of_mem_groups (h : group ∈ groups op ls) : group <:+: ls := by
  by_cases hop : ∃ l ∈ ls, l.isOperator op = true
  · obtain ⟨before, after, heq, -⟩ := eq_append_of_mem_groups h hop
    exact ⟨before, after, heq.symm⟩
  · rw [groups_of_free (by simpa using hop), List.mem_singleton] at h
    exact h ▸ List.infix_refl ls

theorem free_of_mem_groups (h : group ∈ groups op ls) : ∀ l ∈ group, l.isOperator op = false := by
  intro l hl
  have hmem : l ∈ (groups op ls).flatten := List.mem_flatten.2 ⟨group, h, hl⟩
  rw [flatten_groups] at hmem
  simpa using (List.mem_filter.1 hmem).2

/-! ## The lexemes of a part -/

/-- Is what is at hand such that it can only end in a blank if it is a string that is not closed? -/
def Lexeme.Pending.Solid : Lexeme.Pending → Prop
  | gap | operator => True
  | text _ read => ∀ c ∈ read.head?, Text.isBlank c = false
  | string quote _ _ => isQuote quote = true

/-- Does a lexeme end in a character that is no blank? -/
def Lexeme.IsSolid (l : Lexeme) : Prop :=
  ∀ c ∈ l.text.getLast?, Text.isBlank c = false

theorem solid_close {pending : Lexeme.Pending} (solid : pending.Solid) (run : pending.IsRun) (position : Nat) :
    ∀ l ∈ pending.close position, l.IsSolid := by
  intro l hl c hc
  cases pending with
  | gap => cases hl
  | text start read =>
    rw [List.mem_singleton.1 hl, List.getLast?_reverse] at hc
    exact solid c hc
  | string quote start read | operator => cases run

/-- What is given out when a character is read does not end in a blank. -/
theorem Lexeme.Step.solid {pending next : Lexeme.Pending} {out : List Lexeme}
    (step : Step previous position c (operatorAt? (c :: cs)) pending out next) (solid : pending.Solid) :
    (∀ l ∈ out, l.IsSolid) ∧ next.Solid := by
  have hnone : ∀ l ∈ ([] : List Lexeme), l.IsSolid := fun l hl => (List.not_mem_nil hl).elim
  cases step with
  | second => exact ⟨hnone, trivial⟩
  | closing same =>
    refine ⟨fun l hl d hd => ?_, trivial⟩
    rw [List.mem_singleton.1 hl, List.getLast?_reverse] at hd
    cases hd
    exact not_blank_of_quote (same ▸ solid)
  | inside => exact ⟨hnone, solid⟩
  | blank run => exact ⟨solid_close solid run position, trivial⟩
  | opening run noBlank opens => exact ⟨solid_close solid run position, opens⟩
  | symbol run noBlank noQuote begins =>
    refine ⟨List.forall_mem_append.2 ⟨solid_close solid run position, fun l hl d hd => ?_⟩, by split <;> trivial⟩
    rw [List.mem_singleton.1 hl] at hd
    exact (plain_of_mem_operator begins (List.mem_of_getLast? hd)).1
  | plain run noBlank =>
    refine ⟨hnone, ?_⟩
    cases pending with
    | gap | text start read =>
      intro d hd
      cases hd
      exact noBlank
    | string quote start read | operator => cases run

/-- A lexeme ends in a blank only where the text ends. -/
theorem solid_lexFrom {pending : Lexeme.Pending} (solid : pending.Solid) (previous : Option Char) (position : Nat)
    (cs : List Char) : ∀ l ∈ lexFrom pending previous position cs, l.IsSolid ∨ l.stop = position + cs.length := by
  induction cs generalizing pending previous position with
  | nil =>
    intro l hl
    rw [lexFrom_nil] at hl
    cases pending with
    | gap | operator => cases hl
    | text start read => exact .inl (solid_close solid trivial position l hl)
    | string quote start read =>
      rw [List.mem_singleton.1 hl]
      exact .inr rfl
  | cons c cs ih =>
    intro l hl
    obtain ⟨out, next, step⟩ := exists_step pending previous position c (operatorAt? (c :: cs))
    obtain ⟨hout, hnext⟩ := step.solid solid
    rw [step.lexFrom_cons] at hl
    rw [List.length_cons, Nat.add_comm cs.length, ← Nat.add_assoc]
    rcases List.mem_append.1 hl with hl | hl
    · exact .inl (hout l hl)
    · exact ih hnext (some c) (position + 1) l hl

theorem lex_cons_blank (hblank : Text.isBlank c = true) (cs : List Char) :
    lex (c :: cs) = (lex cs).map (Lexeme.shift 1) := by
  have hnil : lex [] = [] := lexFrom_nil ..
  have hclosed : Closed (lex []) := by
    rw [hnil]
    exact closed_nil
  have hshift := lex_append_blank hblank hclosed cs
  rwa [hnil] at hshift

/-- No lexeme begins with a blank. -/
theorem head_not_blank (hl : l ∈ lex cs) (hc : c ∈ l.text.head?) : Text.isBlank c = false := by
  by_contra hblank
  rw [Bool.not_eq_false] at hblank
  obtain ⟨rest, htext⟩ := List.head?_eq_some_iff.1 hc
  have hone := lex_text hl
  rw [htext, lex_cons_blank hblank] at hone
  obtain ⟨m, -, hm⟩ := List.map_eq_singleton_iff.1 hone
  exact absurd (congrArg Lexeme.start hm) (Nat.succ_ne_zero m.start)

/-- What lexemes in a row cover has no blank at its ends, if the text has none. -/
theorem trimChars_slice {first last : Lexeme} (htrim : Text.trimChars cs = cs) (hfirst : first ∈ lex cs)
    (hlast : last ∈ lex cs) :
    Text.trimChars ((cs.take last.stop).drop first.start) = (cs.take last.stop).drop first.start := by
  have hfirstBounds := (laid_lex cs).bounds hfirst
  have hlastBounds := (laid_lex cs).bounds hlast
  rw [Text.trimChars_eq_self_iff]
  constructor
  · intro c hc
    rw [List.head?_drop, List.getElem?_take] at hc
    refine head_not_blank hfirst ?_
    rw [text_eq_slice hfirst, List.head?_drop, List.getElem?_take, if_pos hfirstBounds.2.1]
    split at hc
    · exact hc
    · cases hc
  · intro c hc
    rw [List.getLast?_drop] at hc
    split at hc
    · cases hc
    · have hgap : Lexeme.Pending.gap.Solid := trivial
      rcases solid_lexFrom hgap none 0 cs last hlast with hsolid | hstop
      · refine hsolid c ?_
        rw [text_eq_slice hlast, List.getLast?_drop, if_neg (by rw [List.length_take]; omega)]
        exact hc
      · rw [hstop, Nat.zero_add, List.take_length] at hc
        exact (Text.trimChars_eq_self_iff.1 htrim).2 c hc

/-- The lexemes of a part of a trimmed text are those that stand in a row between two operators. -/
theorem lex_of_mem_split {op : String} (htrim : Text.trimChars cs = cs) (hpart : part ∈ split op cs) :
    Text.trimChars part = part ∧
      ∃ k, (lex part).map (Lexeme.shift k) ∈ groups op.toList (lex cs) := by
  obtain ⟨group, hgroup, hcover⟩ := List.mem_filterMap.1 hpart
  obtain ⟨before, after, heq⟩ := infix_of_mem_groups hgroup
  unfold cover at hcover
  split at hcover
  · rename_i first last hfirst hlast
    have hmem : ∀ l ∈ group, l ∈ lex cs := fun l hl => heq ▸ by simp [hl]
    have hslice := trimChars_slice htrim (hmem first (List.mem_of_head? hfirst))
      (hmem last (List.mem_of_getLast? hlast))
    rw [hslice] at hcover
    obtain rfl := Option.some.inj hcover
    refine ⟨hslice, first.start, ?_⟩
    rw [lex_slice heq.symm hfirst hlast]
    exact hgroup
  · cases hcover

/-- A part is not divided by the operator that the whole is split at. -/
theorem not_divided_part_self {op : String} (htrim : Text.trimChars cs = cs) (hpart : part ∈ split op cs) :
    ¬ Divided op.toList (lex part) := by
  obtain ⟨-, k, hgroup⟩ := lex_of_mem_split htrim hpart
  rw [← divided_map_shift k]
  exact not_divided_of_free (free_of_mem_groups hgroup)

/-- A part is divided by no operator that does not divide the whole. -/
theorem not_divided_part {sep : String} (htrim : Text.trimChars cs = cs) (hpart : part ∈ split sep cs)
    (h : ¬ Divided op (lex cs)) : ¬ Divided op (lex part) := by
  obtain ⟨-, k, hgroup⟩ := lex_of_mem_split htrim hpart
  rw [← divided_map_shift k]
  exact fun hdivided => h (hdivided.mono (infix_of_mem_groups hgroup).sublist)

/-! ## Negated texts -/

/-- A character ends what is at hand and is read as if nothing were, or it is one more of a run of text. -/
theorem exists_step_run (previous : Option Char) (position : Nat) (c : Char) (op : Option (List Char)) :
    (∃ out next, ∀ pending : Lexeme.Pending, pending.IsRun →
      Lexeme.Step previous position c op pending (pending.close position ++ out) next) ∨
    ∀ pending : Lexeme.Pending, pending.IsRun →
      Lexeme.Step previous position c op pending [] (pending.push position c) := by
  have hgap : Lexeme.Pending.gap.IsRun := trivial
  obtain ⟨out, next, step⟩ := exists_step .gap previous position c op
  cases step with
  | blank _ isBlank =>
    refine .inl ⟨[], .gap, fun pending run => ?_⟩
    rw [List.append_nil]
    exact .blank run isBlank
  | opening _ noBlank opens bare =>
    refine .inl ⟨[], .string c position [c], fun pending run => ?_⟩
    rw [List.append_nil]
    exact .opening run noBlank opens bare
  | symbol _ noBlank noQuote begins => exact .inl ⟨_, _, fun pending run => .symbol run noBlank noQuote begins⟩
  | plain _ noBlank noQuote begins => exact .inr fun pending run => .plain run noBlank noQuote begins

/-- So a text goes on without what is at hand, or with one character more of it. -/
theorem lexFrom_cons_run (previous : Option Char) (position : Nat) (c : Char) (cs : List Char) :
    (∃ rest, ∀ pending : Lexeme.Pending, pending.IsRun →
      lexFrom pending previous position (c :: cs) = pending.close position ++ rest) ∨
    ∀ pending : Lexeme.Pending, pending.IsRun →
      lexFrom pending previous position (c :: cs) = lexFrom (pending.push position c) (some c) (position + 1) cs := by
  rcases exists_step_run previous position c (operatorAt? (c :: cs)) with ⟨out, next, hends⟩ | hgoes
  · refine .inl ⟨out ++ lexFrom next (some c) (position + 1) cs, fun pending run => ?_⟩
    rw [(hends pending run).lexFrom_cons, List.append_assoc]
  · exact .inr fun pending run => (hgoes pending run).lexFrom_cons

/-- A run of text goes on in the same way whatever has been read of it. -/
theorem exists_lexFrom_text (start start' : Nat) (read read' : List Char) (previous : Option Char) (position : Nat)
    (cs : List Char) : ∃ l m rest, lexFrom (.text start read) previous position cs = l :: rest ∧
      lexFrom (.text start' read') previous position cs = m :: rest ∧ l.kind = .text ∧ m.kind = .text := by
  induction cs generalizing read read' previous position with
  | nil => exact ⟨_, _, [], lexFrom_nil .., lexFrom_nil .., rfl, rfl⟩
  | cons c cs ih =>
    rcases lexFrom_cons_run previous position c cs with ⟨rest, hends⟩ | hgoes
    · exact ⟨_, _, rest, hends _ trivial, hends _ trivial, rfl, rfl⟩
    · rw [hgoes (.text start read) trivial, hgoes (.text start' read') trivial]
      exact ih (c :: read) (c :: read') (some c) (position + 1)

/-- A run of text that goes on into a text takes at most a run of text from its front. -/
theorem exists_lexFrom_gap (start : Nat) (read : List Char) (previous : Option Char) (position : Nat)
    (cs : List Char) : ∃ l before rest, lexFrom (.text start read) previous position cs = l :: rest ∧
      lexFrom .gap previous position cs = before ++ rest ∧ l.kind = .text ∧ ∀ m ∈ before, m.kind = .text := by
  cases cs with
  | nil => exact ⟨_, [], [], lexFrom_nil .., lexFrom_nil .., rfl, by simp⟩
  | cons c cs =>
    rcases lexFrom_cons_run previous position c cs with ⟨rest, hends⟩ | hgoes
    · exact ⟨_, [], rest, hends _ trivial, hends _ trivial, rfl, by simp⟩
    · rw [hgoes (.text start read) trivial, hgoes .gap trivial]
      obtain ⟨l, m, rest, hl, hm, hlkind, hmkind⟩ :=
        exists_lexFrom_text start position (c :: read) [c] (some c) (position + 1) cs
      exact ⟨l, [m], rest, hl, hm, hlkind, by simpa using hmkind⟩

theorem not_operator_of_text (h : l.kind = .text) (op : List Char) : l.isOperator op = false := by
  rw [Lexeme.isOperator, h]
  rfl

theorem not_operator_of_mem {text : List Char} (hc : c ∈ text) (hop : c ∉ op) (start stop : Nat) :
    (Lexeme.mk .operator text start stop).isOperator op = false := by
  have hne : text ≠ op := by
    rintro rfl
    exact hop hc
  simp [Lexeme.isOperator, hne]

/-- An `=` before a text changes lexemes at its front, and no operator without `=` among them. -/
theorem exists_lexFrom_equals (hop : '=' ∉ op) (position : Nat) (cs : List Char) :
    ∃ before after rest, lexFrom .gap none position ('=' :: cs) = before ++ rest ∧
      lexFrom .gap none (position + 1) cs = after ++ rest ∧
      (∀ l ∈ before, l.isOperator op = false) ∧ ∀ l ∈ after, l.isOperator op = false := by
  have hgap : Lexeme.Pending.gap.IsRun := trivial
  have hquote : isQuote '=' = false := by decide
  have hequals : some '=' ≠ some '\\' := by decide
  induction cs generalizing position with
  | nil =>
    refine ⟨_, [], [], (List.append_nil _).symm, lexFrom_nil .., ?_, by simp⟩
    intro l hl
    obtain rfl : l = ⟨.text, ['='], position, position + 1⟩ := List.mem_singleton.1 hl
    exact not_operator_of_text rfl op
  | cons c cs ih =>
    by_cases hc : c = '='
    · -- the two are an operator, and the next `=` is what the second was before
      subst hc
      obtain ⟨before, after, rest, hbefore, hafter, hbeforeFree, hafterFree⟩ := ih (position + 1)
      refine ⟨⟨.operator, ['=', '='], position, position + 2⟩ :: after, before, rest, ?_, hbefore,
        List.forall_mem_cons.2 ⟨not_operator_of_mem (by simp) hop _ _, hafterFree⟩, hbeforeFree⟩
      have hpair : operatorAt? ('=' :: '=' :: cs) = some ['=', '='] := rfl
      rw [(Lexeme.Step.symbol hgap (by decide) (by simp [hquote]) hpair).lexFrom_cons, List.cons_append, ← hafter,
        ← lexFrom_gap_previous hequals]
      rfl
    · have hread : operatorAt? ('=' :: c :: cs) = none := by
        rw [operatorAt?_cons_cons, if_neg (by simpa [arePair] using hc)]
        rfl
      obtain ⟨l, before, rest, hl, hbefore, hlText, hbeforeText⟩ :=
        exists_lexFrom_gap position ['='] (some '=') (position + 1) (c :: cs)
      refine ⟨[l], before, rest, ?_, ?_, ?_, fun m hm => not_operator_of_text (hbeforeText m hm) op⟩
      · rw [(Lexeme.Step.plain hgap (by decide) (by simp [hquote]) hread).lexFrom_cons]
        exact hl
      · rw [← lexFrom_gap_previous hequals]
        exact hbefore
      · rw [List.forall_mem_singleton]
        exact not_operator_of_text hlText op

/-- No operator but one with `!` or `=` comes to divide a text when the `!` before it is taken away. -/
theorem Divided.negate (hnot : '!' ∉ op) (hequal : '=' ∉ op) (h : Divided op (lex cs)) :
    Divided op (lex ('!' :: cs)) := by
  have hprevious : some '!' ≠ some '\\' := by decide
  have hshift := lexFrom_shift 1 .gap none 0 cs
  rw [← divided_map_shift 1, lex, ← hshift] at h
  by_cases hcs : ∃ ds, cs = '=' :: ds
  · -- the `!` was half of an operator
    obtain ⟨ds, rfl⟩ := hcs
    have hlex : lex ('!' :: '=' :: ds) = ⟨.operator, ['!', '='], 0, 2⟩ :: lexFrom .gap none 2 ds := by
      rw [← lexFrom_gap_previous (by decide : some '=' ≠ some '\\'), lex]
      rfl
    obtain ⟨before, after, rest, hbefore, hafter, hbeforeFree, hafterFree⟩ := exists_lexFrom_equals hequal 1 ds
    have hdivided : Divided op (before ++ rest) := hbefore ▸ h
    rw [hlex, hafter, ← List.cons_append, divided_append_iff (List.forall_mem_cons.2
      ⟨not_operator_of_mem (by simp) hnot 0 2, hafterFree⟩)]
    exact ((divided_append_iff hbeforeFree).1 hdivided).imp id fun h => ⟨by simp, h.2⟩
  · have hread : operatorAt? ('!' :: cs) = some ['!'] := by
      cases cs with
      | nil => rfl
      | cons c cs =>
        have hc : c ≠ '=' := fun hc => hcs ⟨cs, hc ▸ rfl⟩
        rw [operatorAt?_cons_cons, if_neg (by simpa [arePair] using hc)]
        rfl
    have hlex : lex ('!' :: cs) = ⟨.operator, ['!'], 0, 1⟩ :: lexFrom .gap none 1 cs := by
      have hgap : Lexeme.Pending.gap.IsRun := trivial
      have hquote : isQuote '!' = false := by decide
      rw [← lexFrom_gap_previous hprevious, lex,
        (Lexeme.Step.symbol hgap (by decide) (by simp [hquote]) hread).lexFrom_cons]
      rfl
    rw [hlex]
    exact h.mono (List.sublist_cons_self _ _)

theorem map_shift_zero (ls : List Lexeme) : ls.map (Lexeme.shift 0) = ls :=
  List.map_id ls

theorem shift_shift (k n : Nat) (ls : List Lexeme) :
    (ls.map (Lexeme.shift k)).map (Lexeme.shift n) = ls.map (Lexeme.shift (k + n)) := by
  simp [Lexeme.shift, Function.comp_def, Nat.add_assoc]

/-- Blanks before a text do not matter. -/
theorem lex_trimChars (hlast : ∀ c ∈ cs.getLast?, Text.isBlank c = false) :
    ∃ k, (lex (Text.trimChars cs)).map (Lexeme.shift k) = lex cs := by
  induction cs with
  | nil => exact ⟨0, map_shift_zero _⟩
  | cons c cs ih =>
    by_cases hblank : Text.isBlank c = true
    · obtain ⟨k, hk⟩ := ih fun d hd => hlast d (by rw [List.getLast?_cons, Option.mem_def.1 hd]; rfl)
      rw [Text.trimChars_cons_blank hblank, lex_cons_blank hblank, ← hk, shift_shift]
      exact ⟨k + 1, rfl⟩
    · have htrim : Text.trimChars (c :: cs) = c :: cs :=
        Text.trimChars_eq_self_iff.2 ⟨by simpa using hblank, hlast⟩
      exact ⟨0, by rw [htrim, map_shift_zero]⟩

/-- What is left of a text when the `!` before it is taken away is divided by `&&` or `||` only if all of it was. -/
theorem not_divided_of_negated (hnot : '!' ∉ op) (hequal : '=' ∉ op)
    (htrim : Text.trimChars ('!' :: cs) = '!' :: cs) (h : ¬ Divided op (lex ('!' :: cs))) :
    ¬ Divided op (lex (Text.trimChars cs)) := by
  have hlast : ∀ c ∈ cs.getLast?, Text.isBlank c = false := by
    intro c hc
    refine (Text.trimChars_eq_self_iff.1 htrim).2 c ?_
    rw [List.getLast?_cons, Option.mem_def.1 hc]
    rfl
  obtain ⟨k, hk⟩ := lex_trimChars hlast
  rw [← divided_map_shift k, hk]
  exact fun hdivided => h (hdivided.negate hnot hequal)

end Runbook.Condition
