import Runbook.Proofs.Condition.Split

/-!
# Cutting a condition between its lexemes

A text can be cut wherever no lexeme stands on both sides: each of the two parts has the lexemes that stood in it.
So lexemes in a row are the lexemes of the piece of text that they cover, taken by itself.

* `lex_join` — the lexemes of a text that is cut in two are those of its parts.
* `lex_slice` — lexemes in a row are those of the piece that goes from the first to the last.
* `lex_restartable` — nothing but blanks is left out, and lexing can begin and end at any lexeme.
-/

namespace Runbook.Condition

variable {pending next : Lexeme.Pending} {previous : Option Char} {position start : Nat} {c d : Char}
  {cs ds : List Char} {kind : Lexeme.Kind} {l first last : Lexeme} {out ls before run after : List Lexeme}

/-! ## The lexeme at hand -/

/-- The kind of the lexeme at hand and where it starts. -/
def Lexeme.Pending.opened? : Lexeme.Pending → Option (Lexeme.Kind × Nat)
  | gap | operator => none
  | text start _ => some (.text, start)
  | string _ start _ => some (.string, start)

theorem exists_head?_close (h : pending.opened? = some (kind, start)) (position : Nat) (ls : List Lexeme) :
    ∃ l ∈ (pending.close position ++ ls).head?, l.kind = kind ∧ l.start = start ∧ position ≤ l.stop := by
  cases pending with
  | gap | operator => cases h
  | text start read | string quote start read =>
    cases h
    exact ⟨_, rfl, rfl, rfl, le_rfl⟩

/-- The lexeme at hand is given out first, and it does not end before the text that is still to be read. -/
theorem exists_head?_lexFrom (h : pending.opened? = some (kind, start)) (previous : Option Char) (position : Nat)
    (cs : List Char) : ∃ l ∈ (lexFrom pending previous position cs).head?,
      l.kind = kind ∧ l.start = start ∧ position ≤ l.stop := by
  induction cs generalizing pending previous position with
  | nil =>
    rw [lexFrom_nil, ← List.append_nil (pending.close position)]
    exact exists_head?_close h position []
  | cons c cs ih =>
    obtain ⟨out, next, step⟩ := exists_step pending previous position c (operatorAt? (c :: cs))
    rw [step.lexFrom_cons]
    have hlater : next.opened? = some (kind, start) →
        ∃ l ∈ (lexFrom next (some c) (position + 1) cs).head?, l.kind = kind ∧ l.start = start ∧ position ≤ l.stop := by
      intro hnext
      obtain ⟨l, hl, hkind, hstart, hstop⟩ := ih hnext (some c) (position + 1)
      exact ⟨l, hl, hkind, hstart, (Nat.le_succ position).trans hstop⟩
    cases step with
    | second => cases h
    | closing =>
      cases h
      exact ⟨_, rfl, rfl, rfl, Nat.le_succ position⟩
    | inside => exact hlater h
    | blank | opening => exact exists_head?_close h position _
    | symbol =>
      rw [List.append_assoc]
      exact exists_head?_close h position _
    | plain run =>
      cases pending with
      | gap | operator => cases h
      | text start read => exact hlater h
      | string quote start read => cases run

/-! ## Where reading can stop -/

/-- Does no lexeme stand on both sides of a position? -/
def Clear (position : Nat) (ls : List Lexeme) : Prop :=
  ∀ l ∈ ls, l.stop ≤ position ∨ position ≤ l.start

theorem Clear.append_left (h : Clear position (ls ++ run)) : Clear position ls :=
  fun l hl => h l (List.mem_append_left _ hl)

theorem Clear.append_right (h : Clear position (ls ++ run)) : Clear position run :=
  fun l hl => h l (List.mem_append_right _ hl)

/-- What can be at hand before a text: where no lexeme is at hand no backslash stands before, so that a quote
opens a string there, and the second character of an operator is none either. -/
def Lexeme.Pending.Ready (previous : Option Char) (cs : List Char) : Lexeme.Pending → Prop
  | gap => previous ≠ some '\\'
  | text _ _ => True
  | string quote _ _ => isQuote quote = true
  | operator => ∃ c ∈ cs.head?, some c ≠ some '\\'

theorem ne_backslash_of_quote (h : isQuote c = true) : some c ≠ some '\\' := by
  rintro hc
  cases hc
  revert h
  decide

theorem not_blank_of_quote (h : isQuote c = true) : Text.isBlank c = false := by
  simp only [isQuote, Bool.or_eq_true, beq_iff_eq] at h
  rcases h with rfl | rfl <;> decide

/-- The characters of an operator are neither blanks nor quotes nor backslashes. -/
theorem plain_of_mem_operator {op : List Char} (h : operatorAt? cs = some op) (hc : c ∈ op) :
    Text.isBlank c = false ∧ isQuote c = false ∧ some c ≠ some '\\' := by
  have hall : (op.all fun c => !Text.isBlank c && !isQuote c && c != '\\') = true := by
    unfold operatorAt? at h
    split at h <;> cases h <;> decide
  have hplain := List.all_eq_true.1 hall c hc
  simp only [Bool.and_eq_true, Bool.not_eq_true', bne_iff_ne] at hplain
  exact ⟨hplain.1.1, hplain.1.2, fun heq => hplain.2 (Option.some.inj heq)⟩

theorem mem_of_operatorAt? {op : List Char} (h : operatorAt? (c :: cs) = some op) : c ∈ op := by
  rcases operatorAt?_cases h with rfl | ⟨d, rest, rfl, -⟩ <;> exact List.mem_cons_self

/-- Reading a character leaves what can be at hand. -/
theorem Lexeme.Step.ready (step : Step previous position c (operatorAt? (c :: cs)) pending out next)
    (h : pending.Ready previous (c :: cs)) : next.Ready (some c) cs := by
  cases step with
  | second =>
    obtain ⟨d, hd, hne⟩ := h
    cases hd
    exact hne
  | closing same => exact ne_backslash_of_quote (same ▸ h)
  | inside => exact h
  | blank run isBlank => exact ne_backslash_of_blank isBlank
  | opening run noBlank opens => exact opens
  | symbol run noBlank noQuote begins =>
    rcases operatorAt?_cases begins with rfl | ⟨d, rest, rfl, rfl⟩
    · exact (plain_of_mem_operator begins List.mem_cons_self).2.2
    · exact ⟨d, rfl, (plain_of_mem_operator begins (by simp)).2.2⟩
  | plain run =>
    cases pending with
    | gap | text start read => trivial
    | string quote start read | operator => cases run

/-- A character is read as it is at the end of a text, if no operator goes on from it into what follows. -/
theorem Lexeme.Step.of_clear (step : Step previous position c (operatorAt? (c :: d :: ds)) pending out next)
    (clear : Clear (position + 1) out) : Step previous position c (operatorAt? [c]) pending out next := by
  rw [operatorAt?_cons_cons] at step
  by_cases hpair : arePair c d = true
  · rw [if_pos hpair] at step
    cases step with
    | second => exact .second
    | closing same bare => exact .closing same bare
    | inside goes => exact .inside goes
    | blank run isBlank => exact .blank run isBlank
    | opening run noBlank opens bare => exact .opening run noBlank opens bare
    | symbol run noBlank noQuote begins =>
      -- the two characters would be one operator
      cases begins
      have hbounds := clear _ (List.mem_append_right _ List.mem_cons_self)
      simp only [List.length_cons, List.length_nil] at hbounds
      omega
    | plain run noBlank noQuote begins => cases begins
  · rwa [if_neg hpair] at step

/-- Where no lexeme stands on both sides, reading what follows begins anew. -/
theorem lexFrom_of_clear (ready : pending.Ready previous []) (ends : pending.EndsAt position)
    (clear : Clear position (lexFrom pending previous position ds)) :
    lexFrom pending previous position ds = pending.close position ++ lexFrom .gap none position ds := by
  cases ds with
  | nil =>
    rw [lexFrom_nil, lexFrom_nil]
    exact (List.append_nil _).symm
  | cons c ds =>
    obtain ⟨out, next, step⟩ := exists_step pending previous position c (operatorAt? (c :: ds))
    rw [step.lexFrom_cons] at clear
    -- a lexeme that was begun before and takes the next character would stand on both sides
    have hopened {kind : Lexeme.Kind} {start : Nat} (hnext : next.opened? = some (kind, start)) :
        position ≤ start := by
      obtain ⟨l, hl, -, rfl, hstop⟩ := exists_head?_lexFrom hnext (some c) (position + 1) ds
      have hbounds := clear.append_right l (List.mem_of_head? hl)
      omega
    have hgap : Lexeme.Pending.gap.IsRun := trivial
    cases step with
    | second =>
      obtain ⟨d, hd, -⟩ := ready
      cases hd
    | closing =>
      have hstart := List.length_pos_of_ne_nil ends.1
      have hposition := ends.2
      have hbounds := clear _ List.mem_cons_self
      dsimp only at hbounds
      omega
    | inside =>
      have hstart := List.length_pos_of_ne_nil ends.1
      have hposition := ends.2
      have hle := hopened rfl
      omega
    | blank run isBlank =>
      rw [(Lexeme.Step.blank run isBlank).lexFrom_cons, (Lexeme.Step.blank hgap isBlank).lexFrom_cons]
      rfl
    | opening run noBlank opens bare =>
      rw [(Lexeme.Step.opening run noBlank opens bare).lexFrom_cons,
        (Lexeme.Step.opening hgap noBlank opens (by simp)).lexFrom_cons]
      rfl
    | symbol run noBlank noQuote begins =>
      have hquote := (plain_of_mem_operator begins (mem_of_operatorAt? begins)).2.1
      rw [(Lexeme.Step.symbol run noBlank noQuote begins).lexFrom_cons,
        (Lexeme.Step.symbol hgap noBlank (by simp [hquote]) begins).lexFrom_cons, List.append_assoc]
      rfl
    | plain run noBlank noQuote begins =>
      cases pending with
      | gap => exact lexFrom_gap_previous ready position _
      | text start read =>
        have hstart := List.length_pos_of_ne_nil ends.1
        have hposition := ends.2
        have hle := hopened rfl
        omega
      | string quote start read | operator => cases run

/-- A text that is cut where no lexeme stands on both sides is read part by part. -/
theorem lexFrom_join (ready : pending.Ready previous cs) (ends : pending.EndsAt position)
    (clear : Clear (position + cs.length) (lexFrom pending previous position (cs ++ ds))) :
    lexFrom pending previous position (cs ++ ds) =
      lexFrom pending previous position cs ++ lexFrom .gap none (position + cs.length) ds := by
  induction cs generalizing pending previous position with
  | nil =>
    rw [lexFrom_nil]
    exact lexFrom_of_clear ready ends clear
  | cons c cs ih =>
    obtain ⟨out, next, step⟩ := exists_step pending previous position c (operatorAt? (c :: (cs ++ ds)))
    rw [List.cons_append, step.lexFrom_cons, List.length_cons, ← Nat.add_assoc, Nat.add_right_comm] at clear
    have hstep : Lexeme.Step previous position c (operatorAt? (c :: cs)) pending out next := by
      cases cs with
      | cons d cs =>
        rw [List.cons_append, operatorAt?_cons_cons] at step
        rwa [operatorAt?_cons_cons]
      | nil =>
        cases ds with
        | nil => exact step
        | cons d ds => exact step.of_clear clear.append_left
    rw [List.cons_append, step.lexFrom_cons, hstep.lexFrom_cons, ih (hstep.ready ready) (hstep.endsAt ends)
      clear.append_right, List.append_assoc, List.length_cons, Nat.add_assoc position, Nat.add_comm 1]

/-- The lexemes of a text that is cut where no lexeme stands on both sides are those of its parts. -/
theorem lex_join (clear : Clear cs.length (lex (cs ++ ds))) :
    lex (cs ++ ds) = lex cs ++ (lex ds).map (Lexeme.shift cs.length) := by
  have hshift := lexFrom_shift cs.length .gap none 0 ds
  have hready : Lexeme.Pending.gap.Ready none cs := by
    rintro hnone
    cases hnone
  have hends : Lexeme.Pending.gap.EndsAt 0 := trivial
  have hclear : Clear (0 + cs.length) (lexFrom .gap none 0 (cs ++ ds)) := by rwa [Nat.zero_add]
  have hjoin := lexFrom_join hready hends hclear
  rw [Nat.zero_add] at hshift hjoin
  rw [lex, hjoin, lex, lex, ← hshift]
  rfl

/-! ## Lexemes in a row -/

theorem bounds_lex (h : l ∈ lex cs) : l.start < l.stop ∧ l.stop ≤ cs.length := by
  have hbounds := (laid_lex cs).bounds h
  omega

theorem clear_of_mem (h : l ∈ lex cs) : Clear l.start (lex cs) ∧ Clear l.stop (lex cs) := by
  obtain ⟨before, after, heq⟩ := List.append_of_mem h
  have hpairwise := (laid_lex cs).pairwise
  have hbounds : ∀ m ∈ lex cs, m.start < m.stop := fun m hm => (bounds_lex hm).1
  rw [heq] at hpairwise hbounds ⊢
  obtain ⟨-, hafter, hbefore⟩ := List.pairwise_append.1 hpairwise
  have hl := hbounds l (by simp)
  have hcases : ∀ m ∈ before ++ l :: after, m.stop ≤ l.start ∨ m = l ∨ l.stop ≤ m.start := by
    intro m hm
    rcases List.mem_append.1 hm with hm | hm
    · exact .inl (hbefore m hm l List.mem_cons_self)
    · rcases List.mem_cons.1 hm with rfl | hm
      · exact .inr (.inl rfl)
      · exact .inr (.inr ((List.pairwise_cons.1 hafter).1 m hm))
  constructor
  · intro m hm
    rcases hcases m hm with hm | rfl | hm <;> omega
  · intro m hm
    rcases hcases m hm with hm | rfl | hm <;> omega

/-- A text that is cut at a lexeme has the lexemes of the two parts. -/
theorem lex_take_drop {k : Nat} (hk : k ≤ cs.length) (clear : Clear k (lex cs)) :
    lex cs = lex (cs.take k) ++ (lex (cs.drop k)).map (Lexeme.shift k) := by
  have hlength : (cs.take k).length = k := by rw [List.length_take, Nat.min_eq_left hk]
  have hclear : Clear (cs.take k).length (lex (cs.take k ++ cs.drop k)) := by
    rwa [List.take_append_drop, hlength]
  have hjoin := lex_join hclear
  rwa [List.take_append_drop, hlength] at hjoin

/-- Is a lexeme within a piece of text? -/
def Lexeme.isWithin (start stop : Nat) (l : Lexeme) : Bool :=
  start ≤ l.start && l.stop ≤ stop

theorem filter_isWithin {start stop : Nat} (hbefore : ∀ l ∈ before, l.start < start)
    (hrun : ∀ l ∈ run, start ≤ l.start ∧ l.stop ≤ stop) (hafter : ∀ l ∈ after, stop < l.stop) :
    (before ++ run ++ after).filter (Lexeme.isWithin start stop) = run := by
  have hbefore' : before.filter (Lexeme.isWithin start stop) = [] := by
    refine List.filter_eq_nil_iff.2 fun l hl => ?_
    have hstart := hbefore l hl
    simp only [Lexeme.isWithin, Bool.and_eq_true, decide_eq_true_eq]
    omega
  have hafter' : after.filter (Lexeme.isWithin start stop) = [] := by
    refine List.filter_eq_nil_iff.2 fun l hl => ?_
    have hstop := hafter l hl
    simp only [Lexeme.isWithin, Bool.and_eq_true, decide_eq_true_eq]
    omega
  have hrun' : run.filter (Lexeme.isWithin start stop) = run := by
    refine List.filter_eq_self.2 fun l hl => ?_
    simp [Lexeme.isWithin, hrun l hl]
  rw [List.filter_append, List.filter_append, hbefore', hrun', hafter', List.nil_append, List.append_nil]

/-- Lexemes in a row stand between the first and the last of them, and all others before or after these. -/
theorem bounds_of_append (h : lex cs = before ++ run ++ after) (hfirst : first ∈ run.head?)
    (hlast : last ∈ run.getLast?) :
    (∀ l ∈ before, l.stop ≤ first.start) ∧ (∀ l ∈ run, first.start ≤ l.start ∧ l.stop ≤ last.stop) ∧
      ∀ l ∈ after, last.stop ≤ l.start := by
  have hpairwise := (laid_lex cs).pairwise
  have hbounds : ∀ l ∈ lex cs, l.start < l.stop := fun l hl => (bounds_lex hl).1
  rw [h] at hpairwise hbounds
  obtain ⟨hpairwise, -, hafter⟩ := List.pairwise_append.1 hpairwise
  obtain ⟨-, hrun, hbefore⟩ := List.pairwise_append.1 hpairwise
  have hfirstMem := List.mem_of_head? hfirst
  have hlastMem := List.mem_of_getLast? hlast
  have hrunBounds : ∀ l ∈ run, l.start < l.stop := fun l hl => hbounds l (by simp [hl])
  refine ⟨fun l hl => hbefore l hl first hfirstMem, fun l hl => ⟨?_, ?_⟩,
    fun l hl => hafter last (List.mem_append_right _ hlastMem) l hl⟩
  · obtain ⟨rest, rfl⟩ : ∃ rest, run = first :: rest := List.head?_eq_some_iff.1 hfirst
    rcases List.mem_cons.1 hl with rfl | hl
    · exact le_rfl
    · have hstop := (List.pairwise_cons.1 hrun).1 l hl
      have hstart := hrunBounds first hfirstMem
      omega
  · obtain ⟨init, rfl⟩ : ∃ init, run = init ++ [last] := List.getLast?_eq_some_iff.1 hlast
    rcases List.mem_append.1 hl with hl | hl
    · have hstop := (List.pairwise_append.1 hrun).2.2 l hl last List.mem_cons_self
      have hstart := hrunBounds last hlastMem
      omega
    · rw [List.mem_singleton.1 hl]

/-- Lexemes in a row are those within the piece of text that goes from the first to the last. -/
theorem filter_lex_run (h : lex cs = before ++ run ++ after) (hfirst : first ∈ run.head?)
    (hlast : last ∈ run.getLast?) : (lex cs).filter (Lexeme.isWithin first.start last.stop) = run := by
  obtain ⟨hbefore, hrun, hafter⟩ := bounds_of_append h hfirst hlast
  have hbounds : ∀ l ∈ before ++ run ++ after, l.start < l.stop := fun l hl => (bounds_lex (h ▸ hl)).1
  rw [h]
  refine filter_isWithin (fun l hl => ?_) hrun fun l hl => ?_
  · have hl' := hbounds l (by simp [hl])
    have hle := hbefore l hl
    omega
  · have hl' := hbounds l (by simp [hl])
    have hle := hafter l hl
    omega

/-- The lexemes within a piece of text that is cut out between lexemes are those that it has by itself. -/
theorem filter_lex_slice {stop : Nat} (hle : start ≤ stop) (hstop : stop ≤ cs.length)
    (clearStart : Clear start (lex cs)) (clearStop : Clear stop (lex cs)) :
    (lex cs).filter (Lexeme.isWithin start stop) =
      (lex ((cs.take stop).drop start)).map (Lexeme.shift start) := by
  have hlength : (cs.take stop).length = stop := by rw [List.length_take, Nat.min_eq_left hstop]
  have hcut := lex_take_drop hstop clearStop
  rw [hcut] at clearStart
  rw [lex_take_drop (by rwa [hlength]) clearStart.append_left] at hcut
  rw [hcut]
  refine filter_isWithin (fun l hl => ?_) (fun l hl => ?_) fun l hl => ?_
  · have hl' := bounds_lex hl
    rw [List.length_take] at hl'
    omega
  · obtain ⟨m, hm, rfl⟩ := List.mem_map.1 hl
    have hm' := bounds_lex hm
    rw [List.length_drop, hlength] at hm'
    dsimp only [Lexeme.shift]
    omega
  · obtain ⟨m, hm, rfl⟩ := List.mem_map.1 hl
    have hm' := bounds_lex hm
    dsimp only [Lexeme.shift]
    omega

/-- Lexemes in a row are those of the piece of text that goes from the first to the last. -/
theorem lex_slice (h : lex cs = before ++ run ++ after) (hfirst : first ∈ run.head?)
    (hlast : last ∈ run.getLast?) :
    (lex ((cs.take last.stop).drop first.start)).map (Lexeme.shift first.start) = run := by
  have hfirstMem : first ∈ lex cs := h ▸ by simp [List.mem_of_head? hfirst]
  have hlastMem : last ∈ lex cs := h ▸ by simp [List.mem_of_getLast? hlast]
  have hle : first.start ≤ last.stop := by
    have hbounds := bounds_lex hfirstMem
    have hstop := ((bounds_of_append h hfirst hlast).2.1 first (List.mem_of_head? hfirst)).2
    omega
  rw [← filter_lex_slice hle (bounds_lex hlastMem).2 (clear_of_mem hfirstMem).1 (clear_of_mem hlastMem).2,
    filter_lex_run h hfirst hlast]

/-! ## What is between the lexemes -/

/-- A lexeme stands in the text at its place. -/
theorem Laid.exists_around (h : Laid position cs ls) (hl : l ∈ ls) :
    ∃ before after, cs = before ++ (l.text ++ after) ∧ l.start = position + before.length ∧
      l.stop = l.start + l.text.length := by
  induction h with
  | nil => cases hl
  | @blank position c cs ls isBlank rest ih =>
    obtain ⟨before, after, rfl, hstart, hstop⟩ := ih hl
    refine ⟨c :: before, after, rfl, ?_, hstop⟩
    rw [hstart, List.length_cons]
    omega
  | @lexeme position text cs ls kind nonempty rest ih =>
    rcases List.mem_cons.1 hl with rfl | hl
    · exact ⟨[], cs, rfl, rfl, rfl⟩
    · obtain ⟨before, after, rfl, hstart, hstop⟩ := ih hl
      refine ⟨text ++ before, after, (List.append_assoc ..).symm, ?_, hstop⟩
      rw [hstart, List.length_append, Nat.add_assoc]

/-- The text of a lexeme is what stands in its place. -/
theorem text_eq_slice (hl : l ∈ lex cs) : l.text = (cs.take l.stop).drop l.start := by
  obtain ⟨before, after, hcs, hstart, hstop⟩ := (laid_lex cs).exists_around hl
  rw [Nat.zero_add] at hstart
  rw [hstop, hstart, hcs, ← List.append_assoc, ← List.length_append, List.take_left, List.drop_left]

/-- The text of a lexeme is one lexeme by itself. -/
theorem lex_text (hl : l ∈ lex cs) : lex l.text = [⟨l.kind, l.text, 0, l.text.length⟩] := by
  obtain ⟨before, after, heq⟩ := List.append_of_mem hl
  obtain ⟨-, -, -, -, hstop⟩ := (laid_lex cs).exists_around hl
  have hrun : lex cs = before ++ [l] ++ after := by rw [heq, List.append_assoc]; rfl
  have hslice : (lex ((cs.take l.stop).drop l.start)).map (Lexeme.shift l.start) = [l] := lex_slice hrun rfl rfl
  rw [← text_eq_slice hl] at hslice
  obtain ⟨m, hm, hshift⟩ := List.map_eq_singleton_iff.1 hslice
  have hstart : m.start + l.start = l.start := congrArg Lexeme.start hshift
  have hend : m.stop + l.start = l.stop := congrArg Lexeme.stop hshift
  rcases m with ⟨kind, text, start, stop⟩
  dsimp only at hstart hend
  rw [hm, List.cons.injEq, Lexeme.mk.injEq]
  exact ⟨⟨congrArg Lexeme.kind hshift, congrArg Lexeme.text hshift, by omega, by omega⟩, rfl⟩

/-- A quote that begins a lexeme begins a string. -/
theorem kind_of_quote (hl : l ∈ lex cs) (hc : c ∈ l.text.head?) (hquote : isQuote c = true) : l.kind = .string := by
  obtain ⟨rest, htext⟩ := List.head?_eq_some_iff.1 hc
  have hgap : Lexeme.Pending.gap.IsRun := trivial
  have hopens : lex (c :: rest) = lexFrom (.string c 0 [c]) (some c) 1 rest :=
    (Lexeme.Step.opening hgap (not_blank_of_quote hquote) hquote (by simp)).lexFrom_cons
  have hopened : (Lexeme.Pending.string c 0 [c]).opened? = some (.string, 0) := rfl
  obtain ⟨m, hm, hkind, -⟩ := exists_head?_lexFrom hopened (some c) 1 rest
  rw [← hopens, ← htext, lex_text hl] at hm
  cases hm
  exact hkind

/-- A character that no lexeme has is a blank. -/
theorem Laid.isBlank_of_outside (h : Laid position cs ls) {i : Nat} (hi : cs[i]? = some c)
    (outside : ∀ l ∈ ls, l.stop ≤ position + i ∨ position + i < l.start) : Text.isBlank c = true := by
  induction h generalizing i with
  | nil => cases hi
  | @blank position d cs ls isBlank rest ih =>
    cases i with
    | zero =>
      cases hi
      exact isBlank
    | succ i =>
      refine ih hi fun l hl => ?_
      have hl := outside l hl
      omega
  | @lexeme position text cs ls kind nonempty rest ih =>
    rw [List.forall_mem_cons] at outside
    have hlength : text.length ≤ i := by
      have hl := outside.1
      dsimp only at hl
      omega
    rw [List.getElem?_append_right hlength] at hi
    refine ih hi fun l hl => ?_
    have hl := outside.2 l hl
    omega

/-! ## All of a text, and every piece of it -/

/-- Nothing of a text is lost in its lexemes: these stand in it one after the other, and there is nothing else but
blanks. -/
structure Covers (cs : List Char) (ls : List Lexeme) : Prop where
  nonempty : ∀ l ∈ ls, l.text ≠ []
  within : ∀ l ∈ ls, l.start < l.stop ∧ l.stop ≤ cs.length
  slice : ∀ l ∈ ls, l.text = (cs.take l.stop).drop l.start
  ordered : ls.Pairwise fun l m => l.stop ≤ m.start
  blank : ∀ i c, cs[i]? = some c → (∀ l ∈ ls, ¬ (l.start ≤ i ∧ i < l.stop)) → Text.isBlank c = true

theorem covers_lex (cs : List Char) : Covers cs (lex cs) where
  nonempty l hl := by
    obtain ⟨before, after, -, -, hstop⟩ := (laid_lex cs).exists_around hl
    have hbounds := bounds_lex hl
    rintro hnil
    rw [hnil, List.length_nil] at hstop
    omega
  within _ hl := bounds_lex hl
  slice l hl := text_eq_slice hl
  ordered := (laid_lex cs).pairwise
  blank i c hi outside := by
    refine (laid_lex cs).isBlank_of_outside hi fun l hl => ?_
    have hl := outside l hl
    omega

/-- **Lexing loses nothing, and can begin and end at any lexeme.** The lexemes of a text stand in it one after the other
with nothing but blanks between them. Lexemes in a row are those of the piece of text that they cover, moved to where
it stands; a quote that begins a lexeme begins a string, there as in the whole text. -/
theorem lex_restartable (cs : List Char) :
    Covers cs (lex cs) ∧
      (∀ before run after first last, lex cs = before ++ run ++ after → first ∈ run.head? → last ∈ run.getLast? →
        (lex ((cs.take last.stop).drop first.start)).map (Lexeme.shift first.start) = run) ∧
      ∀ l ∈ lex cs, ∀ c ∈ l.text.head?, isQuote c = true →
        l.kind = .string ∧ lex l.text = [⟨.string, l.text, 0, l.text.length⟩] := by
  refine ⟨covers_lex cs, fun before run after first last h hfirst hlast => lex_slice h hfirst hlast, ?_⟩
  intro l hl c hc hquote
  have hkind := kind_of_quote hl hc hquote
  exact ⟨hkind, hkind ▸ lex_text hl⟩

end Runbook.Condition
