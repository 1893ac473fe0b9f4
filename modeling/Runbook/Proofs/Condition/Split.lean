import Runbook.Condition.Expr
import Runbook.Proofs.Condition.Lexeme
import Runbook.Proofs.Text.Blank

/-!
# How a condition splits into parts

* `cover_lex` — the lexemes of a trimmed text cover it.
* `split_eq_singleton` — a text without an operator at its top level is one part.
* `split_append` and `split_intercalate` — parts in a row, with an operator between any two, are the parts of
  the whole: splitting undoes joining.
* `length_lt_of_mem_split` — of two parts or more, each is shorter than the whole.
-/

namespace Runbook.Condition

variable {op : String} {position : Nat} {c : Char} {cs ds part : List Char} {l : Lexeme}
  {ls : List Lexeme}

/-! ## Where lexemes stand -/

theorem Laid.eq_nil (h : Laid position [] ls) : ls = [] := by
  generalize hcs : ([] : List Char) = cs at h
  cases h with
  | nil => rfl
  | blank => cases hcs
  | lexeme kind nonempty rest =>
    exact absurd (List.append_eq_nil_iff.1 hcs.symm).1 nonempty

/-- A lexeme has characters, and it stands within the text. -/
theorem Laid.bounds (h : Laid position cs ls) (hl : l ∈ ls) :
    position ≤ l.start ∧ l.start < l.stop ∧ l.stop ≤ position + cs.length := by
  induction h with
  | nil => cases hl
  | blank isBlank rest ih =>
    have hbounds := ih hl
    rw [List.length_cons]
    omega
  | @lexeme position text cs ls kind nonempty rest ih =>
    have hpos := List.length_pos_of_ne_nil nonempty
    rw [List.length_append]
    rcases List.mem_cons.1 hl with rfl | hl
    · dsimp only
      omega
    · have hbounds := ih hl
      omega

/-- Lexemes stand one after the other. -/
theorem Laid.pairwise (h : Laid position cs ls) : ls.Pairwise fun l m => l.stop ≤ m.start := by
  induction h with
  | nil => exact .nil
  | blank isBlank rest ih => exact ih
  | lexeme kind nonempty rest ih => exact .cons (fun m hm => (rest.bounds hm).1) ih

theorem Laid.exists_head? (h : Laid position (c :: cs) ls) (hc : Text.isBlank c = false) :
    ∃ l ∈ ls.head?, l.start = position := by
  generalize hcs : c :: cs = ds at h
  cases h with
  | nil => cases hcs
  | blank isBlank rest =>
    obtain ⟨rfl, rfl⟩ := List.cons.inj hcs
    rw [hc] at isBlank
    cases isBlank
  | lexeme kind nonempty rest => exact ⟨_, rfl, rfl⟩

theorem Laid.exists_getLast? (h : Laid position cs ls) (hlast : c ∈ cs.getLast?)
    (hc : Text.isBlank c = false) : ∃ l ∈ ls.getLast?, l.stop = position + cs.length := by
  induction h with
  | nil => cases hlast
  | @blank position d cs ls isBlank rest ih =>
    cases cs with
    | nil =>
      obtain rfl : d = c := by simpa using hlast
      rw [hc] at isBlank
      cases isBlank
    | cons e cs =>
      obtain ⟨l, hl, hstop⟩ := ih (by simpa using hlast)
      refine ⟨l, hl, ?_⟩
      simp only [hstop, List.length_cons]
      omega
  | @lexeme position text cs ls kind nonempty rest ih =>
    cases cs with
    | nil =>
      obtain rfl := rest.eq_nil
      exact ⟨_, rfl, by simp⟩
    | cons e cs =>
      obtain ⟨l, hl, hstop⟩ := ih (by simpa using hlast)
      refine ⟨l, ?_, by rw [hstop, List.length_append]; omega⟩
      rw [List.getLast?_cons, Option.mem_def.1 hl]
      rfl

/-! ## The text that lexemes cover -/

theorem cover_append (ds : List Char) (h : ∀ l ∈ ls, l.stop ≤ cs.length) :
    cover (cs ++ ds) ls = cover cs ls := by
  unfold cover
  split
  · rename_i first last hfirst hlast
    rw [List.take_append_of_le_length (h last (List.mem_of_getLast? hlast))]
  · rfl

theorem cover_shift (ds cs : List Char) (ls : List Lexeme) :
    cover (ds ++ cs) (ls.map (Lexeme.shift ds.length)) = cover cs ls := by
  unfold cover
  rw [List.head?_map, List.getLast?_map]
  cases ls.head? <;> cases ls.getLast? <;> try rfl
  rename_i first last
  dsimp only [Option.map_some, Lexeme.shift]
  rw [Nat.add_comm last.stop, List.take_length_add_append, Nat.add_comm first.start,
    List.drop_length_add_append]

/-- The lexemes of a trimmed text cover it. -/
theorem cover_lex (hne : cs ≠ []) (htrim : Text.trimChars cs = cs) : cover cs (lex cs) = some cs := by
  obtain ⟨hhead, hlast⟩ := Text.trimChars_eq_self_iff.1 htrim
  have hgetLast : cs.getLast hne ∈ cs.getLast? := List.getLast?_eq_some_getLast hne
  obtain ⟨last, hlastMem, hstop⟩ := (laid_lex cs).exists_getLast? hgetLast (hlast _ hgetLast)
  obtain ⟨c, cs, rfl⟩ := List.exists_cons_of_ne_nil hne
  obtain ⟨first, hfirst, hstart⟩ := (laid_lex (c :: cs)).exists_head? (hhead c rfl)
  rw [cover, Option.mem_def.1 hfirst, Option.mem_def.1 hlastMem]
  simp only [hstart, hstop, Nat.zero_add, List.take_length, List.drop_zero, htrim]

/-! ## Groups -/

theorem groups_eq_splitOnP (op : List Char) (ls : List Lexeme) :
    groups op ls = ls.splitOnP (Lexeme.isOperator op) := by
  induction ls with
  | nil => rfl
  | cons l ls ih =>
    rw [groups, ih, List.splitOnP_cons_eq_if_modifyHead]
    cases hgroups : ls.splitOnP (Lexeme.isOperator op) with
    | nil => exact absurd hgroups (List.splitOnP_ne_nil _ _)
    | cons group rest => rfl

theorem groups_map_shift (op : List Char) (k : Nat) (ls : List Lexeme) :
    groups op (ls.map (Lexeme.shift k)) = (groups op ls).map (List.map (Lexeme.shift k)) := by
  induction ls with
  | nil => rfl
  | cons l ls ih =>
    rw [List.map_cons, groups, groups, ih]
    have hshift : (l.shift k).isOperator op = l.isOperator op := rfl
    rw [hshift]
    split
    · rfl
    · cases groups op ls <;> rfl

theorem groups_of_free {op : List Char} (h : ∀ l ∈ ls, l.isOperator op = false) : groups op ls = [ls] := by
  rw [groups_eq_splitOnP, List.splitOnP_eq_singleton h]

theorem groups_append {op : List Char} {before after : List Lexeme} {sep : Lexeme}
    (hbefore : ∀ l ∈ before, l.isOperator op = false) (hsep : sep.isOperator op = true) :
    groups op (before ++ sep :: after) = before :: groups op after := by
  rw [groups_eq_splitOnP, List.splitOnP_append_cons _ _ hsep, List.splitOnP_eq_singleton hbefore,
    groups_eq_splitOnP]
  rfl

/-- If an operator stands among the lexemes, a group is a piece of them and leaves some out. -/
theorem eq_append_of_mem_groups {op : List Char} {group ls : List Lexeme} (h : group ∈ groups op ls)
    (hop : ∃ l ∈ ls, l.isOperator op = true) :
    ∃ before after, ls = before ++ group ++ after ∧ before ++ after ≠ [] := by
  obtain ⟨sep, hfind⟩ := Option.isSome_iff_exists.1 (List.find?_isSome.2 hop)
  obtain ⟨hsep, first, rest, rfl, hfirst⟩ := List.find?_eq_some_iff_append.1 hfind
  rw [groups_append (by simpa using hfirst) hsep] at h
  rcases List.mem_cons.1 h with rfl | h
  · exact ⟨[], sep :: rest, by simp, by simp⟩
  · by_cases hrest : ∃ l ∈ rest, l.isOperator op = true
    · obtain ⟨before, after, heq, -⟩ := eq_append_of_mem_groups h hrest
      exact ⟨first ++ sep :: before, after, by simp [heq], by simp⟩
    · rw [groups_of_free (by simpa using hrest), List.mem_singleton] at h
      exact ⟨first ++ [sep], [], by simp [h], by simp⟩
termination_by ls.length

/-! ## Parts -/

/-- Does an operator stand nowhere at the top level of a text? -/
def Free (op : String) (cs : List Char) : Prop :=
  ∀ l ∈ lex cs, l.isOperator op.toList = false

instance (op : String) (cs : List Char) : Decidable (Free op cs) :=
  inferInstanceAs (Decidable (∀ l ∈ lex cs, l.isOperator op.toList = false))

/-- Does no operator at all stand at the top level of a text? -/
def Undivided (cs : List Char) : Prop :=
  ∀ l ∈ lex cs, l.kind ≠ .operator

instance (cs : List Char) : Decidable (Undivided cs) :=
  inferInstanceAs (Decidable (∀ l ∈ lex cs, l.kind ≠ .operator))

theorem Undivided.free (h : Undivided cs) (op : String) : Free op cs := by
  intro l hl
  rw [Lexeme.isOperator, beq_false_of_ne (h l hl), Bool.false_and]

/-- A text that keeps to itself as part of a longer one: it is not empty, no blank stands at its ends, and
its strings are closed. -/
structure IsPart (cs : List Char) : Prop where
  nonempty : cs ≠ []
  trimmed : Text.trimChars cs = cs
  closed : Closed (lex cs)

instance (cs : List Char) : Decidable (IsPart cs) :=
  decidable_of_iff (cs ≠ [] ∧ Text.trimChars cs = cs ∧ Closed (lex cs))
    ⟨fun h => ⟨h.1, h.2.1, h.2.2⟩, fun h => ⟨h.1, h.2, h.3⟩⟩

/-- A text without an operator at its top level is one part. -/
theorem split_eq_singleton (hne : cs ≠ []) (htrim : Text.trimChars cs = cs) (hfree : Free op cs) :
    split op cs = [cs] := by
  rw [split, groups_of_free hfree, List.filterMap_cons_some (cover_lex hne htrim), List.filterMap_nil]

/-- Of two parts or more, each is shorter than the whole. -/
theorem length_lt_of_mem_split (hpart : part ∈ split op cs) (htwo : 2 ≤ (split op cs).length) :
    part.length < cs.length := by
  obtain ⟨group, hgroup, hcover⟩ := List.mem_filterMap.1 hpart
  have hop : ∃ l ∈ lex cs, l.isOperator op.toList = true := by
    by_contra hnone
    have hle := List.length_filterMap_le (cover cs) (groups op.toList (lex cs))
    rw [groups_of_free (by simpa using hnone), List.length_singleton] at hle
    rw [split, groups_of_free (by simpa using hnone)] at htwo
    omega
  obtain ⟨before, after, heq, hne⟩ := eq_append_of_mem_groups hgroup hop
  unfold cover at hcover
  split at hcover
  · rename_i first last hfirst hlast
    obtain rfl := Option.some.inj hcover
    have htrim := Text.length_trimChars_le ((cs.take last.stop).drop first.start)
    rw [List.length_drop, List.length_take] at htrim
    have hbounds : ∀ l ∈ before ++ group ++ after, l.start < l.stop ∧ l.stop ≤ cs.length := by
      intro l hl
      have hl := (laid_lex cs).bounds (heq ▸ hl)
      omega
    have hpairwise := (laid_lex cs).pairwise
    rw [heq, List.append_assoc, List.pairwise_append] at hpairwise
    obtain ⟨-, hpairwise, hbefore⟩ := hpairwise
    obtain ⟨-, -, hafter⟩ := List.pairwise_append.1 hpairwise
    have hfirstMem := List.mem_of_head? hfirst
    have hlastMem := List.mem_of_getLast? hlast
    have hfirstBounds := hbounds first (by simp [hfirstMem])
    have hlastBounds := hbounds last (by simp [hlastMem])
    -- the lexeme left out takes a character away, before the part or after it
    obtain ⟨l, hl⟩ := List.exists_mem_of_ne_nil _ hne
    rcases List.mem_append.1 hl with hl | hl
    · have hlBounds := hbounds l (by simp [hl])
      have hstop := hbefore l hl first (List.mem_append_left _ hfirstMem)
      omega
    · have hlBounds := hbounds l (by simp [hl])
      have hstop := hafter last hlastMem l hl
      omega
  · cases hcover

/-! ## Joining -/

/-- An operator that is a lexeme of its own. -/
def IsSymbol (op : String) : Prop :=
  lex op.toList = [⟨.operator, op.toList, 0, op.toList.length⟩]

instance (op : String) : Decidable (IsSymbol op) :=
  inferInstanceAs (Decidable (_ = _))

theorem Comparison.isSymbol (op : Comparison) : IsSymbol op.symbol := by
  cases op <;> decide

/-- An operator between blanks. -/
def spaced (op : String) : List Char :=
  ' ' :: op.toList ++ [' ']

/-- What stands on either side of an operator between blanks has lexemes of its own. -/
theorem lex_append_spaced (hop : IsSymbol op) (closed : Closed (lex cs)) (ds : List Char) :
    lex (cs ++ spaced op ++ ds) =
      lex cs ++ ⟨.operator, op.toList, cs.length + 1, cs.length + 1 + op.toList.length⟩ ::
        (lex ds).map (Lexeme.shift (cs ++ spaced op).length) := by
  have hblank : Text.isBlank ' ' = true := by decide
  have hopClosed : Closed (lex op.toList) := by
    rw [hop]
    intro l hl hkind
    obtain rfl := List.mem_singleton.1 hl
    cases hkind
  have happend : cs ++ spaced op ++ ds = cs ++ ' ' :: (op.toList ++ ' ' :: ds) := by
    simp [spaced]
  rw [happend, lex_append_blank hblank closed, lex_append_blank hblank hopClosed, hop]
  rw [List.map_append, List.map_map]
  have hlength : (cs ++ spaced op).length = op.toList.length + 1 + (cs.length + 1) := by
    simp [spaced]
    omega
  simp [Lexeme.shift, hlength, Function.comp_def, Nat.add_assoc, Nat.add_comm, Nat.add_left_comm]

/-- The part before an operator between blanks is the first part of the whole. -/
theorem split_append (hop : IsSymbol op) (hpart : IsPart part) (hfree : Free op part) (cs : List Char) :
    split op (part ++ spaced op ++ cs) = part :: split op cs := by
  have hbounds : ∀ l ∈ lex part, l.stop ≤ part.length := by
    intro l hl
    have hbounds := (laid_lex part).bounds hl
    omega
  have hcover : cover (part ++ spaced op ++ cs) (lex part) = some part := by
    rw [List.append_assoc, cover_append _ hbounds, cover_lex hpart.nonempty hpart.trimmed]
  rw [split, lex_append_spaced hop hpart.closed, groups_append hfree (by simp [Lexeme.isOperator]),
    List.filterMap_cons_some hcover, groups_map_shift, List.filterMap_map, split]
  congr 1
  exact List.filterMap_congr fun group _ => cover_shift (part ++ spaced op) cs group

/-- Splitting undoes joining. -/
theorem split_intercalate {parts : List (List Char)} (hop : IsSymbol op) (hne : parts ≠ [])
    (hparts : ∀ part ∈ parts, IsPart part) (hfree : ∀ part ∈ parts, Free op part) :
    split op ((spaced op).intercalate parts) = parts := by
  induction parts with
  | nil => exact absurd rfl hne
  | cons part parts ih =>
    rw [List.forall_mem_cons] at hparts hfree
    cases parts with
    | nil =>
      rw [List.intercalate_singleton]
      exact split_eq_singleton hparts.1.nonempty hparts.1.trimmed hfree.1
    | cons next parts =>
      rw [List.intercalate_cons_cons, split_append hop hparts.1 hfree.1,
        ih (List.cons_ne_nil _ _) hparts.2 hfree.2]

/-- An operator between blanks brings no other one with it. -/
theorem free_append_spaced {other : String} (hop : IsSymbol op) (hne : other ≠ op) (closed : Closed (lex cs))
    (hcs : Free other cs) (hds : Free other ds) : Free other (cs ++ spaced op ++ ds) := by
  rw [Free, lex_append_spaced hop closed]
  refine List.forall_mem_append.2 ⟨hcs, List.forall_mem_cons.2 ⟨?_, List.forall_mem_map.2 hds⟩⟩
  simpa [Lexeme.isOperator, String.toList_inj] using hne.symm

/-- Joined with one operator, parts without another one have none of it. -/
theorem free_intercalate {other : String} {parts : List (List Char)} (hop : IsSymbol op) (hne : other ≠ op)
    (hparts : ∀ part ∈ parts, IsPart part) (hfree : ∀ part ∈ parts, Free other part) :
    Free other ((spaced op).intercalate parts) := by
  induction parts with
  | nil => simp [Free, lex, lexFrom_nil, Lexeme.Pending.close]
  | cons part parts ih =>
    rw [List.forall_mem_cons] at hparts hfree
    cases parts with
    | nil =>
      rw [List.intercalate_singleton]
      exact hfree.1
    | cons next parts =>
      rw [List.intercalate_cons_cons]
      exact free_append_spaced hop hne hparts.1.closed hfree.1 (ih hparts.2 hfree.2)

/-- Parts in a row begin and end without a blank. -/
theorem trimChars_intercalate {parts : List (List Char)} (sep : List Char)
    (hparts : ∀ part ∈ parts, IsPart part) :
    Text.trimChars (sep.intercalate parts) = sep.intercalate parts := by
  induction parts with
  | nil => rfl
  | cons part parts ih =>
    rw [List.forall_mem_cons] at hparts
    cases parts with
    | nil =>
      rw [List.intercalate_singleton]
      exact hparts.1.trimmed
    | cons next parts =>
      have hne : sep.intercalate (next :: parts) ≠ [] := by
        have hnext := (hparts.2 next List.mem_cons_self).nonempty
        cases parts <;> simp [hnext]
      rw [List.intercalate_cons_cons, List.append_assoc, ← List.append_assoc]
      exact Text.trimChars_append hparts.1.trimmed (ih hparts.2) hparts.1.nonempty hne sep

end Runbook.Condition
