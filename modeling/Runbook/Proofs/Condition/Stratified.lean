import Mathlib.Logic.Relation
import Runbook.Proofs.Condition.Divided
import Runbook.Proofs.Condition.Parse

/-!
# The shape of a condition

* `reads_iff` — reading a condition comes to an end: there is a finite derivation of what is read by the rules of
  `Reads`, and of nothing else.
* `Reads.absent` — what an operator does not divide is read without it, at any depth and through negations.
* `parse_stratified` — so conjunctions stand in no conjunction and no disjunction, disjunctions in no disjunction, and
  each has two parts or more.
-/

namespace Runbook.Condition

variable {cs : List Char} {e x : Expr} {parts : List Expr}

/-! ## Reading to the end -/

/-- Is a trimmed text neither a constant nor a negation? -/
structure IsOpen (cs : List Char) : Prop where
  notTrue : lower cs ≠ "true".toList
  notFalse : lower cs ≠ "false".toList
  notNegated : ∀ rest, cs ≠ '!' :: rest

/-- What is read of a text. A derivation has another one for each text that is read on the way. -/
inductive Reads : List Char → Expr → Prop where
  | isTrue {cs : List Char} (h : lower (Text.trimChars cs) = "true".toList) : Reads cs (.constant true)
  | isFalse {cs : List Char} (h : lower (Text.trimChars cs) = "false".toList) : Reads cs (.constant false)
  | not {cs rest : List Char} {e : Expr} (h : Text.trimChars cs = '!' :: rest) (operand : Reads rest e) :
      Reads cs (.not e)
  | all {cs : List Char} {read : List Char → Expr} (isOpen : IsOpen (Text.trimChars cs))
      (divided : 2 ≤ (split "&&" (Text.trimChars cs)).length)
      (parts : ∀ part ∈ split "&&" (Text.trimChars cs), Reads part (read part)) :
      Reads cs (.all ((split "&&" (Text.trimChars cs)).map read))
  | any {cs : List Char} {read : List Char → Expr} (isOpen : IsOpen (Text.trimChars cs))
      (whole : ¬ 2 ≤ (split "&&" (Text.trimChars cs)).length)
      (divided : 2 ≤ (split "||" (Text.trimChars cs)).length)
      (parts : ∀ part ∈ split "||" (Text.trimChars cs), Reads part (read part)) :
      Reads cs (.any ((split "||" (Text.trimChars cs)).map read))
  | leaf {cs : List Char} (isOpen : IsOpen (Text.trimChars cs))
      (whole : ¬ 2 ≤ (split "&&" (Text.trimChars cs)).length)
      (whole' : ¬ 2 ≤ (split "||" (Text.trimChars cs)).length) :
      Reads cs ((comparison? (Text.trimChars cs)).getD (.truthy (String.ofList (Text.trimChars cs))))

theorem parseLevel_true (h : lower cs = "true".toList) (read : List Char → Expr) :
    parseLevel read cs = .constant true := by
  unfold parseLevel
  rw [if_pos h]

theorem parseLevel_false (h : lower cs = "false".toList) (read : List Char → Expr) :
    parseLevel read cs = .constant false := by
  unfold parseLevel
  rw [if_neg (by rw [h]; decide), if_pos h]

theorem parseLevel_not (read : List Char → Expr) (rest : List Char) :
    parseLevel read ('!' :: rest) = .not (read rest) := rfl

theorem parseLevel_of_isOpen (h : IsOpen cs) (read : List Char → Expr) : parseLevel read cs = parseParts read cs := by
  rw [parseLevel, if_neg h.notTrue, if_neg h.notFalse]
  exact h.notNegated

/-- There is a derivation of what is read, since what is read on the way is shorter. -/
theorem reads_parse (cs : List Char) : Reads cs (parse (String.ofList cs)) := by
  induction hn : cs.length using Nat.strong_induction_on generalizing cs with
  | _ n ih =>
    have hlength := Text.length_trimChars_le cs
    rw [parse_eq, String.toList_ofList]
    by_cases htrue : lower (Text.trimChars cs) = "true".toList
    · rw [parseLevel_true htrue]
      exact .isTrue htrue
    by_cases hfalse : lower (Text.trimChars cs) = "false".toList
    · rw [parseLevel_false hfalse]
      exact .isFalse hfalse
    by_cases hnot : ∃ rest, Text.trimChars cs = '!' :: rest
    · obtain ⟨rest, hrest⟩ := hnot
      rw [hrest, parseLevel_not]
      rw [hrest, List.length_cons] at hlength
      exact .not hrest (ih rest.length (by omega) rest rfl)
    have hopen : IsOpen (Text.trimChars cs) := ⟨htrue, hfalse, fun rest h => hnot ⟨rest, h⟩⟩
    have hparts : ∀ {op : String}, 2 ≤ (split op (Text.trimChars cs)).length →
        ∀ part ∈ split op (Text.trimChars cs), Reads part (parse (String.ofList part)) := by
      intro op htwo part hpart
      have hlt := length_lt_of_mem_split hpart htwo
      exact ih part.length (by omega) part rfl
    rw [parseLevel_of_isOpen hopen, parseParts]
    split
    · rename_i hall
      exact .all hopen hall (hparts hall)
    · rename_i hall
      split
      · rename_i hany
        exact .any hopen hall hany (hparts hany)
      · rename_i hany
        exact .leaf hopen hall hany

/-- What has a derivation is what is read. -/
theorem Reads.parse_eq (h : Reads cs e) : parse (String.ofList cs) = e := by
  induction h with
  | isTrue h => rw [Condition.parse_eq, String.toList_ofList, parseLevel_true h]
  | isFalse h => rw [Condition.parse_eq, String.toList_ofList, parseLevel_false h]
  | not h operand ih => rw [Condition.parse_eq, String.toList_ofList, h, parseLevel_not, ih]
  | all isOpen divided parts ih =>
    rw [Condition.parse_eq, String.toList_ofList, parseLevel_of_isOpen isOpen, parseParts, if_pos divided,
      List.map_congr_left ih]
  | any isOpen whole divided parts ih =>
    rw [Condition.parse_eq, String.toList_ofList, parseLevel_of_isOpen isOpen, parseParts, if_neg whole,
      if_pos divided, List.map_congr_left ih]
  | leaf isOpen whole whole' =>
    rw [Condition.parse_eq, String.toList_ofList, parseLevel_of_isOpen isOpen, parseParts, if_neg whole,
      if_neg whole']

/-- Reading comes to an end, and what it ends with is what the rules say. -/
theorem reads_iff (cs : List Char) (e : Expr) : Reads cs e ↔ parse (String.ofList cs) = e :=
  ⟨Reads.parse_eq, fun h => h ▸ reads_parse cs⟩

/-! ## What stands in a condition -/

/-- The conditions that one is put together of. -/
inductive Expr.IsPart : Expr → Expr → Prop where
  | operand (e : Expr) : IsPart e (.not e)
  | conjunct {e : Expr} {parts : List Expr} (h : e ∈ parts) : IsPart e (.all parts)
  | disjunct {e : Expr} {parts : List Expr} (h : e ∈ parts) : IsPart e (.any parts)

/-- Does a condition stand below another one, at any depth? -/
def Expr.IsBelow : Expr → Expr → Prop :=
  Relation.TransGen Expr.IsPart

/-- Is a condition another one, or does it stand below it? -/
def Expr.Occurs : Expr → Expr → Prop :=
  Relation.ReflTransGen Expr.IsPart

namespace Expr

theorem isBelow_iff : x.IsBelow e ↔ ∃ part, x.Occurs part ∧ part.IsPart e :=
  Relation.TransGen.tail'_iff

theorem occurs_iff : x.Occurs e ↔ x = e ∨ x.IsBelow e := by
  rw [Occurs, Relation.reflTransGen_iff_eq_or_transGen, eq_comm]
  rfl

/-- What occurs in a condition is that condition, or it occurs in a part of it. -/
theorem occurs_iff_part : x.Occurs e ↔ x = e ∨ ∃ part, x.Occurs part ∧ part.IsPart e := by
  rw [occurs_iff, isBelow_iff]

/-- Is a condition not put together of others? -/
def IsAtom : Expr → Prop
  | constant _ | compare _ _ _ | truthy _ => True
  | not _ | all _ | any _ => False

theorem IsAtom.not_isPart (h : e.IsAtom) : ¬ x.IsPart e := by
  rintro ⟨⟩ <;> exact h

/-- What is read of a text that no connective divides is not put together of others. -/
theorem isAtom_leaf (cs : List Char) (text : String) : ((comparison? cs).getD (.truthy text)).IsAtom := by
  cases h : comparison? cs with
  | none => trivial
  | some e =>
    obtain ⟨op, -, hop⟩ := List.exists_of_findSome?_eq_some h
    split at hop
    · obtain rfl := Option.some.inj hop
      trivial
    · cases hop

end Expr

/-- The operators that put conditions together. -/
inductive Connective where
  | all
  | any

namespace Connective

/-- The operator in a text. -/
def symbol : Connective → String
  | all => "&&"
  | any => "||"

/-- The condition that is put together of some parts. -/
def node : Connective → List Expr → Expr
  | all => .all
  | any => .any

theorem notMem_symbol (k : Connective) : '!' ∉ k.symbol.toList ∧ '=' ∉ k.symbol.toList := by
  cases k <;> decide

theorem absent_of_isAtom (h : e.IsAtom) (k : Connective) (parts : List Expr) : ¬ (k.node parts).Occurs e := by
  rw [Expr.occurs_iff_part]
  rintro (rfl | ⟨part, -, hpart⟩)
  · cases k <;> exact h
  · exact h.not_isPart hpart

end Connective

/-- A part is divided by no connective that does not divide the whole, and not by the one that it is split at. -/
theorem not_divided_of_mem_split {op : String} {part : List Char} (hpart : part ∈ split op (Text.trimChars cs)) :
    ¬ Divided op.toList (lex (Text.trimChars part)) ∧
      ∀ other, ¬ Divided other (lex (Text.trimChars cs)) → ¬ Divided other (lex (Text.trimChars part)) := by
  have htrim := Text.trimChars_trimChars cs
  rw [(lex_of_mem_split htrim hpart).1]
  exact ⟨not_divided_part_self htrim hpart, fun _ => not_divided_part htrim hpart⟩

/-- **What a connective does not divide is read without it**, at any depth. -/
theorem Reads.absent (h : Reads cs e) (k : Connective)
    (whole : ¬ Divided k.symbol.toList (lex (Text.trimChars cs))) (parts : List Expr) : ¬ (k.node parts).Occurs e := by
  induction h with
  | isTrue h | isFalse h =>
    refine k.absent_of_isAtom ?_ parts
    trivial
  | @not cs rest e h operand ih =>
    have htrim := Text.trimChars_trimChars cs
    rw [h] at whole htrim
    have hrest := not_divided_of_negated k.notMem_symbol.1 k.notMem_symbol.2 htrim whole
    rw [Expr.occurs_iff_part]
    rintro (heq | ⟨part, hoccurs, hpart⟩)
    · cases k <;> cases heq
    · cases hpart
      exact ih hrest hoccurs
  | all isOpen divided hparts ih =>
    rw [Expr.occurs_iff_part]
    rintro (heq | ⟨part, hoccurs, hpart⟩)
    · cases k with
      | all => exact whole ((two_le_split_iff _ _).1 divided)
      | any => cases heq
    · cases hpart with
      | conjunct hmem =>
        obtain ⟨part, hpart, rfl⟩ := List.mem_map.1 hmem
        exact ih part hpart ((not_divided_of_mem_split hpart).2 _ whole) hoccurs
  | any isOpen undivided divided hparts ih =>
    rw [Expr.occurs_iff_part]
    rintro (heq | ⟨part, hoccurs, hpart⟩)
    · cases k with
      | all => cases heq
      | any => exact whole ((two_le_split_iff _ _).1 divided)
    · cases hpart with
      | disjunct hmem =>
        obtain ⟨part, hpart, rfl⟩ := List.mem_map.1 hmem
        exact ih part hpart ((not_divided_of_mem_split hpart).2 _ whole) hoccurs
  | leaf isOpen undivided undivided' => exact k.absent_of_isAtom (Expr.isAtom_leaf _ _) parts

/-! ## Layers -/

/-- The layers of a condition: disjunctions may stand in conjunctions, and nothing else of the two in either of them,
whatever negations come between; and each has two parts or more. -/
structure Stratified (e : Expr) : Prop where
  all : ∀ parts, (Expr.all parts).Occurs e →
    2 ≤ parts.length ∧ ∀ parts', ¬ (Expr.all parts').IsBelow (.all parts)
  any : ∀ parts, (Expr.any parts).Occurs e →
    2 ≤ parts.length ∧ (∀ parts', ¬ (Expr.all parts').IsBelow (.any parts)) ∧
      ∀ parts', ¬ (Expr.any parts').IsBelow (.any parts)

/-- A condition has layers if its parts have them and hold, under a conjunction, no other one, and under a disjunction
neither. -/
theorem stratified_of_parts (hparts : ∀ part, part.IsPart e → Stratified part)
    (hall : ∀ parts, .all parts = e → 2 ≤ parts.length ∧
      ∀ part ∈ parts, ∀ parts', ¬ (Expr.all parts').Occurs part)
    (hany : ∀ parts, .any parts = e → 2 ≤ parts.length ∧
      ∀ part ∈ parts, ∀ (k : Connective) parts', ¬ (k.node parts').Occurs part) : Stratified e := by
  constructor
  · intro parts hoccurs
    rcases Expr.occurs_iff_part.1 hoccurs with heq | ⟨part, hoccurs, hpart⟩
    · obtain ⟨htwo, habsent⟩ := hall parts heq
      refine ⟨htwo, fun parts' hbelow => ?_⟩
      obtain ⟨part, hoccurs, hpart⟩ := Expr.isBelow_iff.1 hbelow
      cases hpart with
      | conjunct hmem => exact habsent part hmem parts' hoccurs
    · exact (hparts part hpart).all parts hoccurs
  · intro parts hoccurs
    rcases Expr.occurs_iff_part.1 hoccurs with heq | ⟨part, hoccurs, hpart⟩
    · obtain ⟨htwo, habsent⟩ := hany parts heq
      have hbelow : ∀ (k : Connective) parts', ¬ (k.node parts').IsBelow (.any parts) := by
        intro k parts' hbelow
        obtain ⟨part, hoccurs, hpart⟩ := Expr.isBelow_iff.1 hbelow
        cases hpart with
        | disjunct hmem => exact habsent part hmem k parts' hoccurs
      exact ⟨htwo, hbelow .all, hbelow .any⟩
    · exact (hparts part hpart).any parts hoccurs

theorem stratified_of_isAtom (h : e.IsAtom) : Stratified e where
  all parts hoccurs := (Connective.all.absent_of_isAtom h parts hoccurs).elim
  any parts hoccurs := (Connective.any.absent_of_isAtom h parts hoccurs).elim

/-- What is read has layers. -/
theorem Reads.stratified (h : Reads cs e) : Stratified e := by
  induction h with
  | isTrue h | isFalse h => exact stratified_of_isAtom trivial
  | not h operand ih =>
    refine stratified_of_parts (fun part hpart => ?_) (fun parts heq => ?_) fun parts heq => ?_
    · cases hpart
      exact ih
    · cases heq
    · cases heq
  | all isOpen divided hparts ih =>
    refine stratified_of_parts (fun part hpart => ?_) (fun parts heq => ?_) fun parts heq => ?_
    · cases hpart with
      | conjunct hmem =>
        obtain ⟨part, hpart, rfl⟩ := List.mem_map.1 hmem
        exact ih part hpart
    · cases heq
      rw [List.length_map]
      refine ⟨divided, fun part hmem parts' => ?_⟩
      obtain ⟨part, hpart, rfl⟩ := List.mem_map.1 hmem
      exact (hparts part hpart).absent .all (not_divided_of_mem_split hpart).1 parts'
    · cases heq
  | any isOpen undivided divided hparts ih =>
    refine stratified_of_parts (fun part hpart => ?_) (fun parts heq => ?_) fun parts heq => ?_
    · cases hpart with
      | disjunct hmem =>
        obtain ⟨part, hpart, rfl⟩ := List.mem_map.1 hmem
        exact ih part hpart
    · cases heq
    · cases heq
      rw [List.length_map]
      refine ⟨divided, fun part hmem k parts' => ?_⟩
      obtain ⟨part, hpart, rfl⟩ := List.mem_map.1 hmem
      have hsplit := not_divided_of_mem_split hpart
      cases k with
      | all => exact (hparts part hpart).absent .all (hsplit.2 _ (mt (two_le_split_iff _ _).2 undivided)) parts'
      | any => exact (hparts part hpart).absent .any hsplit.1 parts'
  | leaf isOpen undivided undivided' => exact stratified_of_isAtom (Expr.isAtom_leaf _ _)

/-- **Reading a condition comes to an end, and what is read has layers.** For every text there is a finite derivation by
the rules, and of one condition only. In it each conjunction and each disjunction has two parts or more; no conjunction
stands below a conjunction or a disjunction and no disjunction below a disjunction, at any depth and through
negations. -/
theorem parse_stratified (text : String) :
    (∀ e, Reads text.toList e ↔ parse text = e) ∧ Stratified (parse text) := by
  have hreads := reads_parse text.toList
  rw [String.ofList_toList] at hreads
  refine ⟨fun e => ?_, hreads.stratified⟩
  rw [reads_iff, String.ofList_toList]

/-- A negation takes in all that follows it in its part: here a disjunction, which stands below a conjunction. -/
example : parse "a && !b || c" = .all [.truthy "a", .not (.any [.truthy "b", .truthy "c"])] := by
  rfl

end Runbook.Condition
