import Runbook.Condition.Eval
import Runbook.Proofs.Condition.Split

/-!
# Conditions are read part by part

* `parse_eq` — how a condition is read, without a bound on its depth.
* `Joinable.parse_all`, `Joinable.parse_any` and `parse_not` — a condition that is put together of others is read
  as it was put together.
* `evalAll_map` and `evalAny_map` — its value comes from the values of its parts.
-/

namespace Runbook.Condition

variable {fuel fuel' : Nat} {cs ds : List Char} {text op : String} {parts : List String}

/-! ## One level at a time -/

/-- Reads a text that is neither a constant nor a negation; `read` reads its parts. -/
def parseParts (read : List Char → Expr) (cs : List Char) : Expr :=
  if 2 ≤ (split "&&" cs).length then .all ((split "&&" cs).map read)
  else if 2 ≤ (split "||" cs).length then .any ((split "||" cs).map read)
  else (comparison? cs).getD (.truthy (String.ofList cs))

/-- Reads a trimmed text; `read` reads what is left of it below the outermost operator. -/
def parseLevel (read : List Char → Expr) (cs : List Char) : Expr :=
  if lower cs = "true".toList then .constant true
  else if lower cs = "false".toList then .constant false
  else match cs with
    | '!' :: rest => .not (read rest)
    | cs => parseParts read cs

theorem parseFrom_succ (fuel : Nat) (cs : List Char) :
    parseFrom (fuel + 1) cs = parseLevel (parseFrom fuel) (Text.trimChars cs) := by
  rfl

/-- What is left below the outermost operator is shorter than the text. -/
theorem parseLevel_congr {read read' : List Char → Expr}
    (h : ∀ part : List Char, part.length < cs.length → read part = read' part) :
    parseLevel read cs = parseLevel read' cs := by
  have hparts : ∀ op, 2 ≤ (split op cs).length → (split op cs).map read = (split op cs).map read' :=
    fun op htwo => List.map_congr_left fun part hpart => h part (length_lt_of_mem_split hpart htwo)
  unfold parseLevel
  congr 2
  split
  · rw [h _ (Nat.lt_succ_self _)]
  · unfold parseParts
    by_cases hall : 2 ≤ (split "&&" cs).length
    · rw [if_pos hall, if_pos hall, hparts _ hall]
    rw [if_neg hall, if_neg hall]
    by_cases hany : 2 ≤ (split "||" cs).length
    · rw [if_pos hany, if_pos hany, hparts _ hany]
    · rw [if_neg hany, if_neg hany]

/-- Blanks at the ends do not matter, nor does the bound if it is beyond the length. -/
theorem parseFrom_congr (h : Text.trimChars cs = Text.trimChars ds)
    (hfuel : (Text.trimChars cs).length < fuel) (hfuel' : (Text.trimChars cs).length < fuel') :
    parseFrom fuel cs = parseFrom fuel' ds := by
  induction fuel generalizing fuel' cs ds with
  | zero => omega
  | succ fuel ih =>
    obtain ⟨fuel', rfl⟩ : ∃ n, fuel' = n + 1 := ⟨fuel' - 1, by omega⟩
    rw [parseFrom_succ, parseFrom_succ, ← h]
    refine parseLevel_congr fun part hpart => ?_
    have htrim := Text.length_trimChars_le part
    exact ih rfl (by omega) (by omega)

/-- How a condition is read, without a bound on its depth. -/
theorem parse_eq (text : String) : parse text =
    parseLevel (fun part => parse (String.ofList part)) (Text.trimChars text.toList) := by
  have htrim := Text.length_trimChars_le text.toList
  rw [String.length_toList] at htrim
  conv_lhs => rw [parse, parseFrom_succ]
  refine parseLevel_congr fun part hpart => ?_
  have hpartTrim := Text.length_trimChars_le part
  rw [parse, String.toList_ofList, String.length_ofList]
  exact parseFrom_congr rfl (by omega) (by omega)

theorem parse_congr {text' : String} (h : Text.trimChars text.toList = Text.trimChars text'.toList) :
    parse text = parse text' := by
  rw [parse_eq, h, ← parse_eq]

/-- A leading `!` negates all that follows. -/
theorem parse_not (text : String) : parse ("!" ++ text) = .not (parse text) := by
  have htrim : Text.trimChars ("!" ++ text).toList =
      '!' :: Text.dropEndWhile Text.isBlank text.toList := by
    rw [String.toList_append]
    exact Text.trimChars_cons (by decide)
  have hrest : parse (String.ofList (Text.dropEndWhile Text.isBlank text.toList)) = parse text :=
    parse_congr (by rw [String.toList_ofList, Text.trimChars_dropEndWhile])
  rw [parse_eq, htrim, ← hrest]
  rfl

/-- No constant has a blank in it. -/
theorem lower_ne (h : ' ' ∈ cs) : lower cs ≠ "true".toList ∧ lower cs ≠ "false".toList := by
  have hmem : ' ' ∈ lower cs := List.mem_map.2 ⟨' ', h, by decide⟩
  constructor <;> intro hlower <;> rw [hlower] at hmem <;> revert hmem <;> decide

/-- A text with a blank in it is never a constant, and a negation only if it begins with `!`. -/
theorem parse_of_head? (htrim : Text.trimChars cs = cs) (hblank : ' ' ∈ cs) (hfirst : cs.head? ≠ some '!') :
    parse (String.ofList cs) = parseParts (fun part => parse (String.ofList part)) cs := by
  rw [parse_eq, String.toList_ofList, htrim, parseLevel, if_neg (lower_ne hblank).1,
    if_neg (lower_ne hblank).2]
  rintro rest rfl
  exact hfirst rfl

/-! ## Parts in a row -/

/-- Two conditions or more that can be joined: each of them is a part of its own, none has `&&` at its top
level, and the first does not begin with `!`, which would negate all of them. -/
structure Joinable (parts : List String) : Prop where
  two : 2 ≤ parts.length
  isPart : ∀ part ∈ parts, IsPart part.toList
  free : ∀ part ∈ parts, Free "&&" part.toList
  first : ∀ part ∈ parts.head?, part.toList.head? ≠ some '!'

namespace Joinable

variable {sep : String}

theorem forall_isPart (h : Joinable parts) : ∀ part ∈ parts.map String.toList, IsPart part := by
  simpa using h.isPart

theorem ne_nil (h : Joinable parts) : parts.map String.toList ≠ [] := by
  intro hnil
  have htwo := h.two
  rw [List.map_eq_nil_iff.1 hnil] at htwo
  cases htwo

/-- Joined, conditions are neither a constant nor a negation. -/
theorem parse_eq (h : Joinable parts) (hsep : sep.toList = spaced op) {cs : List Char}
    (hcs : cs = (spaced op).intercalate (parts.map String.toList)) :
    parse (sep.intercalate parts) = parseParts (fun part => parse (String.ofList part)) cs := by
  have htext : sep.intercalate parts = String.ofList cs := by
    rw [← String.toList_inj, String.toList_intercalate, hsep, String.toList_ofList, hcs]
  rw [htext]
  obtain ⟨first, second, rest, rfl⟩ : ∃ first second rest, parts = first :: second :: rest := by
    match parts, h.two with
    | first :: second :: rest, _ => exact ⟨first, second, rest, rfl⟩
  have hjoin : cs = first.toList ++ spaced op ++
      (spaced op).intercalate (second.toList :: rest.map String.toList) := by
    rw [hcs, List.map_cons, List.map_cons, List.intercalate_cons_cons]
  refine parse_of_head? (hcs ▸ trimChars_intercalate _ h.forall_isPart) ?_ ?_
  · rw [hjoin]
    simp [spaced]
  · have hne := (h.isPart first List.mem_cons_self).nonempty
    rw [hjoin, List.append_assoc, List.head?_append_of_ne_nil _ hne]
    exact h.first first rfl

theorem split_eq (h : Joinable parts) (hop : IsSymbol op) (hfree : ∀ part ∈ parts, Free op part.toList) :
    split op ((spaced op).intercalate (parts.map String.toList)) = parts.map String.toList :=
  split_intercalate hop h.ne_nil h.forall_isPart (by simpa using hfree)

/-- Conditions joined with `&&` must all hold. -/
theorem parse_all (h : Joinable parts) : parse (" && ".intercalate parts) = .all (parts.map parse) := by
  rw [h.parse_eq (by decide : " && ".toList = spaced "&&") rfl, parseParts,
    h.split_eq (by decide) h.free, List.length_map, if_pos h.two, List.map_map]
  simp [Function.comp_def]

/-- Of conditions joined with `||` one must hold, if `||` stands at the top level of none. -/
theorem parse_any (h : Joinable parts) (hfree : ∀ part ∈ parts, Free "||" part.toList) :
    parse (" || ".intercalate parts) = .any (parts.map parse) := by
  have hop : IsSymbol "||" := by decide
  have hne : (spaced "||").intercalate (parts.map String.toList) ≠ [] := by
    intro hnil
    have hsplit := h.split_eq hop hfree
    rw [hnil] at hsplit
    exact h.ne_nil hsplit.symm
  -- without `&&` in any part the whole has none, so it is not split at `&&`
  have hall := split_eq_singleton hne (trimChars_intercalate _ h.forall_isPart)
    (free_intercalate hop (by decide : "&&" ≠ "||") h.forall_isPart (by simpa using h.free))
  rw [h.parse_eq (by decide : " || ".toList = spaced "||") rfl, parseParts, hall,
    if_neg (by simp), h.split_eq hop hfree, List.length_map, if_pos h.two, List.map_map]
  simp [Function.comp_def]

end Joinable

/-! ## Values -/

section Values

variable {α : Type} {read : α → Expr} {value : α → Bool} {xs : List α}

theorem evalAll_map (h : ∀ x ∈ xs, (read x).eval = .ok (value x)) :
    evalAll (xs.map read) = .ok (xs.all value) := by
  induction xs with
  | nil => rfl
  | cons x xs ih =>
    rw [List.forall_mem_cons] at h
    rw [List.map_cons, evalAll, h.1, List.all_cons]
    cases value x
    · rfl
    · exact ih h.2

theorem evalAny_map (h : ∀ x ∈ xs, (read x).eval = .ok (value x)) :
    evalAny (xs.map read) = .ok (xs.any value) := by
  induction xs with
  | nil => rfl
  | cons x xs ih =>
    rw [List.forall_mem_cons] at h
    rw [List.map_cons, evalAny, h.1, List.any_cons]
    cases value x
    · exact ih h.2
    · rfl

end Values

/-- A condition that is put together of others is read as it was put together, and if its parts have values,
its value is their conjunction, their disjunction or the negation. -/
theorem parse_composed :
    (∀ parts, Joinable parts →
      parse (" && ".intercalate parts) = .all (parts.map parse) ∧
      ((∀ part ∈ parts, Free "||" part.toList) →
        parse (" || ".intercalate parts) = .any (parts.map parse))) ∧
    (∀ text, parse ("!" ++ text) = .not (parse text)) ∧
    ∀ value : String → Bool,
      (∀ parts, Joinable parts → (∀ part ∈ parts, (parse part).eval = .ok (value part)) →
        (parse (" && ".intercalate parts)).eval = .ok (parts.all value) ∧
        ((∀ part ∈ parts, Free "||" part.toList) →
          (parse (" || ".intercalate parts)).eval = .ok (parts.any value))) ∧
      ∀ text, (parse text).eval = .ok (value text) → (parse ("!" ++ text)).eval = .ok (!value text) := by
  refine ⟨fun parts h => ⟨h.parse_all, h.parse_any⟩, parse_not, fun value => ⟨?_, ?_⟩⟩
  · intro parts h hvalue
    refine ⟨?_, fun hfree => ?_⟩
    · rw [h.parse_all, Expr.eval]
      exact evalAll_map hvalue
    · rw [h.parse_any hfree, Expr.eval]
      exact evalAny_map hvalue
  · intro text hvalue
    rw [parse_not, Expr.eval, hvalue]
    rfl

/-- Neither the operators in a string nor the quotes in it that a backslash stands before take part. -/
theorem parse_composed_quoted :
    Joinable ["\"a \\\" && b\" != \"\"", "'x || y'"] ∧
      (parse "\"a \\\" && b\" != \"\" && 'x || y'").eval = .ok true ∧
      (parse "\"a \\\" && b\" != \"\" || 'x || y'").eval = .ok true ∧
      (parse "!'x || y'").eval = .ok false := by
  have h : Joinable ["\"a \\\" && b\" != \"\"", "'x || y'"] :=
    ⟨by decide, by decide, by decide, by decide⟩
  have hvalue : ∀ part ∈ ["\"a \\\" && b\" != \"\"", "'x || y'"], (parse part).eval = .ok true := by
    simp only [List.forall_mem_cons]
    exact ⟨rfl, rfl, by simp⟩
  obtain ⟨-, -, hvalues⟩ := parse_composed
  obtain ⟨hparts, hnot⟩ := hvalues fun _ => true
  obtain ⟨hall, hany⟩ := hparts _ h hvalue
  have hallText : " && ".intercalate ["\"a \\\" && b\" != \"\"", "'x || y'"] =
      "\"a \\\" && b\" != \"\" && 'x || y'" := by decide
  have hanyText : " || ".intercalate ["\"a \\\" && b\" != \"\"", "'x || y'"] =
      "\"a \\\" && b\" != \"\" || 'x || y'" := by decide
  rw [hallText] at hall
  rw [hanyText] at hany
  exact ⟨h, hall, hany (by decide), hnot "'x || y'" (hvalue _ (by simp))⟩

end Runbook.Condition
