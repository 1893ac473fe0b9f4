import Runbook.Proofs.Json.Numeral

/-!
# Renderings are read

`Reads cs json` holds of characters that are read as a value, whatever follows. How the characters of a list or
a record are read follows from how those of its parts are, and the space between them does not count
(`reads_list`, `reads_record`).

`Renders literal cs part` says which characters render a value: any space between the parts, any numeral for a
number, and `literal` for strings and the names of members. Where literals are read, renderings are
(`Renders.reads`, `read_of_renders`).
-/

namespace Runbook.Json

/-! ## Space -/

/-- Nothing but space. -/
def IsGap (gap : List Char) : Prop :=
  ∀ c ∈ gap, isSpace c = true

/-- The start of a value: neither space nor the end of a list or a record. -/
def Opens (cs : List Char) : Prop :=
  ∃ c ds, cs = c :: ds ∧ isSpace c = false ∧ c ≠ ']' ∧ c ≠ '}'

variable {gap cs ds rest : List Char} {fuel : Nat}

theorem skipSpace_gap (h : IsGap gap) (cs : List Char) : skipSpace (gap ++ cs) = skipSpace cs :=
  List.dropWhile_append_of_pos h

theorem isGap_nil : IsGap [] :=
  fun _ h => absurd h List.not_mem_nil

theorem isGap_blank : IsGap [' '] := by
  simp [IsGap, isSpace]

theorem skipSpace_cons {c : Char} (h : isSpace c = false) : skipSpace (c :: cs) = c :: cs :=
  List.dropWhile_cons_of_neg (by simp [h])

theorem Opens.skipSpace_eq (h : Opens cs) : skipSpace cs = cs := by
  obtain ⟨c, ds, rfl, hc, -⟩ := h
  exact skipSpace_cons hc

/-- Space before a character that is none. -/
theorem skipSpace_gap_cons {c : Char} (h : IsGap gap) (hc : isSpace c = false) (cs : List Char) :
    skipSpace (gap ++ c :: cs) = c :: cs := by
  rw [skipSpace_gap h, skipSpace_cons hc]

theorem skipSpace_gap_opens (h : IsGap gap) (hcs : Opens cs) : skipSpace (gap ++ cs) = cs := by
  rw [skipSpace_gap h, hcs.skipSpace_eq]

theorem endsNumber_nil : EndsNumber [] := by
  simp [EndsNumber]

theorem endsNumber_cons {c : Char} (h : Decimal.isDigit c = false ∧ c ≠ '.' ∧ c ≠ 'e' ∧ c ≠ 'E') :
    EndsNumber (c :: rest) := by
  simpa [EndsNumber] using h

theorem endsNumber_of_isSpace {c : Char} (h : isSpace c = true) : EndsNumber (c :: rest) := by
  simp only [isSpace, Bool.or_eq_true, beq_iff_eq] at h
  refine endsNumber_cons ?_
  obtain ((rfl | rfl) | rfl) | rfl := h <;> decide

theorem endsNumber_gap (hgap : IsGap gap) (h : EndsNumber rest) : EndsNumber (gap ++ rest) := by
  cases gap with
  | nil => exact h
  | cons c gap => exact endsNumber_of_isSpace (hgap c List.mem_cons_self)

theorem endsNumber_of_isGap (h : IsGap gap) : EndsNumber gap := by
  simpa using endsNumber_gap h endsNumber_nil

/-! ## What is read of characters, whatever follows -/

/-- Are the characters read as a value? -/
def Reads (cs : List Char) (json : Json) : Prop :=
  ∀ ⦃fuel : Nat⦄ ⦃rest : List Char⦄, EndsNumber rest → 2 * cs.length ≤ fuel →
    value fuel (cs ++ rest) = .ok (json, rest)

/-- Are the characters read as the items of a list, with its end? -/
def ReadsItems (cs : List Char) (items : List Json) : Prop :=
  ∀ ⦃fuel : Nat⦄ ⦃rest : List Char⦄, 2 * cs.length ≤ fuel → elements fuel (cs ++ rest) = .ok (items, rest)

/-- Are the characters read as the members of a record, with its end? -/
def ReadsFields (cs : List Char) (fields : Fields) : Prop :=
  ∀ ⦃fuel : Nat⦄ ⦃rest : List Char⦄, 2 * cs.length ≤ fuel → members fuel (cs ++ rest) = .ok (fields, rest)

variable {json item : Json} {items : List Json} {fields : Fields}

/-- What is read as a value starts like one. -/
theorem opens_of_value {r : Json × List Char} (h : value fuel cs = .ok r) : Opens cs := by
  cases fuel with
  | zero => cases h
  | succ fuel =>
    cases cs with
    | nil => cases h
    | cons c ds =>
      refine ⟨c, ds, rfl, ?_, ?_, ?_⟩
      · rw [← Bool.not_eq_true]
        intro hspace
        simp only [isSpace, Bool.or_eq_true, beq_iff_eq] at hspace
        obtain ((rfl | rfl) | rfl) | rfl := hspace <;> cases h
      · rintro rfl
        cases h
      · rintro rfl
        cases h

theorem opens_of_elements {r : List Json × List Char} (h : elements fuel cs = .ok r) : Opens cs := by
  cases fuel with
  | zero => cases h
  | succ fuel =>
    rw [elements] at h
    split at h
    · cases h
    · rename_i hvalue
      exact opens_of_value hvalue

theorem opens_of_members {r : List (String × Json) × List Char} (h : members fuel cs = .ok r) : Opens cs := by
  cases fuel with
  | zero => cases h
  | succ fuel =>
    unfold members at h
    split at h
    · exact ⟨'"', _, rfl, rfl, by decide, by decide⟩
    · cases h

/-- Are the characters read as a string? -/
def ReadsString (cs : List Char) (text : String) : Prop :=
  ∃ body, cs = '"' :: body ∧ ∀ rest, string (body ++ rest) = .ok (text, rest)

theorem reads_string {text : String} (h : ReadsString cs text) : Reads cs (.str text) := by
  obtain ⟨body, rfl, hbody⟩ := h
  intro fuel rest _ hfuel
  obtain ⟨fuel, rfl⟩ : ∃ f, fuel = f + 1 := ⟨fuel - 1, by simp at hfuel; omega⟩
  rw [List.cons_append, value, hbody]
  rfl

/-! ## Lists -/

theorem reads_emptyList (hgap : IsGap gap) : Reads ('[' :: (gap ++ [']'])) (.list []) := by
  intro fuel rest _ hfuel
  obtain ⟨fuel, rfl⟩ : ∃ f, fuel = f + 1 := ⟨fuel - 1, by simp at hfuel; omega⟩
  have hskip : skipSpace (gap ++ [']'] ++ rest) = ']' :: rest := by
    rw [List.append_assoc, List.singleton_append, skipSpace_gap_cons hgap rfl]
  rw [List.cons_append, value, hskip]
  rfl

theorem reads_list (hgap : IsGap gap) (h : ReadsItems cs items) : Reads ('[' :: (gap ++ cs)) (.list items) := by
  intro fuel rest _ hfuel
  simp only [List.length_cons, List.length_append] at hfuel
  obtain ⟨fuel, rfl⟩ : ∃ f, fuel = f + 1 := ⟨fuel - 1, by omega⟩
  have hitems : elements fuel (cs ++ rest) = .ok (items, rest) := h (by omega)
  have hopens := opens_of_elements hitems
  have hskip : skipSpace (gap ++ cs ++ rest) = cs ++ rest := by
    rw [List.append_assoc, skipSpace_gap_opens hgap hopens]
  obtain ⟨c, ds, hcons, -, hc, -⟩ := hopens
  rw [List.cons_append, value, hskip]
  split
  · rename_i hclose
    exact absurd (List.cons.inj (hcons ▸ hclose)).1 hc
  · rw [hitems]
    rfl

variable {before after : List Char}

theorem readsItems_last (hgap : IsGap gap) (h : Reads cs item) : ReadsItems (cs ++ (gap ++ [']'])) [item] := by
  intro fuel rest hfuel
  simp only [List.length_append, List.length_singleton] at hfuel
  obtain ⟨fuel, rfl⟩ : ∃ f, fuel = f + 1 := ⟨fuel - 1, by omega⟩
  have hends : EndsNumber (gap ++ ']' :: rest) := endsNumber_gap hgap (endsNumber_cons (by decide))
  have hitem : value fuel (cs ++ (gap ++ ']' :: rest)) = .ok (item, gap ++ ']' :: rest) := h hends (by omega)
  have hskip : skipSpace (gap ++ ']' :: rest) = ']' :: rest := skipSpace_gap_cons hgap rfl rest
  simp only [List.append_assoc, List.singleton_append, elements, hitem, hskip]

theorem readsItems_cons (hbefore : IsGap before) (hafter : IsGap after) (h : Reads cs item)
    (hrest : ReadsItems ds items) : ReadsItems (cs ++ (before ++ ',' :: (after ++ ds))) (item :: items) := by
  intro fuel rest hfuel
  simp only [List.length_append, List.length_cons] at hfuel
  obtain ⟨fuel, rfl⟩ : ∃ f, fuel = f + 1 := ⟨fuel - 1, by omega⟩
  have hitems : elements fuel (ds ++ rest) = .ok (items, rest) := hrest (by omega)
  have hitem : value fuel (cs ++ (before ++ ',' :: (after ++ (ds ++ rest)))) =
      .ok (item, before ++ ',' :: (after ++ (ds ++ rest))) :=
    h (endsNumber_gap hbefore (endsNumber_cons (by decide))) (by omega)
  have hcomma : skipSpace (before ++ ',' :: (after ++ (ds ++ rest))) = ',' :: (after ++ (ds ++ rest)) :=
    skipSpace_gap_cons hbefore rfl _
  have hskip : skipSpace (after ++ (ds ++ rest)) = ds ++ rest := skipSpace_gap_opens hafter (opens_of_elements hitems)
  simp only [List.append_assoc, List.cons_append, elements, hitem, hcomma, hskip, hitems, Except.map]

/-! ## Records -/

theorem reads_emptyRecord (hgap : IsGap gap) : Reads ('{' :: (gap ++ ['}'])) (.record []) := by
  intro fuel rest _ hfuel
  obtain ⟨fuel, rfl⟩ : ∃ f, fuel = f + 1 := ⟨fuel - 1, by simp at hfuel; omega⟩
  have hskip : skipSpace (gap ++ ['}'] ++ rest) = '}' :: rest := by
    rw [List.append_assoc, List.singleton_append, skipSpace_gap_cons hgap rfl]
  rw [List.cons_append, value, hskip]
  rfl

theorem reads_record (hgap : IsGap gap) (h : ReadsFields cs fields) :
    Reads ('{' :: (gap ++ cs)) (.record (Fields.ofPairs fields)) := by
  intro fuel rest _ hfuel
  simp only [List.length_cons, List.length_append] at hfuel
  obtain ⟨fuel, rfl⟩ : ∃ f, fuel = f + 1 := ⟨fuel - 1, by omega⟩
  have hfields : members fuel (cs ++ rest) = .ok (fields, rest) := h (by omega)
  have hopens := opens_of_members hfields
  have hskip : skipSpace (gap ++ cs ++ rest) = cs ++ rest := by
    rw [List.append_assoc, skipSpace_gap_opens hgap hopens]
  obtain ⟨c, ds, hcons, -, -, hc⟩ := hopens
  rw [List.cons_append, value, hskip]
  split
  · rename_i hclose
    exact absurd (List.cons.inj (hcons ▸ hclose)).1 hc
  · rw [hfields]
    rfl

variable {key : List Char} {name : String}

theorem readsFields_last (hbefore : IsGap before) (hafter : IsGap after) (hgap : IsGap gap)
    (hkey : ReadsString key name) (h : Reads cs item) :
    ReadsFields (key ++ (before ++ ':' :: (after ++ (cs ++ (gap ++ ['}']))))) [(name, item)] := by
  obtain ⟨body, rfl, hbody⟩ := hkey
  intro fuel rest hfuel
  simp only [List.length_append, List.length_cons] at hfuel
  obtain ⟨fuel, rfl⟩ : ∃ f, fuel = f + 1 := ⟨fuel - 1, by omega⟩
  have hends : EndsNumber (gap ++ '}' :: rest) := endsNumber_gap hgap (endsNumber_cons (by decide))
  have hitem : value fuel (cs ++ (gap ++ '}' :: rest)) = .ok (item, gap ++ '}' :: rest) := h hends (by omega)
  have hcolon : skipSpace (before ++ ':' :: (after ++ (cs ++ (gap ++ '}' :: rest)))) =
      ':' :: (after ++ (cs ++ (gap ++ '}' :: rest))) := skipSpace_gap_cons hbefore rfl _
  have hvalue : skipSpace (after ++ (cs ++ (gap ++ '}' :: rest))) = cs ++ (gap ++ '}' :: rest) :=
    skipSpace_gap_opens hafter (opens_of_value hitem)
  have hskip : skipSpace (gap ++ '}' :: rest) = '}' :: rest := skipSpace_gap_cons hgap rfl rest
  simp only [List.append_assoc, List.cons_append, List.nil_append, members, hbody, hcolon, hvalue, hitem, hskip]

theorem readsFields_cons {next : List Char} (hbefore : IsGap before) (hafter : IsGap after) (hgap : IsGap gap)
    (hnext : IsGap next) (hkey : ReadsString key name) (h : Reads cs item) (hrest : ReadsFields ds fields) :
    ReadsFields (key ++ (before ++ ':' :: (after ++ (cs ++ (gap ++ ',' :: (next ++ ds))))))
      ((name, item) :: fields) := by
  obtain ⟨body, rfl, hbody⟩ := hkey
  intro fuel rest hfuel
  simp only [List.length_append, List.length_cons] at hfuel
  obtain ⟨fuel, rfl⟩ : ∃ f, fuel = f + 1 := ⟨fuel - 1, by omega⟩
  have hfields : members fuel (ds ++ rest) = .ok (fields, rest) := hrest (by omega)
  have hitem : value fuel (cs ++ (gap ++ ',' :: (next ++ (ds ++ rest)))) =
      .ok (item, gap ++ ',' :: (next ++ (ds ++ rest))) :=
    h (endsNumber_gap hgap (endsNumber_cons (by decide))) (by omega)
  have hcolon : skipSpace (before ++ ':' :: (after ++ (cs ++ (gap ++ ',' :: (next ++ (ds ++ rest)))))) =
      ':' :: (after ++ (cs ++ (gap ++ ',' :: (next ++ (ds ++ rest))))) := skipSpace_gap_cons hbefore rfl _
  have hvalue : skipSpace (after ++ (cs ++ (gap ++ ',' :: (next ++ (ds ++ rest))))) =
      cs ++ (gap ++ ',' :: (next ++ (ds ++ rest))) := skipSpace_gap_opens hafter (opens_of_value hitem)
  have hcomma : skipSpace (gap ++ ',' :: (next ++ (ds ++ rest))) = ',' :: (next ++ (ds ++ rest)) :=
    skipSpace_gap_cons hgap rfl _
  have hskip : skipSpace (next ++ (ds ++ rest)) = ds ++ rest := skipSpace_gap_opens hnext (opens_of_members hfields)
  simp only [List.append_assoc, List.cons_append, members, hbody, hcolon, hvalue, hitem, hcomma, hskip, hfields,
    Except.map]

/-! ## Words and numbers -/

/-- The values that have a word. -/
def words : List (String × Json) :=
  [("null", .null), ("true", .bool true), ("false", .bool false), ("NaN", .float (0.0 / 0.0)),
    ("Infinity", .float (1.0 / 0.0)), ("-Infinity", .float (-1.0 / 0.0))]

theorem reads_word {word : String} (h : (word, json) ∈ words) : Reads word.toList json := by
  intro fuel rest _ hfuel
  simp only [words, List.mem_cons, Prod.mk.injEq, List.not_mem_nil, or_false] at h
  obtain ⟨rfl, rfl⟩ | ⟨rfl, rfl⟩ | ⟨rfl, rfl⟩ | ⟨rfl, rfl⟩ | ⟨rfl, rfl⟩ | ⟨rfl, rfl⟩ := h
  all_goals
    obtain ⟨fuel, rfl⟩ : ∃ f, fuel = f + 1 := ⟨fuel - 1, by simp at hfuel; omega⟩
    rfl

/-- What starts with a digit is read as a number. -/
theorem value_digit {d : Char} (h : Decimal.isDigit d = true) (ds : List Char) :
    value (fuel + 1) (d :: ds) = number (d :: ds) := by
  unfold value
  split <;> rename_i heq
  all_goals first
    | rfl
    | exact absurd ((List.cons.inj heq).1 ▸ h) (by decide)

/-- So is what starts with a minus and a digit. -/
theorem value_minus_digit {d : Char} (h : Decimal.isDigit d = true) (ds : List Char) :
    value (fuel + 1) ('-' :: d :: ds) = number ('-' :: d :: ds) := by
  unfold value
  split <;> rename_i heq
  all_goals first
    | rfl
    | exact absurd ((List.cons.inj heq).1) (by decide)
    | exact absurd ((List.cons.inj (List.cons.inj heq).2).1 ▸ h) (by decide)

theorem reads_numeral (n : Numeral) (h : n.Fits) : Reads n.text n.value := by
  intro fuel rest hends hfuel
  obtain ⟨d, ds, hds, hd⟩ := n.exists_digit
  have hnumber := n.number_text h hends
  rw [n.text_append, hds] at hnumber ⊢
  have hlength : 0 < n.text.length := by
    rw [n.text_eq, hds, List.length_append, List.length_append, List.length_cons]
    omega
  obtain ⟨fuel, rfl⟩ : ∃ f, fuel = f + 1 := ⟨fuel - 1, by omega⟩
  cases hnegative : n.negative <;> rw [hnegative] at hnumber
  · exact (value_digit hd _).trans hnumber
  · exact (value_minus_digit hd _).trans hnumber

/-! ## Renderings -/

/-- A value, or what stands between the brackets of a list or the braces of a record. -/
inductive Part where
  | value (json : Json)
  | items (items : List Json)
  | members (fields : List (String × Json))

/-- Do characters render a part? The closing bracket belongs to the items, and the closing brace to the members.
Strings and the names of members are rendered as `literal` says; of two members with one name the later value
counts. -/
inductive Renders (literal : List Char → String → Prop) : List Char → Part → Prop
  | word {word : String} {json : Json} (h : (word, json) ∈ words) : Renders literal word.toList (.value json)
  | numeral (n : Numeral) (h : n.Fits) : Renders literal n.text (.value n.value)
  | str {cs : List Char} {text : String} (h : literal cs text) : Renders literal cs (.value (.str text))
  | emptyList {gap : List Char} (hgap : IsGap gap) : Renders literal ('[' :: (gap ++ [']'])) (.value (.list []))
  | list {gap cs : List Char} {items : List Json} (hgap : IsGap gap) (h : Renders literal cs (.items items)) :
      Renders literal ('[' :: (gap ++ cs)) (.value (.list items))
  | emptyRecord {gap : List Char} (hgap : IsGap gap) :
      Renders literal ('{' :: (gap ++ ['}'])) (.value (.record []))
  | record {gap cs : List Char} {fields : List (String × Json)} (hgap : IsGap gap)
      (h : Renders literal cs (.members fields)) :
      Renders literal ('{' :: (gap ++ cs)) (.value (.record (Fields.ofPairs fields)))
  | lastItem {gap cs : List Char} {item : Json} (hgap : IsGap gap) (h : Renders literal cs (.value item)) :
      Renders literal (cs ++ (gap ++ [']'])) (.items [item])
  | item {before after cs ds : List Char} {item : Json} {items : List Json} (hbefore : IsGap before)
      (hafter : IsGap after) (h : Renders literal cs (.value item)) (hrest : Renders literal ds (.items items)) :
      Renders literal (cs ++ (before ++ ',' :: (after ++ ds))) (.items (item :: items))
  | lastMember {before after gap key cs : List Char} {name : String} {item : Json} (hbefore : IsGap before)
      (hafter : IsGap after) (hgap : IsGap gap) (hkey : literal key name) (h : Renders literal cs (.value item)) :
      Renders literal (key ++ (before ++ ':' :: (after ++ (cs ++ (gap ++ ['}']))))) (.members [(name, item)])
  | member {before after gap next key cs ds : List Char} {name : String} {item : Json}
      {fields : List (String × Json)} (hbefore : IsGap before) (hafter : IsGap after) (hgap : IsGap gap)
      (hnext : IsGap next) (hkey : literal key name) (h : Renders literal cs (.value item))
      (hrest : Renders literal ds (.members fields)) :
      Renders literal (key ++ (before ++ ':' :: (after ++ (cs ++ (gap ++ ',' :: (next ++ ds))))))
        (.members ((name, item) :: fields))

/-- Are the characters read as a part? -/
def ReadsPart (cs : List Char) : Part → Prop
  | .value json => Reads cs json
  | .items items => ReadsItems cs items
  | .members fields => ReadsFields cs fields

variable {literal : List Char → String → Prop} {part : Part}

/-- Where the literals are read, so are renderings. -/
theorem Renders.reads (hliteral : ∀ cs text, literal cs text → ReadsString cs text) (h : Renders literal cs part) :
    ReadsPart cs part := by
  induction h with
  | word h => exact reads_word h
  | numeral n h => exact reads_numeral n h
  | str h => exact reads_string (hliteral _ _ h)
  | emptyList hgap => exact reads_emptyList hgap
  | list hgap _ ih => exact reads_list hgap ih
  | emptyRecord hgap => exact reads_emptyRecord hgap
  | record hgap _ ih => exact reads_record hgap ih
  | lastItem hgap _ ih => exact readsItems_last hgap ih
  | item hbefore hafter _ _ ih ihrest => exact readsItems_cons hbefore hafter ih ihrest
  | lastMember hbefore hafter hgap hkey _ ih =>
    exact readsFields_last hbefore hafter hgap (hliteral _ _ hkey) ih
  | member hbefore hafter hgap hnext hkey _ _ ih ihrest =>
    exact readsFields_cons hbefore hafter hgap hnext (hliteral _ _ hkey) ih ihrest

/-- What is read as a value is read as a whole text, with or without space around it. -/
theorem readChars_of_reads (hbefore : IsGap before) (hafter : IsGap after) (h : Reads cs json) :
    readChars (before ++ (cs ++ after)) = .ok json := by
  have hvalue : value (2 * (before ++ (cs ++ after)).length + 2) (cs ++ after) = .ok (json, after) :=
    h (endsNumber_of_isGap hafter) (by rw [List.length_append, List.length_append]; omega)
  have hopens := opens_of_value hvalue
  have hskip : skipSpace (before ++ (cs ++ after)) = cs ++ after := skipSpace_gap_opens hbefore hopens
  have hrest : skipSpace after = [] := List.dropWhile_eq_nil_iff.2 hafter
  unfold readChars
  split
  · rename_i heq
    rw [heq, skipSpace_cons rfl] at hskip
    rw [← hskip] at hvalue
    cases hvalue
  · rw [hskip, hvalue]
    simp only [bind, Except.bind, hrest]
    rfl

/-- Where the literals are read, every text with a rendering in it, and space around it, is read. -/
theorem read_of_renders (hliteral : ∀ cs text, literal cs text → ReadsString cs text) (hbefore : IsGap before)
    (hafter : IsGap after) (h : Renders literal cs (.value json)) :
    read (String.ofList (before ++ (cs ++ after))) = .ok json := by
  rw [read, String.toList_ofList, readChars_of_reads hbefore hafter (h.reads hliteral)]
  rfl

end Runbook.Json
