import Runbook.Proofs.Text.Blank
import Runbook.Proofs.Token.Scan

/-!
# The grammar of tokens

A token is `${`, an identifier, for a token with a field a dot and another identifier, and `}`. `Token.Spells`
says so on its own, without reading or writing a token.

* `Token.spells_iff` — the grammar has exactly what well-formed tokens are written as.
* `Template.mem_spans_iff` — a span is found exactly where the grammar has a token, wherever in the text that is:
  what is passed over, because no token starts there or because a token was found, holds the start of no other.
* `Token.parse?_eq_some_iff` — a text is read as a token exactly if the grammar has it once it is trimmed.
* `Template.scan_exact` — all of this together.
-/

namespace Runbook

namespace Token

variable {t : Token} {cs : List Char}

/-! ## Identifiers -/

/-- An identifier has letters and digits of ASCII, `_` and `-`, and at least one of them. -/
def IsName (s : String) : Prop :=
  s ≠ "" ∧ ∀ c ∈ s.toList, c.isAlphanum = true ∨ c = '_' ∨ c = '-'

/-- Are the parts of a token identifiers? -/
def IsNamed (t : Token) : Prop :=
  IsName t.dataPointId ∧ ∀ field ∈ t.field, IsName field

theorem isIdentChar_iff {c : Char} :
    isIdentChar c = true ↔ c.isAlphanum = true ∨ c = '_' ∨ c = '-' := by
  have hclasses : c.isAlphanum =
      (decide ('A' ≤ c ∧ c ≤ 'Z') || 'a' ≤ c && c ≤ 'z' || '0' ≤ c && c ≤ '9') := rfl
  rw [hclasses, isIdentChar]
  simp only [Bool.or_eq_true, Bool.and_eq_true, decide_eq_true_eq, beq_iff_eq]
  tauto

theorem isIdent_iff {s : String} : isIdent s = true ↔ IsName s := by
  rw [isIdent_eq_true, IsName, Ne, Ne, String.toList_eq_nil_iff]
  simp only [isIdentChar_iff]

theorem isWellFormed_iff : t.isWellFormed = true ↔ t.IsNamed := by
  rcases t with ⟨id, none | field⟩
  · rw [isWellFormed_none, isIdent_iff]
    simp [IsNamed]
  · rw [isWellFormed_some, Bool.and_eq_true, isIdent_iff, isIdent_iff]
    simp [IsNamed]

/-! ## What the grammar has -/

/-- The grammar: these characters are the token. -/
inductive Spells : List Char → Token → Prop where
  | whole {id : String} (name : IsName id) : Spells ('$' :: '{' :: (id.toList ++ ['}'])) ⟨id, none⟩
  | part {id field : String} (name : IsName id) (fieldName : IsName field) :
      Spells ('$' :: '{' :: (id.toList ++ '.' :: (field.toList ++ ['}']))) ⟨id, some field⟩

/-- The grammar has exactly what well-formed tokens are written as. -/
theorem spells_iff : Spells cs t ↔ t.isWellFormed = true ∧ cs = t.chars := by
  constructor
  · intro h
    cases h with
    | whole name => exact ⟨isWellFormed_none ▸ isIdent_iff.2 name, rfl⟩
    | part name fieldName =>
      rw [isWellFormed_some, chars_eq, body_some (isIdent_iff.2 fieldName), isIdent_iff.2 name,
        isIdent_iff.2 fieldName]
      exact ⟨rfl, rfl⟩
  · rintro ⟨h, rfl⟩
    rcases t with ⟨id, none | field⟩
    · exact .whole (isIdent_iff.1 (isWellFormed_none ▸ h))
    · rw [isWellFormed_some, Bool.and_eq_true] at h
      rw [chars_eq, body_some h.2]
      exact .part (isIdent_iff.1 h.1) (isIdent_iff.1 h.2)

/-- The first character of a token is the only `$` in it. -/
theorem eq_nil_of_chars_eq {before rest : List Char} (ht : t.isWellFormed = true)
    (h : t.chars = before ++ '$' :: rest) : before = [] := by
  cases before with
  | nil => rfl
  | cons c before =>
    rw [chars_eq, List.cons_append, List.cons.injEq] at h
    have hmem : '$' ∈ '{' :: t.body := by
      rw [h.2]
      exact List.mem_append_right _ List.mem_cons_self
    exact absurd hmem (dollar_notMem_tail ht)

/-- In a text that starts with a token, another token stands behind that one: none starts inside it. -/
theorem chars_append_cases {u : Token} {rest before after : List Char} (ht : t.isWellFormed = true)
    (hu : u.isWellFormed = true) (h : t.chars ++ rest = before ++ (u.chars ++ after)) :
    (before = [] ∧ u = t) ∨ ∃ between, before = t.chars ++ between ∧ rest = between ++ (u.chars ++ after) := by
  rcases List.append_eq_append_iff.1 h with ⟨between, hbefore, hrest⟩ | ⟨inner, hchars, hrest⟩
  · exact .inr ⟨between, hbefore, hrest⟩
  · cases inner with
    | nil =>
      rw [List.append_nil] at hchars
      exact .inr ⟨[], by rw [hchars, List.append_nil], hrest.symm⟩
    | cons c inner =>
      simp only [chars_eq u, List.cons_append, List.cons.injEq] at hrest
      rw [← hrest.1] at hchars
      have hbefore : before = [] := eq_nil_of_chars_eq ht hchars
      have hread := read?_append ht rest
      rw [h, hbefore, List.nil_append, read?_append hu] at hread
      exact .inl ⟨hbefore, congrArg Prod.fst (Option.some.inj hread)⟩

/-! ## Reading a text that is one token -/

theorem trimChars_braced (inner : List Char) :
    Text.trimChars ('$' :: '{' :: (inner ++ ['}'])) = '$' :: '{' :: (inner ++ ['}']) :=
  Text.trimChars_append (by decide : Text.trimChars ['$'] = ['$'])
    (by decide : Text.trimChars ['}'] = ['}']) (by simp) (by simp) ('{' :: inner)

/-- No blank stands at the ends of a token. -/
theorem trimChars_chars (h : t.isWellFormed = true) : Text.trimChars t.chars = t.chars := by
  obtain ⟨inner, hinner, -⟩ := body_eq_append h
  rw [chars_eq, hinner, trimChars_braced]

theorem parse?_eq_read? {text : String} :
    parse? text = some t ↔ read? (Text.trim text).toList = some (t, []) := by
  rw [parse?, Text.trim, String.toList_ofList]
  constructor
  · intro h
    split at h
    · rename_i u hread
      rw [hread, Option.some.inj h]
    · cases h
  · intro h
    rw [h]

/-- A text is read as a token exactly if the grammar has it once it is trimmed. -/
theorem parse?_eq_some_iff {text : String} : parse? text = some t ↔ Spells (Text.trim text).toList t := by
  rw [parse?_eq_read?, read?_eq_some_iff, spells_iff, List.append_nil]

/-- What is written for a token is read as that token. -/
theorem parse?_write (h : t.isWellFormed = true) : parse? t.write = some t := by
  rw [parse?_eq_some_iff, spells_iff, Text.trim, write, String.toList_ofList, String.toList_ofList,
    trimChars_chars h]
  exact ⟨h, rfl⟩

end Token

/-- The characters of a text that a span is about. -/
def Span.slice (text : String) (span : Span) : List Char :=
  (text.toList.take span.stop).drop span.start

namespace Template

variable {cs : List Char} {found : List Segment} {position : Nat} {span : Span} {text : String}

/-! ## Where tokens stand -/

/-- A span says where a token stands in a text whose first character has a given position. -/
structure Stands (position : Nat) (cs : List Char) (span : Span) : Prop where
  wellFormed : span.token.isWellFormed = true
  exists_around : ∃ before after, cs = before ++ (span.token.chars ++ after) ∧
    span.start = position + before.length
  stop_eq : span.stop = span.start + span.token.chars.length

theorem stands_shift (before : List Char) (h : Stands (position + before.length) cs span) :
    Stands position (before ++ cs) span := by
  obtain ⟨inner, after, hcs, hstart⟩ := h.exists_around
  refine ⟨h.wellFormed, ⟨before ++ inner, after, ?_, ?_⟩, h.stop_eq⟩
  · rw [hcs, List.append_assoc]
  · rw [hstart, List.length_append, Nat.add_assoc]

theorem mem_spansFrom_iff (h : Cut cs found) :
    span ∈ spansFrom position found ↔ Stands position cs span := by
  induction h generalizing position with
  | nil =>
    refine ⟨fun hmem => absurd hmem List.not_mem_nil, fun hstands => ?_⟩
    obtain ⟨before, after, hcs, -⟩ := hstands.exists_around
    have hnil := List.append_eq_nil_iff.1 hcs.symm
    exact absurd (List.append_eq_nil_iff.1 hnil.2).1 span.token.chars_ne_nil
  | @char c cs segments noToken rest ih =>
    rw [spansFrom, ih]
    constructor
    · exact stands_shift [c]
    · intro hstands
      obtain ⟨before, after, hcs, hstart⟩ := hstands.exists_around
      cases before with
      | nil =>
        -- no token starts at this character
        rw [hcs, List.nil_append, Token.read?_append hstands.wellFormed] at noToken
        cases noToken
      | cons b before =>
        rw [List.cons_append, List.cons.injEq] at hcs
        rw [List.length_cons] at hstart
        exact ⟨hstands.wellFormed, ⟨before, after, hcs.2, by omega⟩, hstands.stop_eq⟩
  | @token t cs segments wellFormed rest ih =>
    rw [spansFrom, List.mem_cons, ih]
    constructor
    · rintro (rfl | hstands)
      · exact ⟨wellFormed, ⟨[], cs, rfl, rfl⟩, rfl⟩
      · exact stands_shift _ hstands
    · intro hstands
      obtain ⟨before, after, hcs, hstart⟩ := hstands.exists_around
      rcases Token.chars_append_cases wellFormed hstands.wellFormed hcs with
        ⟨rfl, htoken⟩ | ⟨between, rfl, hrest⟩
      · have hstop := hstands.stop_eq
        rw [hstart, htoken] at hstop
        rcases span with ⟨start, stop, token⟩
        rw [Span.mk.injEq]
        exact .inl ⟨hstart, hstop, htoken⟩
      · rw [List.length_append] at hstart
        exact .inr ⟨hstands.wellFormed, ⟨between, after, hrest, by omega⟩, hstands.stop_eq⟩

theorem stands_iff : Stands 0 text.toList span ↔
    span.stop ≤ text.length ∧ Token.Spells (span.slice text) span.token := by
  rw [Token.spells_iff, Span.slice, ← String.length_toList]
  constructor
  · rintro ⟨hwf, ⟨before, after, htext, hstart⟩, hstop⟩
    rw [Nat.zero_add] at hstart
    have htake : text.toList.take span.stop = before ++ span.token.chars := by
      rw [htext, ← List.append_assoc, List.take_left' (by rw [List.length_append]; omega)]
    refine ⟨?_, hwf, ?_⟩
    · rw [htext, List.length_append, List.length_append]
      omega
    · rw [htake, List.drop_left' hstart.symm]
  · rintro ⟨hstop, hwf, hslice⟩
    have hlength := congrArg List.length hslice
    rw [List.length_drop, List.length_take, Nat.min_eq_left hstop] at hlength
    have hpos : 0 < span.token.chars.length := List.length_pos_iff.2 span.token.chars_ne_nil
    refine ⟨hwf, ⟨text.toList.take span.start, text.toList.drop span.stop, ?_, ?_⟩, by omega⟩
    · have htake : (text.toList.take span.stop).take span.start = text.toList.take span.start := by
        rw [List.take_take, Nat.min_eq_left (by omega)]
      rw [← hslice, ← List.append_assoc, ← htake, List.take_append_drop, List.take_append_drop]
    · rw [List.length_take, Nat.min_eq_left (by omega), Nat.zero_add]

/-- A span is found exactly where the grammar has a token. -/
theorem mem_spans_iff : span ∈ spans text ↔
    span.stop ≤ text.length ∧ Token.Spells (span.slice text) span.token := by
  rw [spans, mem_spansFrom_iff (cut_segments _), stands_iff]

/-- The spans follow each other and do not overlap. -/
theorem pairwise_spansFrom (h : Cut cs found) :
    (spansFrom position found).Pairwise fun a b => a.stop ≤ b.start := by
  induction h generalizing position with
  | nil => exact .nil
  | char _ _ ih => exact ih
  | token _ rest ih =>
    rw [spansFrom, List.pairwise_cons]
    refine ⟨fun b hb => ?_, ih⟩
    obtain ⟨before, after, -, hstart⟩ := ((mem_spansFrom_iff rest).1 hb).exists_around
    rw [hstart]
    exact Nat.le_add_right _ _

theorem exists_mem_spansFrom (position : Nat) {t : Token} :
    (∃ span ∈ spansFrom position found, span.token = t) ↔ Segment.token t ∈ found := by
  induction found generalizing position with
  | nil => simp [spansFrom]
  | cons segment found ih =>
    cases segment with
    | char c => simp [spansFrom, ih]
    | token u => simp [spansFrom, ih, eq_comm (a := t)]

/-- The tokens of a text are those that stand in it. -/
theorem mem_tokens_iff {t : Token} :
    t ∈ tokens text ↔ t.isWellFormed = true ∧ t.chars <:+: text.toList := by
  have hcut := cut_segments text.toList
  rw [mem_tokens, ← exists_mem_spansFrom 0]
  constructor
  · rintro ⟨span, hmem, rfl⟩
    obtain ⟨hwf, ⟨before, after, htext, -⟩, -⟩ := (mem_spansFrom_iff hcut).1 hmem
    exact ⟨hwf, before, after, by rw [htext, List.append_assoc]⟩
  · rintro ⟨hwf, before, after, htext⟩
    rw [List.append_assoc] at htext
    exact ⟨⟨before.length, before.length + t.chars.length, t⟩,
      (mem_spansFrom_iff hcut).2 ⟨hwf, ⟨before, after, htext.symm, (Nat.zero_add _).symm⟩, rfl⟩, rfl⟩

/-! ## The scanner and the grammar -/

/-- The spans of a text, told by the grammar. -/
structure Scanned (text : String) (found : List Span) : Prop where
  /-- Every part of the text that the grammar has is found, and nothing else. -/
  mem_iff : ∀ span, span ∈ found ↔ span.stop ≤ text.length ∧ Token.Spells (span.slice text) span.token
  /-- The spans come in increasing order and are disjoint. -/
  ordered : found.Pairwise fun a b => a.stop ≤ b.start
  nonempty : ∀ span ∈ found, span.start < span.stop
  /-- What stands in the text is what would be written for the token. -/
  written : ∀ span ∈ found, String.ofList (span.slice text) = span.token.write

theorem scanned_spans (text : String) : Scanned text (spans text) where
  mem_iff _ := mem_spans_iff
  ordered := pairwise_spansFrom (cut_segments _)
  nonempty span h := by
    have hspan := (mem_spansFrom_iff (cut_segments _)).1 h
    have hpos := List.length_pos_iff.2 span.token.chars_ne_nil
    rw [hspan.stop_eq]
    omega
  written span h := by
    obtain ⟨-, hslice⟩ := Token.spells_iff.1 (mem_spans_iff.1 h).2
    rw [hslice, Token.write]

/-- **Scanning accepts exactly the grammar of tokens.** A text is read as a token exactly if it has that form
but for blanks around it; what is read is written as it stood, and what is written is read back. -/
theorem scan_exact (text : String) :
    Scanned text (spans text) ∧
      (∀ t, Token.parse? text = some t ↔ Token.Spells (Text.trim text).toList t) ∧
      (∀ t, Token.parse? text = some t → t.IsNamed ∧ t.write = Text.trim text) ∧
      ∀ t : Token, t.IsNamed → Token.parse? t.write = some t := by
  refine ⟨scanned_spans text, fun t => Token.parse?_eq_some_iff, fun t h => ?_, fun t h => ?_⟩
  · obtain ⟨hwf, hchars⟩ := Token.spells_iff.1 (Token.parse?_eq_some_iff.1 h)
    rw [Token.write, ← hchars, String.ofList_toList]
    exact ⟨Token.isWellFormed_iff.1 hwf, rfl⟩
  · exact Token.parse?_write (Token.isWellFormed_iff.2 h)

/-- A token behind a `$`, one that is not closed, and one that starts in what is left of it. -/
theorem scan_exact_nested :
    let text := "$${a.b-1}$\x7bc ${d} "
    spans text = [⟨1, 9, ⟨"a", some "b-1"⟩⟩, ⟨13, 17, ⟨"d", none⟩⟩] ∧ Scanned text (spans text) ∧
      Token.parse? " ${a.__raw__}" = some ⟨"a", some "__raw__"⟩ ∧
      (Token.mk "a" (some "__raw__")).IsNamed ∧
      Token.write ⟨"a", some "__raw__"⟩ = Text.trim " ${a.__raw__}" ∧
      Token.parse? (Token.write ⟨"a", some "__raw__"⟩) = some ⟨"a", some "__raw__"⟩ := by
  intro text
  have hparse : Token.parse? " ${a.__raw__}" = some ⟨"a", some "__raw__"⟩ := by decide
  obtain ⟨-, -, hwritten, hread⟩ := scan_exact " ${a.__raw__}"
  obtain ⟨hnamed, hwrite⟩ := hwritten _ hparse
  exact ⟨by decide, (scan_exact text).1, hparse, hnamed, hwrite, hread _ hnamed⟩

end Template

end Runbook
