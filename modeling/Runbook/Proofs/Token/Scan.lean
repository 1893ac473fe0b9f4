import Mathlib.Data.List.Infix
import Mathlib.Data.List.TakeWhile
import Mathlib.Order.Basic
import Runbook.Token.Scan

/-!
# Tokens are read as they are written

* `Token.read?_eq_some_iff` — reading accepts exactly what writing a well-formed token produces.
* `Template.Cut` — how a text falls into characters and tokens; `cut_iff` says that there is one way, the one
  that `segments` finds.
* `Template.startsWith_chars_iff` — where the text of a token stands, the token is cut: it never begins
  inside another token, because no token has a `$` after its first character.
* `Template.cut_map` — putting well-formed tokens in the place of tokens moves no cut; so these are the tokens
  of the text that comes out (`Template.tokens_fill`).
-/

namespace Runbook

namespace Token

/-! ## What tokens are made of -/

/-- The characters of a token after its opening. -/
def body (t : Token) : List Char :=
  t.chars.drop 2

theorem chars_eq (t : Token) : t.chars = '$' :: '{' :: t.body := by
  unfold body chars
  split
  · split <;> rfl
  · rfl

theorem chars_ne_nil (t : Token) : t.chars ≠ [] := by
  rw [chars_eq]
  exact List.cons_ne_nil _ _

theorem chars_append (t : Token) (rest : List Char) :
    t.chars ++ rest = '$' :: ('{' :: t.body ++ rest) := by
  rw [chars_eq]
  rfl

theorem length_chars (t : Token) : t.chars.length = t.body.length + 2 := by
  rw [chars_eq]
  rfl

theorem isIdent_eq_true {s : String} :
    isIdent s = true ↔ s.toList ≠ [] ∧ ∀ c ∈ s.toList, isIdentChar c = true := by
  simp [isIdent]

theorem isIdent_ofList {cs : List Char} :
    isIdent (String.ofList cs) = true ↔ cs ≠ [] ∧ ∀ c ∈ cs, isIdentChar c = true := by
  rw [isIdent_eq_true, String.toList_ofList]

theorem isWellFormed_none {id : String} : isWellFormed ⟨id, none⟩ = isIdent id := by
  simp [isWellFormed]

theorem isWellFormed_some {id field : String} :
    isWellFormed ⟨id, some field⟩ = (isIdent id && isIdent field) := by
  simp [isWellFormed]

theorem isIdent_of_isWellFormed {t : Token} (h : t.isWellFormed = true) :
    isIdent t.dataPointId = true := by
  rw [isWellFormed, Bool.and_eq_true] at h
  exact h.1

theorem body_none (id : String) : body ⟨id, none⟩ = id.toList ++ ['}'] := rfl

theorem body_some {id field : String} (h : isIdent field = true) :
    body ⟨id, some field⟩ = id.toList ++ '.' :: (field.toList ++ ['}']) := by
  have hne : field.isEmpty = false := by
    rw [isIdent, Bool.and_eq_true] at h
    simpa using h.1
  simp [body, chars, hne]

/-- The body of a well-formed token ends at its closing brace, and has none before it. -/
theorem body_eq_append {t : Token} (h : t.isWellFormed = true) :
    ∃ inner, t.body = inner ++ ['}'] ∧ ∀ c ∈ inner, isIdentChar c = true ∨ c = '.' := by
  rcases t with ⟨id, none | field⟩
  · rw [isWellFormed_none, isIdent_eq_true] at h
    exact ⟨id.toList, body_none id, fun c hc => .inl (h.2 c hc)⟩
  · rw [isWellFormed_some, Bool.and_eq_true] at h
    refine ⟨id.toList ++ '.' :: field.toList, ?_, fun c hc => ?_⟩
    · rw [body_some h.2]
      simp
    · rw [isIdent_eq_true, isIdent_eq_true] at h
      rcases List.mem_append.1 hc with hc | hc
      · exact .inl (h.1.2 c hc)
      · rcases List.mem_cons.1 hc with hc | hc
        · exact .inr hc
        · exact .inl (h.2.2 c hc)

theorem dollar_notMem_body {t : Token} (h : t.isWellFormed = true) : '$' ∉ t.body := by
  obtain ⟨inner, hbody, hinner⟩ := body_eq_append h
  rw [hbody]
  intro hmem
  rcases List.mem_append.1 hmem with hmem | hmem
  · rcases hinner _ hmem with hc | hc <;> revert hc <;> decide
  · revert hmem
    decide

/-- No token has a `$` after its first character. -/
theorem dollar_notMem_tail {t : Token} (h : t.isWellFormed = true) : '$' ∉ '{' :: t.body := by
  intro hmem
  rcases List.mem_cons.1 hmem with hmem | hmem
  · exact absurd hmem (by decide)
  · exact dollar_notMem_body h hmem

/-! ## Reading what is written -/

/-- Reading an identifier stops at the first character that cannot belong to it. -/
theorem takeWhile_ident {cs : List Char} {c : Char} (h : ∀ a ∈ cs, isIdentChar a = true)
    (hc : isIdentChar c = false) (rest : List Char) :
    (cs ++ c :: rest).takeWhile isIdentChar = cs ∧
      (cs ++ c :: rest).dropWhile isIdentChar = c :: rest := by
  rw [List.takeWhile_append_of_pos h, List.dropWhile_append_of_pos h]
  simp [hc]

theorem readBody?_append {t : Token} (h : t.isWellFormed = true) (rest : List Char) :
    readBody? (t.body ++ rest) = some (t, rest) := by
  rcases t with ⟨id, none | field⟩
  · rw [isWellFormed_none, isIdent_eq_true] at h
    obtain ⟨htake, hdrop⟩ := takeWhile_ident (c := '}') h.2 (by decide) rest
    have hcs : body ⟨id, none⟩ ++ rest = id.toList ++ '}' :: rest := by
      rw [body_none, List.append_assoc]
      rfl
    rw [hcs, readBody?, htake, hdrop]
    simp
    simpa using h.1
  · rw [isWellFormed_some, Bool.and_eq_true] at h
    have hcs : body ⟨id, some field⟩ ++ rest = id.toList ++ '.' :: (field.toList ++ '}' :: rest) := by
      rw [body_some h.2]
      simp
    rw [isIdent_eq_true, isIdent_eq_true] at h
    obtain ⟨htake, hdrop⟩ :=
      takeWhile_ident (c := '.') h.1.2 (by decide) (field.toList ++ '}' :: rest)
    obtain ⟨htake', hdrop'⟩ := takeWhile_ident (c := '}') h.2.2 (by decide) rest
    rw [hcs, readBody?, htake, hdrop]
    simp only [htake', hdrop']
    simp
    exact ⟨by simpa using h.1.1, by simpa using h.2.1⟩

theorem of_readBody? {cs rest : List Char} {t : Token} (h : readBody? cs = some (t, rest)) :
    t.isWellFormed = true ∧ cs = t.body ++ rest := by
  have hid : ∀ c ∈ cs.takeWhile isIdentChar, isIdentChar c = true := fun _ => List.mem_takeWhile_imp
  have hcs := List.takeWhile_append_dropWhile (p := isIdentChar) (l := cs)
  by_cases hne : (cs.takeWhile isIdentChar).isEmpty = true
  · simp [readBody?, hne] at h
  · simp only [readBody?, if_neg hne] at h
    split at h
    · rename_i after hdrop
      cases h
      rw [hdrop] at hcs
      refine ⟨?_, ?_⟩
      · rw [isWellFormed_none, isIdent_ofList]
        exact ⟨by simpa using hne, hid⟩
      · rw [body_none, String.toList_ofList, List.append_assoc]
        exact hcs.symm
    · rename_i after hdrop
      have hfield : ∀ c ∈ after.takeWhile isIdentChar, isIdentChar c = true :=
        fun _ => List.mem_takeWhile_imp
      have hafter := List.takeWhile_append_dropWhile (p := isIdentChar) (l := after)
      by_cases hne' : (after.takeWhile isIdentChar).isEmpty = true
      · simp [hne'] at h
      · simp only [if_neg hne'] at h
        split at h
        · rename_i last hdrop'
          cases h
          rw [hdrop'] at hafter
          rw [hdrop, ← hafter] at hcs
          have hwf : isIdent (String.ofList (after.takeWhile isIdentChar)) = true :=
            isIdent_ofList.2 ⟨by simpa using hne', hfield⟩
          refine ⟨?_, ?_⟩
          · rw [isWellFormed_some, hwf, Bool.and_true, isIdent_ofList]
            exact ⟨by simpa using hne, hid⟩
          · rw [body_some hwf, String.toList_ofList, String.toList_ofList]
            simpa using hcs.symm
        · cases h
    · cases h

/-- **Reading accepts exactly what writing a well-formed token produces.** -/
theorem read?_eq_some_iff {cs rest : List Char} {t : Token} :
    read? cs = some (t, rest) ↔ t.isWellFormed = true ∧ cs = t.chars ++ rest := by
  constructor
  · intro h
    unfold read? at h
    split at h
    · obtain ⟨hwf, hcs⟩ := of_readBody? h
      exact ⟨hwf, by rw [chars_eq, hcs]; rfl⟩
    · cases h
  · rintro ⟨hwf, rfl⟩
    rw [chars_eq]
    exact readBody?_append hwf rest

theorem read?_append {t : Token} (h : t.isWellFormed = true) (rest : List Char) :
    read? (t.chars ++ rest) = some (t, rest) :=
  read?_eq_some_iff.2 ⟨h, rfl⟩

/-- Different tokens are written differently. -/
theorem chars_injective {t u : Token} (ht : t.isWellFormed = true) (hu : u.isWellFormed = true)
    (h : t.chars = u.chars) : t = u := by
  have htu := read?_append ht []
  rw [h, read?_append hu []] at htu
  simpa using htu.symm

theorem write_injective {t u : Token} (ht : t.isWellFormed = true) (hu : u.isWellFormed = true)
    (h : t.write = u.write) : t = u := by
  refine chars_injective ht hu ?_
  rw [← String.toList_ofList (l := t.chars), ← String.toList_ofList (l := u.chars)]
  exact congrArg String.toList h

/-- Tokens with one field that are written the same have the same id, whatever their ids are. -/
theorem write_cancel {id other : String} {field : Option String}
    (h : write ⟨id, field⟩ = write ⟨other, field⟩) : id = other := by
  have hchars := congrArg String.toList h
  rw [write, write, String.toList_ofList, String.toList_ofList] at hchars
  rw [← String.toList_inj]
  cases field with
  | none => simpa [chars] using hchars
  | some field => by_cases hempty : field.isEmpty <;> simpa [chars, hempty] using hchars

end Token

namespace Template

/-! ## Cutting a text -/

/-- Characters and tokens that make up a text. A character stands for itself only where no token starts. -/
inductive Cut : List Char → List Segment → Prop where
  | nil : Cut [] []
  | char {c : Char} {cs : List Char} {segments : List Segment}
      (noToken : Token.read? (c :: cs) = none) (rest : Cut cs segments) :
      Cut (c :: cs) (.char c :: segments)
  | token {t : Token} {cs : List Char} {segments : List Segment} (wellFormed : t.isWellFormed = true)
      (rest : Cut cs segments) : Cut (t.chars ++ cs) (.token t :: segments)

theorem segmentsFrom_append (skipped cs : List Char) :
    segmentsFrom skipped.length (skipped ++ cs) = segments cs := by
  induction skipped with
  | nil => rfl
  | cons c skipped ih => exact ih

theorem segments_cons {c : Char} {cs : List Char} (h : Token.read? (c :: cs) = none) :
    segments (c :: cs) = .char c :: segments cs := by
  rw [segments, segmentsFrom, h]
  rfl

theorem segments_append {t : Token} (h : t.isWellFormed = true) (cs : List Char) :
    segments (t.chars ++ cs) = .token t :: segments cs := by
  have hread := Token.read?_append h cs
  have hlength : t.chars.length - 1 = ('{' :: t.body).length := by
    rw [Token.length_chars]
    rfl
  rw [Token.chars_append] at hread ⊢
  rw [segments, segmentsFrom, hread]
  simp only [hlength]
  rw [segmentsFrom_append]

theorem cut_segments (cs : List Char) : Cut cs (segments cs) := by
  induction h : cs.length using Nat.strong_induction_on generalizing cs with
  | _ n ih =>
    cases cs with
    | nil => exact .nil
    | cons c cs =>
      cases hread : Token.read? (c :: cs) with
      | none =>
        rw [segments_cons hread]
        exact .char hread (ih cs.length (by rw [← h]; simp) cs rfl)
      | some found =>
        obtain ⟨hwf, hcs⟩ := Token.read?_eq_some_iff.1 hread
        rw [hcs, segments_append hwf]
        refine .token hwf (ih _ ?_ _ rfl)
        rw [← h, hcs, List.length_append, Token.length_chars]
        omega

/-- There is one way to cut a text. -/
theorem cut_iff {cs : List Char} {found : List Segment} : Cut cs found ↔ segments cs = found := by
  constructor
  · intro h
    induction h with
    | nil => rfl
    | char noToken _ ih => rw [segments_cons noToken, ih]
    | token wellFormed _ ih => rw [segments_append wellFormed, ih]
  · rintro rfl
    exact cut_segments cs

variable {cs : List Char} {found : List Segment}

theorem Cut.isWellFormed (h : Cut cs found) {t : Token} (ht : Segment.token t ∈ found) :
    t.isWellFormed = true := by
  induction h with
  | nil => cases ht
  | char _ _ ih =>
    rcases List.mem_cons.1 ht with ht | ht
    · cases ht
    · exact ih ht
  | token wellFormed _ ih =>
    rcases List.mem_cons.1 ht with ht | ht
    · cases ht
      exact wellFormed
    · exact ih ht

theorem mem_tokens {t : Token} {text : String} :
    t ∈ tokens text ↔ Segment.token t ∈ segments text.toList := by
  rw [tokens, List.mem_filterMap]
  constructor
  · rintro ⟨segment, hmem, hsegment⟩
    cases segment with
    | char c => cases hsegment
    | token u =>
      obtain rfl : u = t := Option.some.inj hsegment
      exact hmem
  · intro h
    exact ⟨_, h, rfl⟩

/-- The tokens of a text are well-formed. -/
theorem isWellFormed_of_mem {t : Token} {text : String} (h : t ∈ tokens text) :
    t.isWellFormed = true :=
  (cut_segments text.toList).isWellFormed (mem_tokens.1 h)

/-! ## Replacing tokens in a cut text -/

/-- Puts a token in the place of a token. -/
def mapToken (f : Token → Token) : Segment → Segment
  | .char c => .char c
  | .token t => .token (f t)

theorem fillSegments_cons_char (replace : Token → List Char) (c : Char) (rest : List Segment) :
    fillSegments replace (.char c :: rest) = c :: fillSegments replace rest := rfl

theorem fillSegments_cons_token (replace : Token → List Char) (t : Token) (rest : List Segment) :
    fillSegments replace (.token t :: rest) = replace t ++ fillSegments replace rest := rfl

theorem fillSegments_congr {f g : Token → List Char} {rest : List Segment}
    (h : ∀ t, Segment.token t ∈ rest → f t = g t) : fillSegments f rest = fillSegments g rest := by
  induction rest with
  | nil => rfl
  | cons segment rest ih =>
    have hrest := ih fun t ht => h t (List.mem_cons_of_mem _ ht)
    cases segment with
    | char c => rw [fillSegments_cons_char, fillSegments_cons_char, hrest]
    | token t =>
      rw [fillSegments_cons_token, fillSegments_cons_token, hrest, h t List.mem_cons_self]

theorem fill_congr {f g : Token → String} {text : String} (h : ∀ t ∈ tokens text, f t = g t) :
    fill f text = fill g text :=
  congrArg String.ofList <| fillSegments_congr fun t ht =>
    congrArg String.toList (h t (mem_tokens.2 ht))

theorem fillSegments_map (f : Token → Token) (replace : Token → List Char) (rest : List Segment) :
    fillSegments replace (rest.map (mapToken f)) = fillSegments (fun t => replace (f t)) rest := by
  induction rest with
  | nil => rfl
  | cons segment rest ih =>
    cases segment with
    | char c => exact congrArg (c :: ·) ih
    | token t => exact congrArg (replace (f t) ++ ·) ih

/-- A text is what its segments are written as. -/
theorem Cut.fill (h : Cut cs found) : fillSegments Token.chars found = cs := by
  induction h with
  | nil => rfl
  | char _ _ ih => rw [fillSegments_cons_char, ih]
  | token _ _ ih => rw [fillSegments_cons_token, ih]

/-- A text stays as it is if every token is written in its own place. -/
theorem fill_write (text : String) : fill Token.write text = text := by
  have hchars : ∀ t : Token, t.write.toList = t.chars := fun t => by
    rw [Token.write, String.toList_ofList]
  rw [fill, fillSegments_congr fun t _ => hchars t, (cut_segments text.toList).fill, String.ofList_toList]

/-- What starts a text up to its next `$` does not hang on the tokens after it. -/
theorem prefix_fillSegments {f g : Token → Token} {start : List Char} (hstart : '$' ∉ start)
    (rest : List Segment) (h : start <+: fillSegments (fun t => (f t).chars) rest) :
    start <+: fillSegments (fun t => (g t).chars) rest := by
  induction rest generalizing start with
  | nil => exact h
  | cons segment rest ih =>
    cases start with
    | nil => exact List.nil_prefix
    | cons a start =>
      cases segment with
      | char c =>
        rw [fillSegments_cons_char, List.cons_prefix_cons] at h ⊢
        exact ⟨h.1, ih (fun hmem => hstart (List.mem_cons_of_mem _ hmem)) h.2⟩
      | token t =>
        rw [fillSegments_cons_token, Token.chars_eq, List.cons_append, List.cons_prefix_cons] at h
        exact absurd (h.1 ▸ List.mem_cons_self) hstart

/-- Putting well-formed tokens in the place of tokens moves no cut. -/
theorem cut_map {f : Token → Token} (h : Cut cs found)
    (hf : ∀ t, t.isWellFormed = true → (f t).isWellFormed = true) :
    Cut (fillSegments (fun t => (f t).chars) found) (found.map (mapToken f)) := by
  induction h with
  | nil => exact .nil
  | @char c cs segments noToken rest ih =>
    refine .char ?_ ih
    -- a token that starts here now would have started here before
    rw [Option.eq_none_iff_forall_not_mem]
    rintro ⟨t, after⟩ hread
    obtain ⟨hwf, hcs⟩ := Token.read?_eq_some_iff.1 hread
    rw [Token.chars_eq, List.cons_append, List.cons.injEq] at hcs
    obtain ⟨rfl, hcs⟩ := hcs
    obtain ⟨before, hbefore⟩ :=
      prefix_fillSegments (g := id) (Token.dollar_notMem_tail hwf) segments (hcs ▸ List.prefix_append _ _)
    have hsame : fillSegments (fun t => (id t : Token).chars) segments = cs := rest.fill
    rw [hsame] at hbefore
    rw [← hbefore, ← List.cons_append, ← Token.chars_eq, Token.read?_append hwf] at noToken
    cases noToken
  | token wellFormed rest ih => exact .token (hf _ wellFormed) ih

/-- The tokens that are put in are the tokens of the text that comes out. -/
theorem tokens_fill {f : Token → Token}
    (hf : ∀ t, t.isWellFormed = true → (f t).isWellFormed = true) (text : String) :
    tokens (fill (fun t => (f t).write) text) = (tokens text).map f := by
  have hcut := cut_map (cut_segments text.toList) hf
  have hfill : (fill (fun t => (f t).write) text).toList =
      fillSegments (fun t => (f t).chars) (segments text.toList) := by
    simp only [fill, Token.write, String.toList_ofList]
  rw [tokens, hfill, cut_iff.1 hcut, List.filterMap_map, tokens, List.map_filterMap]
  refine List.filterMap_congr fun segment _ => ?_
  cases segment <;> rfl

/-- A text without tokens has nothing to fill. -/
theorem fill_of_tokens_eq_nil {replace : Token → String} {text : String} (h : tokens text = []) :
    fill replace text = text := by
  have hsame : fill replace text = fill Token.write text := fill_congr fun t ht => by
    rw [h] at ht
    cases ht
  rw [hsame, fill_write]

/-! ## A single token -/

theorem segments_append_of_notMem {start : List Char} (h : '$' ∉ start) (cs : List Char) :
    segments (start ++ cs) = start.map Segment.char ++ segments cs := by
  induction start with
  | nil => rfl
  | cons c start ih =>
    rw [List.mem_cons, not_or] at h
    have hread : Token.read? (c :: (start ++ cs)) = none := by
      unfold Token.read?
      split
      · rename_i heq
        exact absurd (List.cons.inj heq).1.symm h.1
      · rfl
    rw [List.cons_append, segments_cons hread, ih h.2]
    rfl

theorem fillSegments_map_char (replace : Token → List Char) (cs : List Char) (rest : List Segment) :
    fillSegments replace (cs.map Segment.char ++ rest) = cs ++ fillSegments replace rest := by
  induction cs with
  | nil => rfl
  | cons c cs ih => exact congrArg (c :: ·) ih

variable {before after : String} {t : Token}

theorem segments_single (hbefore : '$' ∉ before.toList) (hafter : '$' ∉ after.toList)
    (ht : t.isWellFormed = true) : segments (before ++ t.write ++ after).toList =
      before.toList.map Segment.char ++ .token t :: after.toList.map Segment.char := by
  have hafterSegments := segments_append_of_notMem hafter []
  rw [List.append_nil] at hafterSegments
  rw [String.toList_append, String.toList_append, Token.write, String.toList_ofList, List.append_assoc,
    segments_append_of_notMem hbefore, segments_append ht, hafterSegments]
  simp [segments, segmentsFrom]

theorem tokens_single (hbefore : '$' ∉ before.toList) (hafter : '$' ∉ after.toList)
    (ht : t.isWellFormed = true) : tokens (before ++ t.write ++ after) = [t] := by
  rw [tokens, segments_single hbefore hafter ht]
  simp [List.filterMap_append, List.filterMap_map, Function.comp_def, token?]

theorem fill_single (replace : Token → String) (hbefore : '$' ∉ before.toList)
    (hafter : '$' ∉ after.toList) (ht : t.isWellFormed = true) :
    fill replace (before ++ t.write ++ after) = before ++ replace t ++ after := by
  have hafterFill := fillSegments_map_char (fun t => (replace t).toList) after.toList []
  rw [List.append_nil] at hafterFill
  rw [fill, segments_single hbefore hafter ht, fillSegments_map_char, fillSegments_cons_token,
    hafterFill, ← String.toList_inj]
  simp [fillSegments]

/-- Where the text of a token stands, the token is cut. -/
theorem startsWith_chars_iff {t : Token} (ht : t.isWellFormed = true) (h : Cut cs found) :
    t.chars <+: cs ↔ ∃ rest, found = .token t :: rest := by
  constructor
  · rintro ⟨after, rfl⟩
    rw [cut_iff, segments_append ht] at h
    exact ⟨_, h.symm⟩
  · rintro ⟨rest, rfl⟩
    cases h with
    | token _ _ => exact List.prefix_append _ _

end Template

end Runbook
