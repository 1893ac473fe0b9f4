import Runbook.Draft.Reading
import Runbook.Proofs.Json.Ascii
import Runbook.Proofs.Json.Oversize
import Runbook.Proofs.Text.Substring

/-!
# The record inside an answer

An answer that wraps a record in a fence, with text before and after it, is no JSON text
(`read_fenced_ne_ok`). The fence is taken out, and what stands between the first opening and the last closing brace
is the record as it was written (`excerpt_fenced`), so it is read back (`read_fenced`): unless a text or a name in
the record holds a fence itself, which is taken out as well (`read_fenced_inner`). Too long an integer in the text
before the fence is refused before the fence is looked for; it is the one other hindrance.
-/

namespace Runbook.Draft

open Json

variable {cs ds rest skipped : List Char} {c : Char}

/-! ## Fences -/

theorem afterFence?_of_ne (h : c ≠ '`') (cs : List Char) : afterFence? (c :: cs) = none := by
  have hstrip : Text.stripPrefix? "```".toList (c :: cs) = none := by
    rw [Option.eq_none_iff_forall_ne_some]
    intro rest hrest
    have heq := Text.stripPrefix?_eq_some_iff.1 hrest
    exact h (List.cons.inj heq).1
  rw [afterFence?, hstrip]
  rfl

theorem dropFencesFrom_cons (h : afterFence? (c :: cs) = none) :
    dropFencesFrom 0 (c :: cs) = c :: dropFencesFrom 0 cs := by
  rw [dropFencesFrom, h]

theorem dropFencesFrom_append (h : ∀ c ∈ cs, c ≠ '`') (rest : List Char) :
    dropFencesFrom 0 (cs ++ rest) = cs ++ dropFencesFrom 0 rest := by
  induction cs with
  | nil => rfl
  | cons c cs ih =>
    rw [List.forall_mem_cons] at h
    rw [List.cons_append, dropFencesFrom_cons (afterFence?_of_ne h.1 _), ih h.2, List.cons_append]

theorem dropFencesFrom_skip (skipped rest : List Char) :
    dropFencesFrom skipped.length (skipped ++ rest) = dropFencesFrom 0 rest := by
  induction skipped with
  | nil => rfl
  | cons c skipped ih => exact ih

/-- A fence is taken out, with what belongs to it. -/
theorem dropFencesFrom_fence (h : afterFence? (c :: (skipped ++ rest)) = some rest) :
    dropFencesFrom 0 (c :: (skipped ++ rest)) = dropFencesFrom 0 rest := by
  rw [dropFencesFrom, h, ← dropFencesFrom_skip skipped rest]
  simp

theorem dropLanguage_suffix (cs : List Char) : dropLanguage cs <:+ cs := by
  unfold dropLanguage
  split
  · rename_i j s o n rest
    split
    · exact ⟨[j, s, o, n], rfl⟩
    · exact List.suffix_refl _
  · exact List.suffix_refl cs

/-- What follows a fence without the name of its language is text that followed before. -/
theorem exists_afterFence (cs : List Char) :
    ∃ skipped rest, cs = skipped ++ rest ∧ afterFence? ("```".toList ++ cs) = some rest := by
  have hsuffix : (dropLanguage cs).dropWhile Text.isBlank <:+ cs :=
    (List.dropWhile_suffix _).trans (dropLanguage_suffix cs)
  obtain ⟨skipped, hskipped⟩ := hsuffix
  exact ⟨skipped, _, hskipped.symm, rfl⟩

/-! ## Records -/

/-- A text without a fence in it. -/
def FenceFree (text : String) : Prop :=
  ¬ "```".toList <:+: text.toList

/-- Backticks are not written for anything else. -/
theorem ne_backtick_of_spells (h : Spells '"' cs c) (hc : c ≠ '`') : cs ≠ [] ∧ ∀ d ∈ cs, d ≠ '`' := by
  have hdigits {digits : List Char} {n : Nat} (h : IsCodeUnit digits n) : ∀ d ∈ digits, d ≠ '`' := by
    rintro d hd rfl
    obtain ⟨k, hk⟩ := Text.hexDigit?_of_mem h.value_eq _ hd
    cases hk
  cases h with
  | plain => simpa using hc
  | @short letter _ h =>
    have hletter : letter ≠ '`' := by
      rintro rfl
      simp [escapes] at h
    simpa using hletter
  | single h => exact absurd h (by decide)
  | unit h => simpa using hdigits h
  | pair h h' _ _ _ =>
    simp only [List.forall_mem_cons, List.forall_mem_append]
    exact ⟨by simp, by decide, by decide, hdigits h, by decide, by decide, hdigits h'⟩

/-- What a text is written as between quotes. -/
def written (text : List Char) : List Char :=
  text.flatMap fun c => (escapeChar c).flatMap asciiChar

theorem written_backtick (text : List Char) : written ('`' :: text) = '`' :: written text :=
  rfl

/-- Backticks stand for themselves, so a row of them was a row before. -/
theorem prefix_of_written {n : Nat} {text : List Char} (h : List.replicate n '`' <+: written text) :
    List.replicate n '`' <+: text := by
  induction text generalizing n with
  | nil => exact h
  | cons c text ih =>
    cases n with
    | zero => exact List.nil_prefix
    | succ n =>
      rw [List.replicate_succ] at h ⊢
      by_cases hc : c = '`'
      · subst hc
        rw [written_backtick, List.cons_prefix_cons] at h
        exact List.cons_prefix_cons.2 ⟨rfl, ih h.2⟩
      · obtain ⟨hne, hall⟩ := ne_backtick_of_spells (spells_ascii c) hc
        obtain ⟨d, ds, hds⟩ := List.exists_cons_of_ne_nil hne
        have hwritten : written (c :: text) = d :: (ds ++ written text) := by
          rw [written, List.flatMap_cons, hds]
          rfl
        rw [hwritten, List.cons_prefix_cons] at h
        exact absurd h.1.symm (hall d (hds ▸ List.mem_cons_self))

theorem dropFencesFrom_written {text : List Char} (h : ¬ "```".toList <:+: text) (rest : List Char) :
    dropFencesFrom 0 (written text ++ '"' :: rest) = written text ++ '"' :: dropFencesFrom 0 rest := by
  induction text with
  | nil => exact dropFencesFrom_cons (afterFence?_of_ne (by decide) rest)
  | cons c text ih =>
    have htext : ¬ "```".toList <:+: text := fun hinfix => h (List.infix_cons hinfix)
    by_cases hc : c = '`'
    · subst hc
      have hnone : afterFence? (written ('`' :: text) ++ '"' :: rest) = none := by
        rw [afterFence?, Option.map_eq_none_iff, Option.eq_none_iff_forall_ne_some]
        intro after hafter
        have hstart : "```".toList <+: written ('`' :: text) ++ '"' :: rest :=
          ⟨after, (Text.stripPrefix?_eq_some_iff.1 hafter).symm⟩
        exact h (prefix_of_written (n := 3) (Text.prefix_stop (by decide) hstart)).isInfix
      rw [written_backtick, List.cons_append] at hnone ⊢
      rw [dropFencesFrom_cons hnone, ih htext, List.cons_append]
    · rw [written, List.flatMap_cons, List.append_assoc,
        dropFencesFrom_append (ne_backtick_of_spells (spells_ascii c) hc).2]
      exact (congrArg _ (ih htext)).trans (List.append_assoc _ _ _).symm

/-- A text between quotes, in ASCII and without a fence. -/
def FreeQuoted (cs : List Char) (text : String) : Prop :=
  cs = asciiQuoted text ∧ FenceFree text

/-- Taking fences out leaves a rendering without a fence in its strings as it is. -/
theorem respects_dropFences : Respects (dropFencesFrom 0) FreeQuoted (Quoted '"') where
  plain c rest h := by
    refine dropFencesFrom_cons (afterFence?_of_ne ?_ rest)
    rintro rfl
    exact absurd h (by decide)
  comma gap cs rest _ _ := dropFencesFrom_cons (afterFence?_of_ne (by decide) _)
  brace gap cs rest _ _ := dropFencesFrom_cons (afterFence?_of_ne (by decide) _)
  literal cs text h := by
    obtain ⟨rfl, hfree⟩ := h
    refine ⟨asciiQuoted text, quoted_asciiQuoted text, fun rest => ?_⟩
    rw [asciiQuoted_eq]
    have hcopied := dropFencesFrom_written hfree rest
    rw [List.cons_append, dropFencesFrom_cons (afterFence?_of_ne (by decide) _)]
    simpa [written] using hcopied

variable {literal : List Char → String → Prop} {part : Part}

/-- Does a part end with a closing brace, if it has one? -/
def EndsWithBrace (cs : List Char) : Part → Prop
  | .members _ => ∃ body, cs = body ++ ['}']
  | .value (.record _) => ∃ body, cs = '{' :: (body ++ ['}'])
  | _ => True

theorem endsWithBrace (h : Renders literal cs part) : EndsWithBrace cs part := by
  induction h with
  | @emptyRecord gap _ => exact ⟨gap, rfl⟩
  | @record gap cs fields _ _ ih =>
    obtain ⟨body, rfl⟩ := ih
    exact ⟨gap ++ body, by simp⟩
  | @lastMember before after gap key cs name item =>
    exact ⟨key ++ (before ++ ':' :: (after ++ (cs ++ gap))), by simp⟩
  | @member before after gap next key cs ds name item fields _ _ _ _ _ _ _ _ ih =>
    obtain ⟨body, rfl⟩ := ih
    exact ⟨key ++ (before ++ ':' :: (after ++ (cs ++ (gap ++ ',' :: (next ++ body))))), by simp⟩
  | word h =>
    simp only [words, List.mem_cons, Prod.mk.injEq, List.not_mem_nil, or_false] at h
    obtain ⟨-, rfl⟩ | ⟨-, rfl⟩ | ⟨-, rfl⟩ | ⟨-, rfl⟩ | ⟨-, rfl⟩ | ⟨-, rfl⟩ := h <;> exact trivial
  | numeral n =>
    rw [Numeral.value]
    split <;> exact trivial
  | _ => exact trivial

/-! ## Answers -/

variable {p s : List Char}

/-- What stands around backticks is trimmed, and nothing between them. -/
theorem trimChars_backticks (p mid s : List Char) : Text.trimChars (p ++ '`' :: (mid ++ '`' :: s)) =
    p.dropWhile Text.isBlank ++ '`' :: (mid ++ '`' :: Text.dropEndWhile Text.isBlank s) := by
  have hend (before : List Char) : Text.dropEndWhile Text.isBlank (before ++ '`' :: s) =
      before ++ '`' :: Text.dropEndWhile Text.isBlank s := by
    have hreverse : (before ++ '`' :: s).reverse = s.reverse ++ '`' :: before.reverse := by simp
    rw [Text.dropEndWhile, hreverse, Text.dropWhile_stop (by decide)]
    simp [Text.dropEndWhile]
  have hassoc : p.dropWhile Text.isBlank ++ '`' :: (mid ++ '`' :: s) =
      (p.dropWhile Text.isBlank ++ '`' :: mid) ++ '`' :: s := by simp
  rw [Text.trimChars, Text.stripBy, Text.dropWhile_stop (by decide), hassoc, hend]
  simp

theorem mem_of_mem_dropEndWhile {q : Char → Bool} (h : c ∈ Text.dropEndWhile q s) : c ∈ s := by
  rw [Text.dropEndWhile, List.mem_reverse] at h
  exact List.mem_reverse.1 ((List.dropWhile_suffix q).subset h)

/-- What stands between the braces is kept, whatever stands around it. -/
theorem betweenBraces_append (hp : '{' ∉ p) (hs : '}' ∉ s) (body : List Char) :
    betweenBraces (p ++ ('{' :: (body ++ ['}']) ++ s)) = '{' :: (body ++ ['}']) := by
  have hdrop : (p ++ ('{' :: (body ++ ['}']) ++ s)).dropWhile (· != '{') = '{' :: body ++ '}' :: s := by
    have hall : ∀ c ∈ p, (c != '{') = true := by
      intro c hc
      rw [bne_iff_ne]
      rintro rfl
      exact hp hc
    rw [List.dropWhile_append_of_pos hall]
    simp
  have hsplit : Text.splitLast? '}' ('{' :: body ++ '}' :: s) = some ('{' :: body, s) :=
    Text.splitLast?_eq_some_iff.2 ⟨rfl, hs⟩
  rw [betweenBraces, hdrop, hsplit]
  simp

/-- An answer with a text in a fence. -/
def fenced (p cs s : List Char) : List Char :=
  p ++ ("```json\n".toList ++ (cs ++ ("\n```".toList ++ s)))

/-- Fences are taken out around a record, with the blanks at both ends of the answer. -/
theorem dropFences_fenced (hp : '`' ∉ p) (hs : '`' ∉ s)
    (hcs : ∀ rest, dropFencesFrom 0 (cs ++ rest) = ds ++ dropFencesFrom 0 rest) (hopen : ∃ body, cs = '{' :: body) :
    ∃ skipped rest, Text.dropEndWhile Text.isBlank s = skipped ++ rest ∧
      dropFences (Text.trimChars (fenced p cs s)) = p.dropWhile Text.isBlank ++ (ds ++ '\n' :: rest) := by
  obtain ⟨skipped, rest, hsplit, hafter⟩ := exists_afterFence (Text.dropEndWhile Text.isBlank s)
  have hrest : ∀ c ∈ rest, c ≠ '`' := by
    rintro c hc rfl
    exact hs (mem_of_mem_dropEndWhile (q := Text.isBlank) (hsplit ▸ List.mem_append_right skipped hc))
  have hbefore : ∀ c ∈ p.dropWhile Text.isBlank, c ≠ '`' := by
    rintro c hc rfl
    exact hp ((List.dropWhile_suffix Text.isBlank).subset hc)
  have htrim : Text.trimChars (fenced p cs s) = p.dropWhile Text.isBlank ++
      '`' :: ("``json\n".toList ++ (cs ++ '\n' :: '`' :: ("``".toList ++ (skipped ++ rest)))) := by
    have hassoc : fenced p cs s = p ++ '`' :: ("``json\n".toList ++ (cs ++ "\n``".toList) ++ '`' :: s) := by
      simp [fenced]
    rw [hassoc, trimChars_backticks, hsplit]
    simp
  have hfirst : afterFence? ('`' :: ("``json\n".toList ++ (cs ++ '\n' :: '`' :: ("``".toList ++ (skipped ++ rest))))) =
      some (cs ++ '\n' :: '`' :: ("``".toList ++ (skipped ++ rest))) := by
    obtain ⟨body, rfl⟩ := hopen
    rfl
  have hlast : afterFence? ('`' :: ("``".toList ++ skipped ++ rest)) = some rest := by
    rw [List.append_assoc, ← hsplit]
    exact hafter
  have hend : dropFencesFrom 0 ('`' :: ("``".toList ++ (skipped ++ rest))) = rest := by
    rw [← List.append_assoc, dropFencesFrom_fence hlast]
    simpa [dropFencesFrom] using dropFencesFrom_append hrest []
  refine ⟨skipped, rest, hsplit, ?_⟩
  rw [dropFences, htrim, dropFencesFrom_append hbefore, dropFencesFrom_fence hfirst, hcs,
    dropFencesFrom_cons (afterFence?_of_ne (by decide) _), hend]

/-- The record in a fence is what is read of an answer. -/
theorem excerpt_fenced (hp : '{' ∉ p ∧ '`' ∉ p) (hs : '}' ∉ s ∧ '`' ∉ s) {fields : Fields}
    (h : Renders FreeQuoted cs (.value (.record fields))) :
    Json.read (excerpt (String.ofList (fenced p cs s))) = .ok (.record fields) := by
  obtain ⟨body, hbody⟩ := endsWithBrace h
  obtain ⟨ds, hds, hcopy⟩ := respects_dropFences.renders h
  obtain ⟨body', rfl⟩ := endsWithBrace hds
  obtain ⟨skipped, rest, hsplit, hdrop⟩ := dropFences_fenced hp.2 hs.2 hcopy ⟨_, hbody⟩
  have hbefore : '{' ∉ p.dropWhile Text.isBlank := fun hmem =>
    hp.1 ((List.dropWhile_suffix Text.isBlank).subset hmem)
  have hafter : '}' ∉ '\n' :: rest := by
    rw [List.mem_cons, not_or]
    refine ⟨by decide, fun hmem => hs.1 (mem_of_mem_dropEndWhile (q := Text.isBlank) ?_)⟩
    rw [hsplit]
    exact List.mem_append_right skipped hmem
  rw [excerpt, String.toList_ofList, hdrop, betweenBraces_append hbefore hafter]
  simpa using read_of_renders readsString_of_quoted isGap_nil isGap_nil hds

/-- No text goes on behind the fence that opens, wherever the fence stands. -/
theorem after_fence (place : Place) : place.after "```json\n".toList = none := by
  cases place <;> decide

/-- No answer with a fence is read as it is. -/
theorem read_fenced_ne_ok (p cs s : List Char) (json : Json) :
    Json.read (String.ofList (fenced p cs s)) ≠ .ok json := by
  intro h
  have hafter := Place.after_of_read h
  rw [String.toList_ofList, fenced, Place.after_append, Option.bind_eq_some_iff] at hafter
  obtain ⟨place, -, hplace⟩ := hafter
  rw [Place.after_append, after_fence] at hplace
  cases hplace

/-- No reader gets past the fence: what it has still to read starts in the text before the fence or in the fence. -/
theorem eq_fenced_or_head {place place' : Place} (h : Place.Leads place (fenced p cs s) place' rest) :
    (∃ left, left <:+ p ∧ rest = fenced left cs s) ∨ ∃ c ∈ "```json\n".toList, rest.head? = some c := by
  obtain ⟨consumed, hsplit, hafter⟩ := h
  rw [fenced, List.append_eq_append_iff] at hsplit
  obtain ⟨before, rfl, hfence⟩ | ⟨left, rfl, rfl⟩ := hsplit
  · rw [Place.after_append, Option.bind_eq_some_iff] at hafter
    obtain ⟨place, -, hplace⟩ := hafter
    rw [List.append_eq_append_iff] at hfence
    obtain ⟨more, rfl, -⟩ | ⟨left, hleft, rfl⟩ := hfence
    · rw [Place.after_append, after_fence] at hplace
      cases hplace
    · cases left with
      | nil =>
        rw [← List.append_nil before, ← hleft, after_fence] at hplace
        cases hplace
      | cons c left => exact .inr ⟨c, hleft ▸ List.mem_append_right before List.mem_cons_self, rfl⟩
  · exact .inl ⟨left, List.suffix_append consumed left, rfl⟩

/-- The digits of an integer that is reached stand before the fence. -/
theorem digits_before_fence {digits : List Char} (h : Place.Leads .outside (fenced p cs s) .outside (digits ++ rest))
    (hdigits : ∀ c ∈ digits, Decimal.isDigit c = true) (hne : digits ≠ []) : digits <:+: p := by
  have hmarks : "```json\n".toList.all (fun c => !Decimal.isDigit c) = true := by decide
  obtain ⟨left, hleft, heq⟩ | ⟨c, hc, hhead⟩ := eq_fenced_or_head h
  · have hbacktick : '`' ∉ digits := fun hmem => absurd (hdigits _ hmem) (by decide)
    have hstart : digits <+: left ++ '`' :: ("``json\n".toList ++ (cs ++ ("\n```".toList ++ s))) := ⟨rest, heq⟩
    exact (Text.prefix_stop hbacktick hstart).isInfix.trans hleft.isInfix
  · obtain ⟨digit, digits, rfl⟩ := List.exists_cons_of_ne_nil hne
    obtain rfl := Option.some.inj hhead
    simpa [hdigits digit List.mem_cons_self] using List.all_eq_true.1 hmarks digit hc

theorem readOr_of_ok {text : String} {json : Json} (h : Json.read text = .ok json) (mended : Bool)
    (next : Json.ReadError → Except ReadError Reading) : readOr text mended next = .ok ⟨json, mended⟩ := by
  rw [readOr, h]

/-- Is there a row of `n` digits, too many to be read as an integer, in a text? -/
def HasLongRow (n : Nat) (cs : List Char) : Prop :=
  ∃ digits, digits <:+: cs ∧ (∀ c ∈ digits, Decimal.isDigit c = true) ∧ digits.length = n ∧ maxDigits < n

/-- An answer that wraps a record in a fence, between texts without braces and backticks of their own, is read as the
record as it is, unless the record holds a fence; the one other exception is an integer of too many digits in the
text before it, which may end the reading. -/
theorem read_fenced (p s : String) (fields : Fields) (hreadable : (Json.record fields).Readable)
    (hp : '{' ∉ p.toList ∧ '`' ∉ p.toList) (hs : '}' ∉ s.toList ∧ '`' ∉ s.toList)
    (hfree : ∀ text ∈ (Json.record fields).strings, FenceFree text) :
    read (p ++ "```json\n" ++ (Json.record fields).ascii ++ "\n```" ++ s) = .ok ⟨.record fields, false⟩ ∨
      ∃ error n, read (p ++ "```json\n" ++ (Json.record fields).ascii ++ "\n```" ++ s) = .error (.refused error) ∧
        error.problem = .integerTooLong n ∧ HasLongRow n p.toList := by
  have htext : p ++ "```json\n" ++ (Json.record fields).ascii ++ "\n```" ++ s =
      String.ofList (fenced p.toList (Json.record fields).ascii.toList s.toList) := by
    rw [← String.toList_inj]
    simp [fenced]
  have hrenders : Renders FreeQuoted (Json.record fields).ascii.toList (.value (.record fields)) :=
    renders_ascii hreadable fun text htext => ⟨rfl, hfree text htext⟩
  rw [htext]
  cases hread : Json.read (String.ofList (fenced p.toList (Json.record fields).ascii.toList s.toList)) with
  | ok json => exact absurd hread (read_fenced_ne_ok _ _ _ json)
  | error error =>
    rw [read, readOr, hread]
    cases hkind : error.isSyntax with
    | true => exact .inl (by simpa [hkind] using readOr_of_ok (excerpt_fenced hp hs hrenders) false _)
    | false =>
      obtain ⟨n, hproblem, digits, rest, hleads, hdigits, hlength, hmax⟩ := Place.holdsLong_of_read hread hkind
      rw [String.toList_ofList] at hleads
      have hne : digits ≠ [] := List.ne_nil_of_length_pos (by omega)
      exact .inr ⟨error, n, by simp [hkind], hproblem, digits, digits_before_fence hleads hdigits hne, hdigits,
        hlength, hmax⟩

/-- A text that starts with no value is malformed. -/
theorem exists_syntax_error {text : String} {rest : List Char}
    (h : readChars text.toList = .error ⟨.expectingValue, rest⟩) :
    ∃ error, Json.read text = .error error ∧ error.isSyntax = true :=
  ⟨_, by rw [Json.read, h]; rfl, rfl⟩

/-- Braces, single backticks and escapes in a record, and the other braces around it. -/
theorem read_fenced_braces :
    (Json.record [("\x7b`", .list [.str "\x7d``\n", .float 0.5])]).Readable ∧
    read ("Here \x7d it is:\n" ++ "```json\n" ++ (Json.record [("\x7b`", .list [.str "\x7d``\n", .float 0.5])]).ascii ++
      "\n```" ++ "json \x7b ") = .ok ⟨.record [("\x7b`", .list [.str "\x7d``\n", .float 0.5])], false⟩ := by
  have hreadable : (Json.record [("\x7b`", .list [.str "\x7d``\n", .float 0.5])]).Readable :=
    ⟨by simp [Fields.Distinct], ⟨trivial, trivial, trivial⟩, trivial⟩
  have hfree : ∀ text ∈ (Json.record [("\x7b`", .list [.str "\x7d``\n", .float 0.5])]).strings, FenceFree text := by
    simp only [strings, itemStrings, fieldStrings, FenceFree]
    decide
  refine ⟨hreadable, (read_fenced _ _ _ hreadable (by decide) (by decide) hfree).resolve_right ?_⟩
  rintro ⟨-, n, -, -, digits, hinfix, -, hlength, hmax⟩
  have hshort : digits.length ≤ 14 := hinfix.length_le
  rw [maxDigits] at hmax
  omega

/-- A fence inside a text is taken out as well. -/
theorem read_fenced_inner : (Json.record [("a", .str "```")]).Readable ∧
    read ("" ++ "```json\n" ++ (Json.record [("a", .str "```")]).ascii ++ "\n```" ++ "") =
      .ok ⟨.record [("a", .str "")], false⟩ := by
  refine ⟨⟨by simp [Fields.Distinct], trivial, trivial⟩, ?_⟩
  have hmalformed : ∃ error, Json.read ("" ++ "```json\n" ++ (Json.record [("a", .str "```")]).ascii ++ "\n```" ++ "") =
      .error error ∧ error.isSyntax = true :=
    exists_syntax_error (by simp only [String.toList_append]; rfl)
  obtain ⟨error, herror, hslip⟩ := hmalformed
  have hexcerpt : excerpt ("" ++ "```json\n" ++ (Json.record [("a", .str "```")]).ascii ++ "\n```" ++ "") =
      (Json.record [("a", .str "")]).ascii := by
    decide
  have hread : Json.read (Json.record [("a", .str "")]).ascii = .ok (.record [("a", .str "")]) :=
    read_ascii ⟨by simp [Fields.Distinct], trivial, trivial⟩
  rw [read, readOr, herror]
  simp only [hslip, if_true]
  rw [hexcerpt, readOr_of_ok hread]

end Runbook.Draft
