import Runbook.Draft.Reading
import Runbook.Proofs.Json.Ascii
import Runbook.Proofs.Json.Lexical

/-!
# Single quotes are rewritten with double ones

A text may be rendered with strings in quotes of either kind (`EitherQuoted`). `Draft.requote` makes of such a
rendering one in double quotes, of the same value (`respects_requote`), and changes nothing in a text that is read
as it is (`requote_of_after`). `requote_transcodes` puts both together.
-/

namespace Runbook.Draft

open Json

variable {cs rest : List Char} {q c : Char}

/-- A text in quotes of either kind. -/
def EitherQuoted (cs : List Char) (text : String) : Prop :=
  Quoted '"' cs text ∨ Quoted '\'' cs text

/-! ## Single steps -/

theorem requoteFrom_outside (hescape : c ≠ '\\') (hdouble : c ≠ '"') (hsingle : c ≠ '\'') (cs : List Char) :
    requoteFrom none (c :: cs) = c :: requoteFrom none cs := by
  simp [requoteFrom, hescape, hdouble, hsingle]

theorem requoteFrom_inside (hescape : c ≠ '\\') (hquote : c ≠ q) (hdouble : c ≠ '"') (cs : List Char) :
    requoteFrom (some q) (c :: cs) = c :: requoteFrom (some q) cs := by
  simp [requoteFrom, hescape, hquote, hdouble]

theorem requoteFrom_open (hq : q = '"' ∨ q = '\'') (cs : List Char) :
    requoteFrom none (q :: cs) = '"' :: requoteFrom (some q) cs := by
  rcases hq with rfl | rfl <;> simp [requoteFrom]

theorem requoteFrom_close (hq : q = '"' ∨ q = '\'') (cs : List Char) :
    requoteFrom (some q) (q :: cs) = '"' :: requoteFrom none cs := by
  rcases hq with rfl | rfl <;> simp [requoteFrom]

/-! ## Strings -/

/-- The digits of an escape are copied. -/
theorem requoteFrom_digits {n : Nat} (hq : q = '"' ∨ q = '\'') (h : IsCodeUnit cs n) (rest : List Char) :
    requoteFrom (some q) (cs ++ rest) = cs ++ requoteFrom (some q) rest := by
  have hdigits := Text.hexDigit?_of_mem h.value_eq
  clear h
  induction cs with
  | nil => rfl
  | cons c cs ih =>
    rw [List.forall_mem_cons] at hdigits
    obtain ⟨⟨d, hd⟩, hrest⟩ := hdigits
    have hne (e : Char) (he : Text.hexDigit? e = none) : c ≠ e := by
      rintro rfl
      rw [he] at hd
      cases hd
    have hquote : c ≠ q := by
      rcases hq with rfl | rfl
      · exact hne '"' rfl
      · exact hne '\'' rfl
    rw [List.cons_append, requoteFrom_inside (hne '\\' rfl) hquote (hne '"' rfl), ih hrest, List.cons_append]

/-- What stands for a character in quotes of either kind becomes what stands for it in double quotes. -/
theorem requoteFrom_spells (hq : q = '"' ∨ q = '\'') (h : Spells q cs c) :
    ∃ ds, Spells '"' ds c ∧ ∀ rest, requoteFrom (some q) (cs ++ rest) = ds ++ requoteFrom (some q) rest := by
  cases h with
  | plain hquote hescape hcontrol =>
    by_cases hdouble : c = '"'
    · subst hdouble
      refine ⟨['\\', '"'], .short (by simp [escapes]), fun rest => ?_⟩
      simp [requoteFrom, hquote]
    · exact ⟨[c], .plain hdouble hescape hcontrol, fun rest => requoteFrom_inside hescape hquote hdouble rest⟩
  | @short letter _ hletter =>
    have hsingle : letter ≠ '\'' := by
      rintro rfl
      simp [escapes] at hletter
    exact ⟨['\\', letter], .short hletter, fun rest => requoteFrom_escape (fun h => hsingle h.2) rest⟩
  | single hsingle =>
    subst hsingle
    refine ⟨['\''], .plain (by decide) (by decide) (by decide), fun rest => ?_⟩
    simp [requoteFrom]
  | @unit digits _ hdigits =>
    refine ⟨'\\' :: 'u' :: digits, .unit hdigits, fun rest => ?_⟩
    simp only [List.cons_append, requoteFrom_escape (by simp : ¬ (some q = some '\'' ∧ 'u' = '\'')),
      requoteFrom_digits hq hdigits]
  | @pair digits digits' high low _ hdigits hdigits' hhigh hlow hc =>
    refine ⟨'\\' :: 'u' :: (digits ++ '\\' :: 'u' :: digits'), .pair hdigits hdigits' hhigh hlow hc, fun rest => ?_⟩
    simp only [List.cons_append, List.append_assoc,
      requoteFrom_escape (by simp : ¬ (some q = some '\'' ∧ 'u' = '\'')), requoteFrom_digits hq hdigits,
      requoteFrom_digits hq hdigits']

theorem requoteFrom_spellsText (hq : q = '"' ∨ q = '\'') {text : List Char} (h : SpellsText q cs text) :
    ∃ ds, SpellsText '"' ds text ∧ ∀ rest, requoteFrom (some q) (cs ++ rest) = ds ++ requoteFrom (some q) rest := by
  induction h with
  | nil => exact ⟨[], .nil, fun _ => rfl⟩
  | cons h _ ih =>
    obtain ⟨ds, hds, hcopy⟩ := requoteFrom_spells hq h
    obtain ⟨ds', hds', hcopy'⟩ := ih
    refine ⟨ds ++ ds', .cons hds hds', fun rest => ?_⟩
    rw [List.append_assoc, hcopy, hcopy', List.append_assoc]

theorem requoteFrom_quoted (hq : q = '"' ∨ q = '\'') {text : String} (h : Quoted q cs text) :
    ∃ ds, Quoted '"' ds text ∧ ∀ rest, requoteFrom none (cs ++ rest) = ds ++ requoteFrom none rest := by
  obtain ⟨body, hbody, rfl⟩ := h
  obtain ⟨ds, hds, hcopy⟩ := requoteFrom_spellsText hq hbody
  refine ⟨'"' :: (ds ++ ['"']), ⟨ds, hds, rfl⟩, fun rest => ?_⟩
  simp [requoteFrom_open hq, hcopy, requoteFrom_close hq]

/-! ## Texts -/

/-- What is rendered with quotes of either kind becomes a rendering with double quotes. -/
theorem respects_requote : Respects (requoteFrom none) EitherQuoted (Quoted '"') where
  plain c rest h := by
    have hne : ∀ d ∈ special, c ≠ d := fun d hd heq => h.2 (heq ▸ hd)
    exact requoteFrom_outside (hne _ (by decide)) (hne _ (by decide)) (hne _ (by decide)) rest
  comma gap cs rest _ _ := requoteFrom_outside (by decide) (by decide) (by decide) _
  brace gap cs rest _ _ := requoteFrom_outside (by decide) (by decide) (by decide) _
  literal cs text h :=
    h.elim (requoteFrom_quoted (.inl rfl)) (requoteFrom_quoted (.inr rfl))

/-- A text that ends outside all strings stays as it is, from whatever place it is read. -/
theorem requote_of_after (cs : List Char) :
    (Place.outside.after cs = some .outside → requoteFrom none cs = cs) ∧
    (Place.inside.after cs = some .outside → requoteFrom (some '"') cs = cs) ∧
    (Place.escaped.after cs = some .outside → requoteFrom (some '"') ('\\' :: cs) = '\\' :: cs) := by
  induction cs with
  | nil => simp [Place.after, requoteFrom]
  | cons c cs ih =>
    obtain ⟨ihoutside, ihinside, ihescaped⟩ := ih
    refine ⟨fun h => ?_, fun h => ?_, fun h => ?_⟩
    · rw [Place.after_cons, Place.next] at h
      by_cases hquote : c = '"'
      · subst hquote
        rw [requoteFrom_open (.inl rfl), ihinside h]
      · rw [if_neg hquote] at h
        split at h
        · cases h
        · rename_i hnone
          simp only [Bool.or_eq_true, decide_eq_true_eq, not_or] at hnone
          rw [requoteFrom_outside hnone.1.2 hquote hnone.1.1, ihoutside h]
    · rw [Place.after_cons, Place.next] at h
      by_cases hquote : c = '"'
      · subst hquote
        rw [requoteFrom_close (.inl rfl), ihoutside h]
      · rw [if_neg hquote] at h
        by_cases hescape : c = '\\'
        · subst hescape
          exact ihescaped h
        · rw [if_neg hescape] at h
          split at h
          · cases h
          · rw [requoteFrom_inside hescape hquote hquote, ihinside h]
    · rw [Place.after_cons, Place.next] at h
      split at h
      · rw [requoteFrom_escape (by simp), ihinside h]
      · cases h

/-- Every text in which each string, names of members included, is rendered in quotes of one kind or the other
becomes a text that is read as the value; and a text that is read as it is stays as it is. -/
theorem requote_transcodes :
    (∀ (before cs after : List Char) (json : Json), IsGap before → IsGap after →
      Renders EitherQuoted cs (.value json) →
        Json.read (String.ofList (requote (before ++ (cs ++ after)))) = .ok json) ∧
    ∀ (text : String) (json : Json), Json.read text = .ok json → requote text.toList = text.toList := by
  refine ⟨fun before cs after json hbefore hafter h => ?_, fun text json h => ?_⟩
  · obtain ⟨ds, hds, hcopy⟩ := respects_requote.renders h
    have hgap : requoteFrom none after = after := by
      simpa [requoteFrom] using respects_requote.append_of_isGap hafter []
    have htext : requote (before ++ (cs ++ after)) = before ++ (ds ++ after) := by
      rw [requote, respects_requote.append_of_isGap hbefore, hcopy, hgap]
    rw [htext]
    exact read_of_renders readsString_of_quoted hbefore hafter hds
  · exact (requote_of_after text.toList).1 (Place.after_of_read h)

/-- An escaped apostrophe in a name, one in a text in double quotes, and double quotes in a text in single ones. -/
theorem requote_transcodes_apostrophes :
    Renders EitherQuoted "\x7b'it\\'s': [\"a'b\", '\\\"\"']\x7d".toList
      (.value (.record [("it's", .list [.str "a'b", .str "\"\""])])) ∧
    Json.read (String.ofList (requote ([' '] ++ ("\x7b'it\\'s': [\"a'b\", '\\\"\"']\x7d".toList ++ ['\n'])))) =
      .ok (.record [("it's", .list [.str "a'b", .str "\"\""])]) ∧
    requote (Json.str "a'b").ascii.toList = (Json.str "a'b").ascii.toList := by
  have hname : EitherQuoted "'it\\'s'".toList "it's" :=
    .inr ⟨['i', 't', '\\', '\'', 's'],
      .cons (.plain (by decide) (by decide) (by decide)) (.cons (.plain (by decide) (by decide) (by decide))
        (.cons (.single rfl) (.cons (.plain (by decide) (by decide) (by decide)) .nil))), rfl⟩
  have hplain : EitherQuoted "\"a'b\"".toList "a'b" := .inl (quoted_quoted "a'b")
  have hescaped : EitherQuoted "'\\\"\"'".toList "\"\"" :=
    .inr ⟨['\\', '"', '"'],
      .cons (c := '"') (.short (by simp [escapes])) (.cons (.plain (by decide) (by decide) (by decide)) .nil), rfl⟩
  have hrenders := Renders.record isGap_nil
    (.lastMember isGap_nil isGap_blank isGap_nil hname
      (.list isGap_nil
        (.item isGap_nil isGap_blank (.str hplain)
          (.lastItem isGap_nil (.str hescaped)))))
  exact ⟨hrenders, requote_transcodes.1 [' '] _ ['\n'] _ isGap_blank (by simp [IsGap, isSpace]) hrenders,
    requote_transcodes.2 _ _ (read_ascii trivial)⟩

end Runbook.Draft
