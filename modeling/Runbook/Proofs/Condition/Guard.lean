import Runbook.Proofs.Condition.Compare
import Runbook.Proofs.DataPoint.Store
import Runbook.Proofs.Token.Grammar
import Runbook.Proofs.Token.Resolve

/-!
# Conditions on a single value

Tokens are filled before a condition is read, so the structure of the condition depends on the value.

* `holdsFor_comparison` — a value without blanks, quotes and operators is compared as the condition says, unless
  it is empty: then the condition has one operand and is no comparison.
* `holdsFor_ne_empty` — whether a value in quotes is empty can be told, unless it closes the quotes and goes on
  with an operator.
-/

namespace Runbook.Condition

open Token (trimChars_chars)

variable {s : Store} {t : Token} {text resolved value before after literal : String} {cs : List Char}

/-! ## The value of a condition -/

/-- What cannot be evaluated is not true. -/
theorem value_evaluate (text : String) : (evaluate text).value = (parse text).eval.toOption.getD false := by
  rw [evaluate]
  cases (parse text).eval <;> rfl

/-- The value of a condition is that of its resolved text. -/
theorem value_holdsFor (htrim : Text.trimChars text.toList = text.toList) (hne : text ≠ "")
    (h : (s.resolveText text).outcome.value = .ok resolved) :
    (holdsFor s (some text)).value = (parse resolved).eval.toOption.getD false := by
  have htrimText : Text.trim text = text := by
    rw [Text.trim, htrim, String.ofList_toList]
  rw [← value_evaluate]
  simp [holdsFor, holds, Json.ofText?, Json.displayBare, Json.isNull, Text.isAllBlank_eq_false htrim hne,
    htrimText, h]

/-- In a condition with a single token the text that the token stands for is put in its place before the
condition is read. -/
theorem value_holdsFor_single (hbefore : '$' ∉ before.toList) (hafter : '$' ∉ after.toList)
    (wellFormed : t.isWellFormed = true) (hvalue : s.resolveToken t = .ok value)
    (htrim : Text.trimChars (before ++ t.write ++ after).toList = (before ++ t.write ++ after).toList) :
    (holdsFor s (some (before ++ t.write ++ after))).value =
      (parse (before ++ value ++ after)).eval.toOption.getD false := by
  refine value_holdsFor htrim (fun hempty => ?_)
    (Store.resolveText_single hbefore hafter wellFormed hvalue)
  have hlength := congrArg (fun text => text.toList.length) hempty
  simp [Token.write, Token.chars_eq] at hlength

/-! ## A value that is compared with a literal -/

/-- Do letters and digits of ASCII make up the text, or stand in double quotes? In quotes there may be none. -/
def IsLiteral (cs : List Char) : Prop :=
  (cs ≠ [] ∧ ∀ c ∈ cs, c.isAlphanum = true) ∨
    ∃ inner, (∀ c ∈ inner, c.isAlphanum = true) ∧ cs = quoted inner

theorem notMem_of_isAlphanum (h : ∀ c ∈ cs, c.isAlphanum = true) {d : Char} (hd : d.isAlphanum = false) :
    d ∉ cs := by
  intro hmem
  rw [h d hmem] at hd
  cases hd

theorem IsLiteral.isPart (h : IsLiteral cs) : IsPart cs := by
  rcases h with ⟨hne, h⟩ | ⟨inner, h, rfl⟩
  · exact isPart_word hne fun c hc => isOrdinary_of_isAlphanum (h c hc)
  · refine isPart_quoted (notMem_of_isAlphanum h (by decide)) fun hlast => ?_
    exact notMem_of_isAlphanum h (by decide) (List.mem_of_getLast? hlast)

theorem IsLiteral.undivided (h : IsLiteral cs) : Undivided cs := by
  rcases h with ⟨hne, h⟩ | ⟨inner, h, rfl⟩
  · exact undivided_word hne fun c hc => isOrdinary_of_isAlphanum (h c hc)
  · exact undivided_quoted (notMem_of_isAlphanum h (by decide))

theorem IsLiteral.dollar_notMem (h : IsLiteral cs) : '$' ∉ cs := by
  rcases h with ⟨-, h⟩ | ⟨inner, h, rfl⟩
  · exact notMem_of_isAlphanum h (by decide)
  · have hinner : '$' ∉ inner := notMem_of_isAlphanum h (by decide)
    simp [quoted, hinner]

/-- A word is compared with a literal; without the word there is no comparison. -/
theorem eval_word (op : Comparison) {word literal : List Char} (hword : ∀ c ∈ word, c.isAlphanum = true)
    (hliteral : IsLiteral literal) :
    (parse (String.ofList (word ++ spaced op.symbol ++ literal))).eval =
      if word = [] then .ok (op != .ne) else compare op (operand word) (operand literal) := by
  by_cases hempty : word = []
  · subst hempty
    have htext : [] ++ spaced op.symbol ++ literal = ' ' :: (op.symbol.toList ++ ' ' :: literal) := by
      simp [spaced]
    have hparse : parse (String.ofList (' ' :: (op.symbol.toList ++ ' ' :: literal))) =
        parse (String.ofList (op.symbol.toList ++ ' ' :: literal)) :=
      parse_congr (by rw [String.toList_ofList, String.toList_ofList, Text.trimChars_cons_blank (by decide)])
    rw [htext, hparse, eval_leading op hliteral.isPart.nonempty hliteral.isPart.trimmed hliteral.undivided,
      if_pos rfl]
  · have hordinary : ∀ c ∈ word, IsOrdinary c := fun c hc => isOrdinary_of_isAlphanum (hword c hc)
    have hfirst : word.head? ≠ some '!' := fun hhead =>
      notMem_of_isAlphanum hword (by decide) (List.mem_of_head? hhead)
    rw [parse_compare op (isPart_word hempty hordinary) hliteral.isPart
      (undivided_word hempty hordinary) hliteral.undivided hfirst, Expr.eval, if_neg hempty]

/-- The store whose only data point is a selected text. -/
def selection (text : String) : Store :=
  Store.empty.add { id := "sel", value := .record [("text", .str text)], timestamp := 1 }

/-- **A value of letters and digits is compared with a literal** as the operator says, if it is not empty. What
cannot be compared is not true. An empty value leaves no comparison: the condition is true, except for `!=`. -/
theorem holdsFor_comparison (op : Comparison) (wellFormed : t.isWellFormed = true)
    (hvalue : s.resolveToken t = .ok value) (hword : ∀ c ∈ value.toList, c.isAlphanum = true)
    (hliteral : IsLiteral literal.toList) :
    (holdsFor s (some (t.write ++ " " ++ op.symbol ++ " " ++ literal))).value =
      if value = "" then op != .ne
      else (compare op (operand value.toList) (operand literal.toList)).toOption.getD false := by
  have hafter : (" " ++ op.symbol ++ " " ++ literal).toList = spaced op.symbol ++ literal.toList := by
    simp [spaced]
  have htext : t.write ++ " " ++ op.symbol ++ " " ++ literal =
      "" ++ t.write ++ (" " ++ op.symbol ++ " " ++ literal) := by
    simp [String.append_assoc]
  have hresolved : "" ++ value ++ (" " ++ op.symbol ++ " " ++ literal) =
      String.ofList (value.toList ++ spaced op.symbol ++ literal.toList) := by
    rw [← String.toList_inj, String.toList_ofList, String.toList_append, hafter, String.empty_append,
      List.append_assoc]
  rw [htext, value_holdsFor_single (by decide) ?_ wellFormed hvalue ?_, hresolved,
    eval_word op hword hliteral]
  · by_cases hempty : value = ""
    · subst hempty
      rfl
    · rw [if_neg hempty, if_neg (mt String.toList_eq_nil_iff.1 hempty)]
  · rw [hafter, List.mem_append, not_or]
    exact ⟨by cases op <;> decide, hliteral.dollar_notMem⟩
  · rw [String.toList_append, hafter, String.empty_append, Token.write, String.toList_ofList,
      ← List.append_assoc]
    refine Text.trimChars_append (trimChars_chars wellFormed) hliteral.isPart.trimmed ?_
      hliteral.isPart.nonempty _
    rw [Token.chars_eq]
    exact List.cons_ne_nil _ _

/-- A value is compared; without one the condition is true, whatever it asks for. -/
theorem holdsFor_comparison_selected :
    (holdsFor (selection "done") (some "${sel.text} == \"done\"")).value = true ∧
      (holdsFor .empty (some "${sel.text} == \"done\"")).value = true := by
  have hcondition : "${sel.text} == \"done\"" =
      Token.write ⟨"sel", some "text"⟩ ++ " " ++ Comparison.symbol .eq ++ " " ++ "\"done\"" := by decide
  have hword : ∀ c ∈ "done".toList, c.isAlphanum = true := List.all_eq_true.1 rfl
  have hliteral : IsLiteral "\"done\"".toList := .inr ⟨"done".toList, hword, rfl⟩
  have hdone : (selection "done").resolveToken ⟨"sel", some "text"⟩ = .ok "done" := rfl
  have hmissing : Store.empty.resolveToken ⟨"sel", some "text"⟩ = .ok "" := rfl
  rw [hcondition, holdsFor_comparison .eq (by decide) hdone hword hliteral,
    holdsFor_comparison .eq (by decide) hmissing (by simp) hliteral]
  exact ⟨rfl, rfl⟩

/-- The empty text does not equal the literal, but the condition that compares a missing value with it is true. -/
theorem holdsFor_ne_compare :
    Store.empty.resolveToken ⟨"status", some "text"⟩ = .ok "" ∧ IsLiteral "\"done\"".toList ∧
      (holdsFor .empty (some "${status.text} == \"done\"")).value = true ∧
      compare .eq (operand "".toList) (operand "\"done\"".toList) = .ok false :=
  ⟨rfl, .inr ⟨"done".toList, List.all_eq_true.1 rfl, rfl⟩, rfl, rfl⟩

/-! ## A value in quotes that must not be empty -/

/-- A string that is open before ` != ""` takes the operator in. -/
theorem lexFrom_open {quote : Char} (hquote : isQuote quote = true) (start position : Nat) (read : List Char) :
    ∀ l ∈ lexFrom (.string quote start read) (some '"') position (spaced "!=" ++ quoted []),
      l.kind ≠ .operator := by
  rcases isQuote_iff.1 hquote with rfl | rfl
  · have hlex : lexFrom (.string '"' start read) (some '"') position (spaced "!=" ++ quoted []) =
        [⟨.string, ('"' :: ' ' :: '=' :: '!' :: ' ' :: read).reverse, start, position + 5⟩,
          ⟨.string, ['"'], position + 5, position + 6⟩] := rfl
    simp [hlex]
  · have hlex : lexFrom (.string '\'' start read) (some '"') position (spaced "!=" ++ quoted []) =
        [⟨.string, ('"' :: '"' :: ' ' :: '=' :: '!' :: ' ' :: read).reverse, start, position + 6⟩] := rfl
    simp [hlex]

/-- If the strings of a text in quotes are not closed, the last one takes in the comparison after it. -/
theorem undivided_of_not_closed (h : Undivided (quoted cs)) (hopen : ¬ Closed (lex (quoted cs))) :
    Undivided (quoted cs ++ spaced "!=" ++ quoted []) := by
  have hfits : Lexeme.Pending.gap.Fits none (quoted cs) := trivial
  obtain ⟨out, last, hout, hlast, hgoes⟩ := exists_lexFrom_append 0 hfits
  have hprevious : (quoted cs).getLast?.or none = some '"' := by
    rw [quoted, ← List.cons_append, List.getLast?_concat]
    rfl
  rw [hprevious] at hgoes
  have hlex : lex (quoted cs) = out ++ last.close (0 + (quoted cs).length) := by
    have hnil := hgoes [] apart_nil
    rwa [List.append_nil, lexFrom_nil] at hnil
  rw [Undivided, hlex] at h
  have hspaced : Apart (spaced "!=" ++ quoted []) := apart_blank (by decide) _
  rw [Undivided, List.append_assoc, lex, hgoes _ hspaced]
  refine List.forall_mem_append.2 ⟨fun l hl => h l (List.mem_append_left _ hl), ?_⟩
  cases last with
  | string quote start read => exact lexFrom_open hlast.1 _ _ _
  | operator => exact absurd rfl hlast
  | gap | text start read =>
    refine absurd ?_ hopen
    rw [hlex]
    exact List.forall_mem_append.2 ⟨hout, by simp [Lexeme.Pending.close]⟩

theorem compare_ne_text (a b : String) : compare .ne (.text a) (.text b) = .ok (a != b) := rfl

/-- A text in quotes with no operator outside a string is compared with the empty text as it stands. -/
theorem eval_quoted_ne (h : Undivided (quoted cs)) :
    (parse (String.ofList (quoted cs ++ spaced "!=" ++ quoted []))).eval = .ok (decide (cs ≠ [])) := by
  have hempty : IsPart (quoted []) := by decide
  have hhead : (quoted cs).head? ≠ some '!' := by simp [quoted]
  by_cases hclosed : Closed (lex (quoted cs))
  · have hpart : IsPart (quoted cs) := ⟨List.cons_ne_nil _ _, trimChars_quoted cs, hclosed⟩
    have hparse := parse_compare .ne hpart hempty h (by decide) hhead
    rw [Comparison.symbol] at hparse
    have hdecide : (String.ofList cs != String.ofList []) = decide (cs ≠ []) := by
      cases cs with
      | nil => rfl
      | cons c cs => simp [bne_iff_ne, ← String.toList_inj]
    rw [hparse, Expr.eval, operand_quoted, operand_quoted, compare_ne_text, hdecide]
  · have hblank : ' ' ∈ quoted cs ++ spaced "!=" ++ quoted [] := by simp [spaced]
    have hne : cs ≠ [] := by
      rintro rfl
      exact hclosed (by decide)
    have htrim := Text.trimChars_append (trimChars_quoted cs) hempty.trimmed (List.cons_ne_nil _ _)
      hempty.nonempty (spaced "!=")
    rw [parse_truthy htrim hblank (by simp [quoted]) (undivided_of_not_closed h hclosed).length_split,
      eval_truthy hblank]
    simp [hne]

/-- **A value in quotes is not empty exactly if the condition says so**, if no operator of the value stands
outside a string. A value without a quote has none there. -/
theorem holdsFor_ne_empty {p : DataPoint} {fields : Fields} (hp : p ∈ s.points) (hid : p.id = "sel")
    (hrecord : p.value = .record fields) (hfield : fields.get? "text" = some (.str value))
    (inert : '"' ∉ value.toList ∨ Undivided (quoted value.toList)) :
    (holdsFor s (some "\"${sel.text}\" != \"\"")).value = true ↔ value ≠ "" := by
  have hundivided : Undivided (quoted value.toList) := inert.elim undivided_quoted id
  have hvalue : s.resolveToken ⟨"sel", some "text"⟩ = .ok value := by
    have hlookup : s.lookup "sel" = some p := by
      rw [Store.lookup, ← hid, Store.get?_of_mem hp]
      rfl
    simp [Store.resolveToken, hlookup, hrecord, Token.render, Token.rawField, hfield, Json.plain]
  have hcondition : "\"${sel.text}\" != \"\"" =
      "\"" ++ Token.write ⟨"sel", some "text"⟩ ++ "\" != \"\"" := by decide
  have htrim : Text.trimChars "\"${sel.text}\" != \"\"".toList = "\"${sel.text}\" != \"\"".toList := by
    decide
  have hresolved : "\"" ++ value ++ "\" != \"\"" =
      String.ofList (quoted value.toList ++ spaced "!=" ++ quoted []) := by
    rw [← String.toList_inj, String.toList_ofList]
    simp [quoted, spaced]
  rw [hcondition] at htrim ⊢
  rw [value_holdsFor_single (by decide) (by decide) (by decide) hvalue htrim, hresolved,
    eval_quoted_ne hundivided]
  simp [Except.toOption]

/-- A backslash keeps a quote of the value inside the string. -/
theorem holdsFor_ne_empty_escaped :
    (holdsFor (selection "a \\\" && b") (some "\"${sel.text}\" != \"\"")).value = true := by
  have hmem : (⟨"sel", "", .context, .record [("text", .str "a \\\" && b")], "", 1⟩ : DataPoint) ∈
      (selection "a \\\" && b").points := List.mem_singleton.2 rfl
  exact (holdsFor_ne_empty hmem rfl rfl rfl (.inr (by decide))).2 (by decide)

/-- A quote in the value ends the string, and what comes after it is read as part of the condition. -/
theorem holdsFor_selection_eq_false :
    (holdsFor (selection "\" == \"") (some "\"${sel.text}\" != \"\"")).value = false ∧ "\" == \"" ≠ "" :=
  ⟨rfl, by decide⟩

end Runbook.Condition
