import Runbook.Json.Printer
import Runbook.Proofs.Json.Fields
import Runbook.Proofs.Json.Spelling

/-!
# Values are read back

The text of every value is read back (`read_pretty`), as long as the value is `Readable`: its integers have no more
digits than are read, and its members have names of their own. This is because the text renders the value, with
line feeds and blanks for the space between the parts (`renders_prettyChars`).
-/

namespace Runbook

/-- Members with names of their own stay as they are. -/
theorem Fields.ofPairs_of_distinct {fields : Fields} (h : fields.Distinct) : ofPairs fields = fields := by
  have hfold : ∀ later earlier : Fields, (earlier ++ later).Distinct →
      later.foldl (fun fields pair => set pair.1 pair.2 fields) earlier = earlier ++ later := by
    intro later
    induction later with
    | nil => simp
    | cons pair rest ih =>
      intro earlier hdistinct
      have hnot : earlier.has pair.1 = false := by
        rw [Distinct, List.map_append, List.map_cons] at hdistinct
        have hnew := (List.nodup_append.1 hdistinct).2.2
        rw [has, List.any_eq_false]
        intro field hfield heq
        exact hnew _ (List.mem_map_of_mem hfield) _ List.mem_cons_self (beq_iff_eq.1 heq)
      rw [List.foldl_cons, set, if_neg (by simp [hnot]), ih _ (by simpa using hdistinct)]
      simp
  exact hfold fields [] h

namespace Json

variable {literal : List Char → String → Prop} {json : Json} {items : List Json}

/-! ## Readable values -/

mutual

/-- Can a value be read back? Integers have no more digits than are read, and members have names of their own. -/
def Readable : Json → Prop
  | int n => (Decimal.digitText n.natAbs).length ≤ maxDigits
  | list items => ItemsReadable items
  | record fields => Fields.Distinct fields ∧ FieldsReadable fields
  | _ => True

/-- Can the items of a list be read back? -/
def ItemsReadable : List Json → Prop
  | [] => True
  | item :: items => Readable item ∧ ItemsReadable items

/-- Can the values of members be read back? -/
def FieldsReadable : List (String × Json) → Prop
  | [] => True
  | (_, item) :: fields => Readable item ∧ FieldsReadable fields

end

theorem itemsReadable_iff : ItemsReadable items ↔ ∀ item ∈ items, Readable item := by
  induction items with
  | nil => simp [ItemsReadable]
  | cons item items ih => rw [ItemsReadable, ih, List.forall_mem_cons]

mutual

/-- The texts in a value, and the names of its members. -/
def strings : Json → List String
  | str text => [text]
  | list items => itemStrings items
  | record fields => fieldStrings fields
  | _ => []

/-- The texts and names in the items of a list. -/
def itemStrings : List Json → List String
  | [] => []
  | item :: items => strings item ++ itemStrings items

/-- The names of members, and the texts and names in their values. -/
def fieldStrings : List (String × Json) → List String
  | [] => []
  | (key, item) :: fields => key :: (strings item ++ fieldStrings fields)

end

/-! ## Strings are spelled -/

theorem hexDigit?_digitChar : ∀ n < 16, Text.hexDigit? n.digitChar = some n := by
  decide

/-- The hexadecimal digits of a control character. -/
theorem isCodeUnit_hexPair {n : Nat} (h : n < 0x20) : IsCodeUnit ('0' :: '0' :: hexPair n) n := by
  have hhigh := hexDigit?_digitChar (n / 16) (by omega)
  have hlow := hexDigit?_digitChar (n % 16) (by omega)
  have hzero : Text.hexDigit? '0' = some 0 := hexDigit?_digitChar 0 (by decide)
  have hn : 16 * (n / 16) + n % 16 = n := by omega
  exact ⟨rfl, by simp [Text.ofHexDigits?, hexPair, hzero, hhigh, hlow, hn]⟩

/-- What is written for a character spells it. -/
theorem spells_escapeChar (c : Char) : Spells '"' (escapeChar c) c := by
  unfold escapeChar
  split_ifs with hquote hback hfeed hreturn htab hform hbackspace hcontrol
  · subst hquote; exact .short (by simp [escapes])
  · subst hback; exact .short (by simp [escapes])
  · subst hfeed; exact .short (by simp [escapes])
  · subst hreturn; exact .short (by simp [escapes])
  · subst htab; exact .short (by simp [escapes])
  · subst hform; exact .short (by simp [escapes])
  · subst hbackspace; exact .short (by simp [escapes])
  · exact .unit (isCodeUnit_hexPair hcontrol)
  · exact .plain hquote hback (Nat.not_lt.1 hcontrol)

theorem quoted_quoted (text : String) : Quoted '"' (quoted text) text := by
  refine ⟨text.toList.flatMap escapeChar, ?_, rfl⟩
  induction text.toList with
  | nil => exact .nil
  | cons c cs ih => exact .cons (spells_escapeChar c) ih

/-! ## Values without parts render themselves -/

/-- The numeral of an integer. -/
def Numeral.ofInt (n : Int) : Numeral where
  negative := decide (n < 0)
  whole := Decimal.digitText n.natAbs
  fraction := []
  exponent := none
  whole_areDigits := Decimal.areDigits_digitText _
  whole_ne_nil := Decimal.digitText_ne_nil _
  whole_eq_zero := fun h => by rw [eq_zero_of_head? h]; rfl
  fraction_areDigits := fun _ h => absurd h List.not_mem_nil

theorem Numeral.text_ofInt (n : Int) : (Numeral.ofInt n).text = integerText n := by
  unfold integerText
  by_cases h : n < 0 <;> simp [Numeral.text, Numeral.ofInt, h]

theorem Numeral.value_ofInt (n : Int) : (Numeral.ofInt n).value = .int n := by
  have hinteger : (Numeral.ofInt n).isInteger = true := rfl
  have hdigits : Decimal.ofDigits (Numeral.ofInt n).whole = n.natAbs := Decimal.ofDigits_digitText _
  have hnegative : (Numeral.ofInt n).negative = decide (n < 0) := rfl
  rw [Numeral.value, if_pos hinteger, hdigits, hnegative]
  congr 1
  split <;> rename_i h <;> simp only [decide_eq_true_eq] at h <;> omega

theorem renders_integerText {n : Int} (h : (Decimal.digitText n.natAbs).length ≤ maxDigits) :
    Renders literal (integerText n) (.value (.int n)) := by
  rw [← Numeral.text_ofInt, ← Numeral.value_ofInt]
  exact .numeral _ fun _ => h

theorem renders_floatText (x : Float) : Renders literal (floatText x) (.value (.float x)) := by
  cases h : Decimal.Value.ofFloat x with
  | nan =>
    obtain rfl := Decimal.eq_of_ofFloat_nan h
    simp only [floatText, h]
    exact .word (by simp [words])
  | infinite negative =>
    obtain rfl := Decimal.eq_of_ofFloat_infinite h
    simp only [floatText, h]
    cases negative
    · exact .word (by simp [words])
    · exact .word (by simp [words])
  | finite negative m q =>
    obtain ⟨n, htext, hvalue, hfits⟩ := exists_numeral_floatText h
    rw [← htext, ← hvalue]
    exact .numeral n hfits

/-- A value without parts renders itself. -/
theorem renders_scalarText (hstr : ∀ text ∈ json.strings, literal (quoted text) text) (h : Readable json)
    (hlist : json.items? = none) (hrecord : json.fields? = none) :
    Renders literal (scalarText json) (.value json) := by
  cases json with
  | list items => cases hlist
  | record fields => cases hrecord
  | float x => exact renders_floatText x
  | int n => exact renders_integerText h
  | str s => exact .str (hstr s (by simp [strings]))
  | null => exact .word (by simp [words])
  | bool b =>
    cases b
    · exact .word (by simp [words])
    · exact .word (by simp [words])

/-! ## Indented text -/

theorem isGap_newline (level : Nat) : IsGap (newline level) := by
  intro c hc
  rcases List.mem_cons.1 hc with rfl | hc
  · rfl
  · rw [List.eq_of_mem_replicate hc]
    rfl

/-- Members with names of their own, rendered one after the other, are those of a record. -/
theorem renders_record {gap cs : List Char} {fields : Fields} (hgap : IsGap gap) (hdistinct : fields.Distinct)
    (h : Renders literal cs (.members fields)) : Renders literal ('{' :: (gap ++ cs)) (.value (.record fields)) := by
  rw [← Fields.ofPairs_of_distinct hdistinct]
  exact .record hgap h

mutual

theorem renders_prettyChars (hstr : ∀ text, literal (quoted text) text) (level : Nat) : ∀ json : Json, Readable json →
    Renders literal (prettyChars level json) (.value json)
  | null, h | bool _, h | int _, h | float _, h | str _, h => renders_scalarText (fun text _ => hstr text) h rfl rfl
  | list [], _ => .emptyList isGap_nil
  | list (item :: items), h => by
    have hitem := renders_prettyChars hstr (level + 1) item h.1
    have hitems := renders_prettyItems hstr level items _ item hitem h.2
    simpa [prettyChars] using Renders.list (isGap_newline (level + 1)) hitems
  | record [], _ => .emptyRecord isGap_nil
  | record ((key, item) :: fields), h => by
    have hitem := renders_prettyChars hstr (level + 1) item h.2.1
    have hfields := renders_prettyFields hstr level fields _ key item hitem h.2.2
    simpa [prettyChars] using renders_record (isGap_newline (level + 1)) h.1 hfields

theorem renders_prettyItems (hstr : ∀ text, literal (quoted text) text) (level : Nat) : ∀ (items : List Json)
    (cs : List Char) (item : Json), Renders literal cs (.value item) → ItemsReadable items →
      Renders literal (cs ++ (prettyItems (level + 1) items ++ (newline level ++ [']']))) (.items (item :: items))
  | [], _, _, hitem, _ => .lastItem (isGap_newline level) hitem
  | next :: items, cs, item, hitem, h => by
    have hnext := renders_prettyChars hstr (level + 1) next h.1
    have hitems := renders_prettyItems hstr level items _ next hnext h.2
    simpa [prettyItems] using Renders.item isGap_nil (isGap_newline (level + 1)) hitem hitems

theorem renders_prettyFields (hstr : ∀ text, literal (quoted text) text) (level : Nat) :
    ∀ (fields : List (String × Json)) (cs : List Char) (key : String) (item : Json),
      Renders literal cs (.value item) → FieldsReadable fields → Renders literal
        (quoted key ++ ':' :: ' ' :: (cs ++ (prettyFields (level + 1) fields ++ (newline level ++ ['}']))))
        (.members ((key, item) :: fields))
  | [], _, key, _, hitem, _ => .lastMember isGap_nil isGap_blank (isGap_newline level) (hstr key) hitem
  | (name, next) :: fields, cs, key, item, hitem, h => by
    have hnext := renders_prettyChars hstr (level + 1) next h.1
    have hfields := renders_prettyFields hstr level fields _ name next hnext h.2
    simpa [prettyFields] using
      Renders.member isGap_nil isGap_blank isGap_nil (isGap_newline (level + 1)) (hstr key) hitem hfields

end

/-! ## Text on one line -/

mutual

theorem renders_lineChars : ∀ json : Json, Readable json → (∀ text ∈ json.strings, literal (quoted text) text) →
    Renders literal (lineChars json) (.value json)
  | null, h, hstr | bool _, h, hstr | int _, h, hstr | float _, h, hstr | str _, h, hstr =>
    renders_scalarText hstr h rfl rfl
  | list [], _, _ => .emptyList isGap_nil
  | list (item :: items), h, hstr => by
    rw [strings, itemStrings, List.forall_mem_append] at hstr
    have hitem := renders_lineChars item h.1 hstr.1
    have hitems := renders_lineItems items _ item hitem h.2 hstr.2
    simpa [lineChars] using Renders.list isGap_nil hitems
  | record [], _, _ => .emptyRecord isGap_nil
  | record ((key, item) :: fields), h, hstr => by
    rw [strings, fieldStrings, List.forall_mem_cons, List.forall_mem_append] at hstr
    have hitem := renders_lineChars item h.2.1 hstr.2.1
    have hfields := renders_lineFields fields _ key item hitem h.2.2 hstr.1 hstr.2.2
    simpa [lineChars] using renders_record isGap_nil h.1 hfields

theorem renders_lineItems : ∀ (items : List Json) (cs : List Char) (item : Json),
    Renders literal cs (.value item) → ItemsReadable items →
      (∀ text ∈ itemStrings items, literal (quoted text) text) →
      Renders literal (cs ++ (lineItems items ++ [']'])) (.items (item :: items))
  | [], _, _, hitem, _, _ => .lastItem isGap_nil hitem
  | next :: items, cs, item, hitem, h, hstr => by
    rw [itemStrings, List.forall_mem_append] at hstr
    have hnext := renders_lineChars next h.1 hstr.1
    have hitems := renders_lineItems items _ next hnext h.2 hstr.2
    simpa [lineItems] using Renders.item isGap_nil isGap_blank hitem hitems

theorem renders_lineFields : ∀ (fields : List (String × Json)) (cs : List Char) (key : String) (item : Json),
    Renders literal cs (.value item) → FieldsReadable fields → literal (quoted key) key →
      (∀ text ∈ fieldStrings fields, literal (quoted text) text) →
      Renders literal (quoted key ++ ':' :: ' ' :: (cs ++ (lineFields fields ++ ['}'])))
        (.members ((key, item) :: fields))
  | [], _, _, _, hitem, _, hkey, _ => .lastMember isGap_nil isGap_blank isGap_nil hkey hitem
  | (name, next) :: fields, cs, key, item, hitem, h, hkey, hstr => by
    rw [fieldStrings, List.forall_mem_cons, List.forall_mem_append] at hstr
    have hnext := renders_lineChars next h.1 hstr.2.1
    have hfields := renders_lineFields fields _ name next hnext h.2 hstr.1 hstr.2.2
    simpa [lineFields] using Renders.member isGap_nil isGap_blank isGap_nil isGap_blank hkey hitem hfields

end

/-- The text of a value, indented and with a line feed at its end, is read back. -/
theorem read_pretty (h : Readable json) : read (json.pretty ++ "\n") = .ok json := by
  have hread := read_of_renders readsString_of_quoted isGap_nil (isGap_newline 0)
    (renders_prettyChars quoted_quoted 0 json h)
  have htext : json.pretty ++ "\n" = String.ofList ([] ++ (prettyChars 0 json ++ newline 0)) := by
    rw [← String.toList_inj]
    simp [pretty, newline]
  rw [htext, hread]

end Json

end Runbook
