import Mathlib.Data.List.Basic
import Mathlib.Data.List.TakeWhile
import Runbook.Json.Reader

/-!
# Where strings begin and end

`Place.after` follows a text character by character and says whether it has come to the outside of all strings, to
the inside of one, or behind a backslash in one. It gives up where no JSON text goes on: at a control character in
a string, at an escape that is none, and outside strings at a backslash, a single quote or a backtick.

`Place.Leads` says that what is taken from the front of a text leads from one place to another. `TakesValue` says in
what ways the reader takes a value from the front of a text (`exists_takesValue_of_read`); each part of it takes
characters that lead from its place to the next, so a text that is read leads from the outside to the outside
(`after_of_read`).
-/

namespace Runbook

/-- What is read as a number in hexadecimal is digits alone. -/
theorem Text.hexDigit?_of_mem {cs : List Char} {n : Nat} (h : ofHexDigits? cs = some n) :
    ∀ c ∈ cs, ∃ d, hexDigit? c = some d := by
  obtain ⟨digits, hdigits, -⟩ := Option.map_eq_some_iff.1 h
  clear h
  induction cs generalizing digits with
  | nil => exact fun _ hc => absurd hc List.not_mem_nil
  | cons c cs ih =>
    simp only [List.mapM_cons, bind, Option.bind_eq_some_iff] at hdigits
    obtain ⟨d, hd, ds, hds, -⟩ := hdigits
    rw [List.forall_mem_cons]
    exact ⟨⟨d, hd⟩, ih ds hds⟩

namespace Json

theorem exists_of_map {ε α β : Type} {x : Except ε α} {f : α → β} {b : β} (h : x.map f = .ok b) :
    ∃ a, x = .ok a ∧ f a = b := by
  cases x with
  | error e => cases h
  | ok a => exact ⟨a, rfl, Except.ok.inj h⟩

/-- A place in a text: outside strings, inside one, or behind a backslash in one. -/
inductive Place where
  | outside
  | inside
  | escaped
  deriving DecidableEq, Repr

namespace Place

/-- The place after one more character; nothing if no text goes on like that. -/
def next : Place → Char → Option Place
  | outside, c =>
    if c = '"' then some inside
    else if c = '\'' || c = '\\' || c = '`' then none
    else some outside
  | inside, c =>
    if c = '"' then some outside
    else if c = '\\' then some escaped
    else if c.toNat < 0x20 then none
    else some inside
  | escaped, c => if c ∈ ['"', '\\', '/', 'b', 'f', 'n', 'r', 't', 'u'] then some inside else none

/-- The place at the end of a text. -/
def after (place : Place) (cs : List Char) : Option Place :=
  cs.foldlM next place

theorem after_cons (place : Place) (c : Char) (cs : List Char) :
    place.after (c :: cs) = (place.next c).bind fun place => place.after cs :=
  List.foldlM_cons

theorem after_append (place : Place) (cs ds : List Char) :
    place.after (cs ++ ds) = (place.after cs).bind fun place => place.after ds :=
  List.foldlM_append

/-- Do the characters before `rest` lead from one place to another? -/
def Leads (place : Place) (cs : List Char) (place' : Place) (rest : List Char) : Prop :=
  ∃ consumed, cs = consumed ++ rest ∧ place.after consumed = some place'

variable {cs ds rest start whole : List Char} {c : Char} {place place' place'' : Place} {fuel : Nat}

theorem Leads.refl (place : Place) (cs : List Char) : Leads place cs place cs :=
  ⟨[], rfl, rfl⟩

theorem Leads.trans (h : Leads place cs place' ds) (h' : Leads place' ds place'' rest) : Leads place cs place'' rest := by
  obtain ⟨consumed, rfl, hafter⟩ := h
  obtain ⟨more, rfl, hafter'⟩ := h'
  exact ⟨consumed ++ more, by simp, by rw [after_append, hafter, Option.bind_some, hafter']⟩

theorem leads_cons (h : place.next c = some place') (cs : List Char) : Leads place (c :: cs) place' cs :=
  ⟨[c], rfl, by rw [after_cons, h]; rfl⟩

/-- Characters that do not lead elsewhere. -/
theorem leads_of_stays (h : ∀ c ∈ cs, place.next c = some place) (rest : List Char) :
    Leads place (cs ++ rest) place rest := by
  induction cs with
  | nil => exact .refl place rest
  | cons c cs ih =>
    rw [List.forall_mem_cons] at h
    exact (leads_cons h.1 _).trans (ih h.2)

theorem leads_dropWhile {p : Char → Bool} (h : ∀ c, p c = true → place.next c = some place) (cs : List Char) :
    Leads place cs place (cs.dropWhile p) := by
  conv => enter [2]; rw [← List.takeWhile_append_dropWhile (p := p) (l := cs)]
  exact leads_of_stays (fun c hc => h c (List.mem_takeWhile_imp hc)) _

/-! ## Strings -/

theorem next_inside_of_hexDigit {n : Nat} (h : Text.hexDigit? c = some n) : inside.next c = some inside := by
  have hne (d : Char) (hd : Text.hexDigit? d = none) : c ≠ d := by
    rintro rfl
    rw [hd] at h
    cases h
  have hcontrol : ¬ c.toNat < 0x20 := by
    intro hlt
    have hnone : ∀ n < 0x20, Text.hexDigit? (Char.ofNat n) = none := by decide
    have hc := hnone c.toNat hlt
    rw [Char.ofNat_toNat, h] at hc
    cases hc
  rw [next, if_neg (hne '"' rfl), if_neg (hne '\\' rfl), if_neg hcontrol]

/-- Four digits of an escape do not lead out of the string. -/
theorem leads_codeUnit {n : Nat} (h : codeUnit ('u' :: cs) = .ok n) : Leads inside cs inside (cs.drop 4) := by
  have hdigits : ∃ k, Text.ofHexDigits? (cs.take 4) = some k := by
    simp only [codeUnit, List.drop_one, List.tail_cons] at h
    split at h
    · rename_i k hk
      exact ⟨k, hk⟩
    · cases h
  obtain ⟨k, hk⟩ := hdigits
  conv => enter [2]; rw [← List.take_append_drop 4 cs]
  refine leads_of_stays (fun c hc => ?_) _
  obtain ⟨d, hd⟩ := Text.hexDigit?_of_mem hk c hc
  exact next_inside_of_hexDigit hd

theorem leads_unicodeEscape {taken : Nat} (h : unicodeEscape ('u' :: cs) = .ok (c, taken)) :
    Leads inside cs inside (('u' :: cs).drop taken) := by
  unfold unicodeEscape at h
  cases hunit : codeUnit ('u' :: cs) with
  | error e => rw [hunit] at h; cases h
  | ok unit =>
    have hone : taken = 5 → Leads inside cs inside (('u' :: cs).drop taken) := by
      rintro rfl
      exact leads_codeUnit hunit
    simp only [hunit, bind, Except.bind, List.drop_succ_cons] at h
    split at h
    · rename_i more hmore
      split at h
      · cases hsecond : codeUnit ('u' :: more) with
        | error e => rw [hsecond] at h; cases h
        | ok second =>
          rw [hsecond] at h
          dsimp only at h
          split at h
          · obtain ⟨-, rfl⟩ := Prod.mk.inj (Except.ok.inj h)
            have hdrop : ('u' :: cs).drop 11 = more.drop 4 := by
              rw [List.drop_succ_cons, show 10 = 4 + 6 from rfl, ← List.drop_drop, hmore]
              rfl
            have hfirst : Leads inside cs inside ('\\' :: 'u' :: more) := hmore ▸ leads_codeUnit hunit
            have hescape : Leads inside ('\\' :: 'u' :: more) inside more := ⟨['\\', 'u'], rfl, by decide⟩
            rw [hdrop]
            exact (hfirst.trans hescape).trans (leads_codeUnit hsecond)
          · exact hone (Prod.mk.inj (Except.ok.inj h)).2.symm
      · exact hone (Prod.mk.inj (Except.ok.inj h)).2.symm
    · exact hone (Prod.mk.inj (Except.ok.inj h)).2.symm

/-- An escape leads back into the string. -/
theorem leads_escape {taken : Nat} (h : escape start whole cs = .ok (c, taken)) :
    Leads escaped cs inside (cs.drop taken) := by
  unfold escape at h
  split at h
  all_goals first
    | cases h
      done
    | obtain ⟨-, rfl⟩ := Prod.mk.inj (Except.ok.inj h)
      exact leads_cons (by decide) _
    | exact (leads_cons (by decide) _).trans (leads_unicodeEscape h)

/-- A string that is read leads to the outside. -/
theorem leads_stringTail {skip : Nat} {text : List Char} (h : stringTail start skip cs = .ok (text, rest)) :
    Leads inside (cs.drop skip) outside rest := by
  induction cs generalizing skip text with
  | nil => cases skip <;> cases h
  | cons c cs ih =>
    cases skip with
    | succ skip => exact ih h
    | zero =>
      rw [List.drop_zero]
      simp only [stringTail] at h
      split_ifs at h with hquote hescape hcontrol
      · obtain ⟨-, rfl⟩ := Prod.mk.inj (Except.ok.inj h)
        rw [hquote]
        exact leads_cons rfl _
      · subst hescape
        split at h
        · cases h
        · rename_i meant taken hmeant
          obtain ⟨⟨tail, after⟩, htail, hpair⟩ := exists_of_map h
          obtain ⟨-, rfl⟩ := Prod.mk.inj hpair
          exact ((leads_cons rfl _).trans (leads_escape hmeant)).trans (ih htail)
      · obtain ⟨⟨tail, after⟩, htail, hpair⟩ := exists_of_map h
        obtain ⟨-, rfl⟩ := Prod.mk.inj hpair
        have hnext : inside.next c = some inside := by
          rw [next, if_neg hquote, if_neg hescape, if_neg hcontrol]
        exact (leads_cons hnext _).trans (ih htail)

theorem leads_string {text : String} (h : string cs = .ok (text, rest)) : Leads inside cs outside rest := by
  obtain ⟨⟨tail, after⟩, htail, hpair⟩ := exists_of_map h
  obtain ⟨-, rfl⟩ := Prod.mk.inj hpair
  exact leads_stringTail htail

/-! ## Numbers -/

theorem next_outside_of_isDigit (h : Decimal.isDigit c = true) : outside.next c = some outside := by
  have hne (d : Char) (hd : Decimal.isDigit d = false) : c ≠ d := by
    rintro rfl
    rw [hd] at h
    cases h
  rw [next, if_neg (hne '"' rfl), if_neg]
  simp only [Bool.or_eq_true, decide_eq_true_eq, not_or]
  exact ⟨⟨hne '\'' rfl, hne '\\' rfl⟩, hne '`' rfl⟩

theorem next_outside_of_isSpace (h : isSpace c = true) : outside.next c = some outside := by
  simp only [isSpace, Bool.or_eq_true, beq_iff_eq] at h
  obtain ((rfl | rfl) | rfl) | rfl := h <;> rfl

theorem leads_skipSpace (cs : List Char) : Leads outside cs outside (skipSpace cs) :=
  leads_dropWhile (fun _ => next_outside_of_isSpace) cs

theorem leads_digits (cs : List Char) : Leads outside cs outside (cs.dropWhile Decimal.isDigit) :=
  leads_dropWhile (fun _ => next_outside_of_isDigit) cs

theorem leads_wholeDigits (cs : List Char) : Leads outside cs outside (wholeDigits cs).2 := by
  unfold wholeDigits
  split
  · exact leads_cons rfl _
  · exact leads_digits cs

theorem leads_fractionDigits (cs : List Char) : Leads outside cs outside (fractionDigits cs).2 := by
  unfold fractionDigits
  split
  · split
    · exact .refl _ _
    · exact (leads_cons rfl _).trans (leads_digits _)
  · exact .refl _ _

theorem leads_splitSign (cs : List Char) : Leads outside cs outside (Decimal.splitSign cs).2 := by
  unfold Decimal.splitSign
  split
  · exact leads_cons rfl _
  · exact leads_cons rfl _
  · exact .refl _ _

theorem leads_exponentPart (cs : List Char) : Leads outside cs outside (exponentPart cs).2 := by
  unfold exponentPart
  split
  · rename_i c cs
    dsimp only
    split
    · rename_i hletter
      have hc : outside.next c = some outside := by
        simp only [Bool.and_eq_true, Bool.or_eq_true, beq_iff_eq] at hletter
        obtain rfl | rfl := hletter.1 <;> rfl
      exact ((leads_cons hc _).trans (leads_splitSign cs)).trans (leads_digits _)
    · exact .refl _ _
  · exact .refl _ _

end Place

/-- What comes after a minus sign, or the whole text. -/
def unsigned : List Char → List Char
  | '-' :: cs => cs
  | cs => cs

/-- What is left of a text after the number at its front. -/
def afterNumber (cs : List Char) : List Char :=
  (exponentPart (fractionDigits (wholeDigits (unsigned cs)).2).2).2

/-- What can come of reading a number: whatever it is, the same is left of the text. -/
inductive NumberRead (cs : List Char) : Reading Json → Prop where
  | noDigits : NumberRead cs (.error ⟨.expectingValue, cs⟩)
  | tooLong (long : maxDigits < (wholeDigits (unsigned cs)).1.length) :
      NumberRead cs (.error ⟨.integerTooLong (wholeDigits (unsigned cs)).1.length, cs⟩)
  | integer {n : Int} (nonempty : (wholeDigits (unsigned cs)).1 ≠ [])
      (fits : (wholeDigits (unsigned cs)).1.length ≤ maxDigits)
      (digits : n.natAbs = Decimal.ofDigits (wholeDigits (unsigned cs)).1) :
      NumberRead cs (.ok (.int n, afterNumber cs))
  | decimal (x : Float) : NumberRead cs (.ok (.float x, afterNumber cs))

theorem numberRead (cs : List Char) : NumberRead cs (number cs) := by
  have hunsigned : (match cs with
      | '-' :: ds => (true, ds)
      | ds => (false, ds)).2 = unsigned cs := by
    unfold unsigned
    split <;> rfl
  unfold number
  split
  rename_i negative body hsign
  obtain rfl : body = unsigned cs := (congrArg Prod.snd hsign).symm.trans hunsigned
  dsimp only
  split
  · exact .noDigits
  · rename_i hne
    split
    · split
      · exact .tooLong ‹_›
      · rename_i hmax
        refine .integer (by simpa using hne) (Nat.not_lt.1 hmax) ?_
        cases negative
        · exact Int.natAbs_natCast _
        · exact (Int.natAbs_neg _).trans (Int.natAbs_natCast _)
    · exact .decimal _

namespace Place

theorem leads_unsigned (cs : List Char) : Leads outside cs outside (unsigned cs) := by
  unfold unsigned
  split
  · exact leads_cons rfl _
  · exact .refl _ _

theorem leads_afterNumber (cs : List Char) : Leads outside cs outside (afterNumber cs) :=
  ((leads_unsigned cs).trans (leads_wholeDigits _)).trans
    ((leads_fractionDigits _).trans (leads_exponentPart _))

theorem leads_number {json : Json} (h : number cs = .ok (json, rest)) : Leads outside cs outside rest := by
  have hread := numberRead cs
  rw [h] at hread
  cases hread with
  | integer | decimal => exact leads_afterNumber cs

end Place

/-! ## Values -/

mutual

/-- A value is read from the front of a text, and what comes after it is left. -/
inductive TakesValue : List Char → Json → List Char → Prop where
  | string {cs rest : List Char} {text : String} (body : Json.string cs = .ok (text, rest)) :
      TakesValue ('"' :: cs) (.str text) rest
  | emptyRecord {cs rest : List Char} (closes : skipSpace cs = '}' :: rest) :
      TakesValue ('{' :: cs) (.record []) rest
  | record {cs rest : List Char} {fields : List (String × Json)} (body : TakesMembers (skipSpace cs) fields rest) :
      TakesValue ('{' :: cs) (.record (Fields.ofPairs fields)) rest
  | emptyList {cs rest : List Char} (closes : skipSpace cs = ']' :: rest) : TakesValue ('[' :: cs) (.list []) rest
  | list {cs rest : List Char} {items : List Json} (body : TakesElements (skipSpace cs) items rest) :
      TakesValue ('[' :: cs) (.list items) rest
  | null (rest : List Char) : TakesValue ('n' :: 'u' :: 'l' :: 'l' :: rest) .null rest
  | true (rest : List Char) : TakesValue ('t' :: 'r' :: 'u' :: 'e' :: rest) (.bool true) rest
  | false (rest : List Char) : TakesValue ('f' :: 'a' :: 'l' :: 's' :: 'e' :: rest) (.bool false) rest
  | nan (rest : List Char) : TakesValue ('N' :: 'a' :: 'N' :: rest) (.float (0.0 / 0.0)) rest
  | infinity (rest : List Char) :
      TakesValue ('I' :: 'n' :: 'f' :: 'i' :: 'n' :: 'i' :: 't' :: 'y' :: rest) (.float (1.0 / 0.0)) rest
  | negativeInfinity (rest : List Char) :
      TakesValue ('-' :: 'I' :: 'n' :: 'f' :: 'i' :: 'n' :: 'i' :: 't' :: 'y' :: rest) (.float (-1.0 / 0.0)) rest
  | number {cs rest : List Char} {json : Json} (h : Json.number cs = .ok (json, rest)) : TakesValue cs json rest

/-- The items of a list are read up to the closing bracket. -/
inductive TakesElements : List Char → List Json → List Char → Prop where
  | last {cs after rest : List Char} {item : Json} (head : TakesValue cs item after)
      (closes : skipSpace after = ']' :: rest) : TakesElements cs [item] rest
  | more {cs after others rest : List Char} {item : Json} {items : List Json} (head : TakesValue cs item after)
      (comma : skipSpace after = ',' :: others) (tail : TakesElements (skipSpace others) items rest) :
      TakesElements cs (item :: items) rest

/-- The members of a record are read up to the closing brace. -/
inductive TakesMembers : List Char → List (String × Json) → List Char → Prop where
  | last {cs afterName body after rest : List Char} {name : String} {item : Json}
      (key : Json.string cs = .ok (name, afterName)) (colon : skipSpace afterName = ':' :: body)
      (head : TakesValue (skipSpace body) item after) (closes : skipSpace after = '}' :: rest) :
      TakesMembers ('"' :: cs) [(name, item)] rest
  | more {cs afterName body after others rest : List Char} {name : String} {item : Json}
      {fields : List (String × Json)} (key : Json.string cs = .ok (name, afterName))
      (colon : skipSpace afterName = ':' :: body) (head : TakesValue (skipSpace body) item after)
      (comma : skipSpace after = ',' :: others) (tail : TakesMembers (skipSpace others) fields rest) :
      TakesMembers ('"' :: cs) ((name, item) :: fields) rest

end

section

variable {cs rest : List Char} {json : Json} {items : List Json} {fields : List (String × Json)} {fuel : Nat}

/-- Is what is read with some fuel taken from the front of the text? -/
structure Takes (fuel : Nat) : Prop where
  value : ∀ ⦃cs rest : List Char⦄ ⦃json : Json⦄, value fuel cs = .ok (json, rest) → TakesValue cs json rest
  elements : ∀ ⦃cs rest : List Char⦄ ⦃items : List Json⦄, elements fuel cs = .ok (items, rest) →
    TakesElements cs items rest
  members : ∀ ⦃cs rest : List Char⦄ ⦃fields : List (String × Json)⦄, members fuel cs = .ok (fields, rest) →
    TakesMembers cs fields rest

theorem Takes.succ_value (h : Takes fuel) (hvalue : Json.value (fuel + 1) cs = .ok (json, rest)) :
    TakesValue cs json rest := by
  unfold Json.value at hvalue
  split at hvalue
  · obtain ⟨⟨text, after⟩, htext, hpair⟩ := exists_of_map hvalue
    obtain ⟨rfl, rfl⟩ := Prod.mk.inj hpair
    exact .string htext
  · split at hvalue
    · rename_i hcloses
      obtain ⟨rfl, rfl⟩ := Prod.mk.inj (Except.ok.inj hvalue)
      exact .emptyRecord hcloses
    · obtain ⟨⟨fields, after⟩, hfields, hpair⟩ := exists_of_map hvalue
      obtain ⟨rfl, rfl⟩ := Prod.mk.inj hpair
      exact .record (h.members hfields)
  · split at hvalue
    · rename_i hcloses
      obtain ⟨rfl, rfl⟩ := Prod.mk.inj (Except.ok.inj hvalue)
      exact .emptyList hcloses
    · obtain ⟨⟨items, after⟩, hitems, hpair⟩ := exists_of_map hvalue
      obtain ⟨rfl, rfl⟩ := Prod.mk.inj hpair
      exact .list (h.elements hitems)
  -- the words
  iterate 6
    · obtain ⟨rfl, rfl⟩ := Prod.mk.inj (Except.ok.inj hvalue)
      constructor
  · exact .number hvalue

theorem Takes.succ_elements (h : Takes fuel) (helements : Json.elements (fuel + 1) cs = .ok (items, rest)) :
    TakesElements cs items rest := by
  unfold Json.elements at helements
  split at helements
  · cases helements
  · rename_i hitem
    split at helements
    · rename_i hcloses
      obtain ⟨rfl, rfl⟩ := Prod.mk.inj (Except.ok.inj helements)
      exact .last (h.value hitem) hcloses
    · rename_i hcomma
      obtain ⟨⟨items, after⟩, hitems, hpair⟩ := exists_of_map helements
      obtain ⟨rfl, rfl⟩ := Prod.mk.inj hpair
      exact .more (h.value hitem) hcomma (h.elements hitems)
    · cases helements

theorem Takes.succ_members (h : Takes fuel) (hmembers : Json.members (fuel + 1) cs = .ok (fields, rest)) :
    TakesMembers cs fields rest := by
  unfold Json.members at hmembers
  split at hmembers
  · split at hmembers
    · cases hmembers
    · rename_i hname
      split at hmembers
      · rename_i hcolon
        split at hmembers
        · cases hmembers
        · rename_i hitem
          split at hmembers
          · rename_i hcloses
            obtain ⟨rfl, rfl⟩ := Prod.mk.inj (Except.ok.inj hmembers)
            exact .last hname hcolon (h.value hitem) hcloses
          · rename_i hcomma
            obtain ⟨⟨fields, after⟩, hfields, hpair⟩ := exists_of_map hmembers
            obtain ⟨rfl, rfl⟩ := Prod.mk.inj hpair
            exact .more hname hcolon (h.value hitem) hcomma (h.members hfields)
          · cases hmembers
      · cases hmembers
  · cases hmembers

/-- Nothing else is read, whatever the fuel. -/
theorem takes (fuel : Nat) : Takes fuel := by
  induction fuel with
  | zero =>
    refine ⟨?_, ?_, ?_⟩
    · rintro cs rest json ⟨⟩
    · rintro cs rest items ⟨⟩
    · rintro cs rest fields ⟨⟩
  | succ fuel ih => exact ⟨fun _ _ _ => ih.succ_value, fun _ _ _ => ih.succ_elements, fun _ _ _ => ih.succ_members⟩

/-- A text that is read is a value with space before and after it. -/
theorem exists_takesValue_of_read {text : String} (h : read text = .ok json) :
    ∃ rest, TakesValue (skipSpace text.toList) json rest ∧ skipSpace rest = [] := by
  have hchars : readChars text.toList = .ok json := by
    unfold read at h
    cases hread : readChars text.toList with
    | error e => rw [hread] at h; cases h
    | ok value =>
      rw [hread] at h
      exact congrArg _ (Except.ok.inj h)
  unfold readChars at hchars
  split at hchars
  · cases hchars
  · cases hvalue : value (2 * text.toList.length + 2) (skipSpace text.toList) with
    | error e => rw [hvalue] at hchars; cases hchars
    | ok pair =>
      obtain ⟨value, rest⟩ := pair
      rw [hvalue] at hchars
      simp only [bind, Except.bind] at hchars
      split at hchars
      · rename_i hrest
        obtain rfl := Except.ok.inj hchars
        exact ⟨rest, (takes _).value hvalue, hrest⟩
      · cases hchars

end

namespace Place

/-- Space and one more character. -/
theorem leads_of_skipSpace (h : skipSpace cs = c :: ds) (hc : outside.next c = some place) :
    Leads outside cs place ds := by
  have hspace := leads_skipSpace cs
  rw [h] at hspace
  exact hspace.trans (leads_cons hc ds)

/-- Space, one more character, and space again. -/
theorem leads_between (h : skipSpace cs = c :: ds) (hc : outside.next c = some outside) :
    Leads outside cs outside (skipSpace ds) :=
  (leads_of_skipSpace h hc).trans (leads_skipSpace ds)

end Place

/-! ## What is read leads to the outside -/

section

open Place

mutual

theorem TakesValue.leads : ∀ {cs rest : List Char} {json : Json}, TakesValue cs json rest →
    Leads outside cs outside rest
  | _, _, _, .string body => (leads_cons rfl _).trans (leads_string body)
  | _, _, _, .emptyRecord closes => (leads_cons rfl _).trans (leads_of_skipSpace closes rfl)
  | _, _, _, .record body => ((leads_cons rfl _).trans (leads_skipSpace _)).trans body.leads
  | _, _, _, .emptyList closes => (leads_cons rfl _).trans (leads_of_skipSpace closes rfl)
  | _, _, _, .list body => ((leads_cons rfl _).trans (leads_skipSpace _)).trans body.leads
  | _, _, _, .null rest => ⟨['n', 'u', 'l', 'l'], rfl, rfl⟩
  | _, _, _, .true rest => ⟨['t', 'r', 'u', 'e'], rfl, rfl⟩
  | _, _, _, .false rest => ⟨['f', 'a', 'l', 's', 'e'], rfl, rfl⟩
  | _, _, _, .nan rest => ⟨['N', 'a', 'N'], rfl, rfl⟩
  | _, _, _, .infinity rest => ⟨['I', 'n', 'f', 'i', 'n', 'i', 't', 'y'], rfl, rfl⟩
  | _, _, _, .negativeInfinity rest => ⟨['-', 'I', 'n', 'f', 'i', 'n', 'i', 't', 'y'], rfl, rfl⟩
  | _, _, _, .number h => leads_number h

theorem TakesElements.leads : ∀ {cs rest : List Char} {items : List Json}, TakesElements cs items rest →
    Leads outside cs outside rest
  | _, _, _, .last head closes => head.leads.trans (leads_of_skipSpace closes rfl)
  | _, _, _, .more head comma tail => (head.leads.trans (leads_between comma rfl)).trans tail.leads

theorem TakesMembers.leads : ∀ {cs rest : List Char} {fields : List (String × Json)}, TakesMembers cs fields rest →
    Leads outside cs outside rest
  | _, _, _, .last key colon head closes =>
    ((((leads_cons rfl _).trans (leads_string key)).trans (leads_between colon rfl)).trans head.leads).trans
      (leads_of_skipSpace closes rfl)
  | _, _, _, .more key colon head comma tail =>
    (((((leads_cons rfl _).trans (leads_string key)).trans (leads_between colon rfl)).trans head.leads).trans
      (leads_between comma rfl)).trans tail.leads

end

end

/-- A text that is read ends outside all strings. -/
theorem Place.after_of_read {text : String} {json : Json} (h : read text = .ok json) :
    outside.after text.toList = some outside := by
  obtain ⟨rest, htaken, hrest⟩ := exists_takesValue_of_read h
  have hspace := leads_skipSpace rest
  rw [hrest] at hspace
  obtain ⟨consumed, hconsumed, hafter⟩ := ((leads_skipSpace _).trans htaken.leads).trans hspace
  rw [hconsumed, List.append_nil, hafter]

end Json

end Runbook
