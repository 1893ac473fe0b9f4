import Runbook.Proofs.Json.Rendering

/-!
# How strings are spelled

Between quotes a character stands for itself or is escaped, and `Spells quote cs c` says what characters `cs` may
stand for `c`: a letter after a backslash, the hexadecimal digits of its code, or of the two halves of a surrogate
pair. A quote of the other kind stands for itself, and between single quotes so does an escaped single quote.

`Quoted quote cs text` puts the spelled characters of a text between quotes. Between double quotes this is the
string literal of JSON, and every such literal is read as its text (`readsString_of_quoted`).
-/

namespace Runbook.Json

/-- Four hexadecimal digits and the number that they write. -/
structure IsCodeUnit (cs : List Char) (n : Nat) : Prop where
  length_eq : cs.length = 4
  value_eq : Text.ofHexDigits? cs = some n

/-- The letters that stand for a character when they are escaped, and the characters. -/
def escapes : List (Char × Char) :=
  [('"', '"'), ('\\', '\\'), ('/', '/'), ('b', '\x08'), ('f', '\x0c'), ('n', '\n'), ('r', '\r'), ('t', '\t')]

/-- Do characters stand for a character between quotes of a kind? -/
inductive Spells (quote : Char) : List Char → Char → Prop
  | plain {c : Char} (hquote : c ≠ quote) (hescape : c ≠ '\\') (hcontrol : 0x20 ≤ c.toNat) : Spells quote [c] c
  | short {letter c : Char} (h : (letter, c) ∈ escapes) : Spells quote ['\\', letter] c
  | single (h : quote = '\'') : Spells quote ['\\', '\''] '\''
  | unit {digits : List Char} {c : Char} (h : IsCodeUnit digits c.toNat) : Spells quote ('\\' :: 'u' :: digits) c
  | pair {digits digits' : List Char} {high low : Nat} {c : Char} (hdigits : IsCodeUnit digits high)
      (hdigits' : IsCodeUnit digits' low) (hhigh : 0xD800 ≤ high ∧ high ≤ 0xDBFF)
      (hlow : 0xDC00 ≤ low ∧ low ≤ 0xDFFF) (hc : c.toNat = 0x10000 + (high - 0xD800) * 0x400 + (low - 0xDC00)) :
      Spells quote ('\\' :: 'u' :: (digits ++ '\\' :: 'u' :: digits')) c

/-- Do characters stand for those of a text, one after the other? -/
inductive SpellsText (quote : Char) : List Char → List Char → Prop
  | nil : SpellsText quote [] []
  | cons {cs ds text : List Char} {c : Char} (h : Spells quote cs c) (hrest : SpellsText quote ds text) :
      SpellsText quote (cs ++ ds) (c :: text)

/-- A text, spelled between quotes of a kind. -/
def Quoted (quote : Char) (cs : List Char) (text : String) : Prop :=
  ∃ body, SpellsText quote body text.toList ∧ cs = quote :: (body ++ [quote])

variable {cs ds digits rest start : List Char} {c : Char} {n : Nat}

/-! ## Codes of characters -/

theorem codeUnit_append (h : IsCodeUnit digits n) (hne : rest ≠ []) : codeUnit ('u' :: (digits ++ rest)) = .ok n := by
  have htake : (('u' :: (digits ++ rest)).drop 1).take 4 = digits := by
    rw [List.drop_one, List.tail_cons, ← h.length_eq, List.take_left']
    rfl
  have hlength : 5 < ('u' :: (digits ++ rest)).length := by
    rw [List.length_cons, List.length_append, h.length_eq]
    have := List.length_pos_iff.2 hne
    omega
  rw [codeUnit, htake, h.value_eq]
  exact if_pos hlength

/-- No character has the code of half a surrogate pair. -/
theorem not_surrogate (c : Char) : ¬ (0xD800 ≤ c.toNat ∧ c.toNat ≤ 0xDFFF) := by
  have hvalid := c.valid
  rintro ⟨hlow, hhigh⟩
  rcases hvalid with h | h
  · exact absurd hlow (Nat.not_le.2 h)
  · exact absurd hhigh (Nat.not_le.2 h.1)

theorem ofCodeUnit_toNat (c : Char) : ofCodeUnit c.toNat = c := by
  have h := not_surrogate c
  simp [ofCodeUnit, h]

theorem drop_codeUnit (h : IsCodeUnit digits n) (rest : List Char) : ('u' :: (digits ++ rest)).drop 5 = rest := by
  rw [List.drop_succ_cons, ← h.length_eq, List.drop_left]

/-- A character is read from the digits of its code. -/
theorem unicodeEscape_unit (h : IsCodeUnit digits c.toNat) (hne : rest ≠ []) :
    unicodeEscape ('u' :: (digits ++ rest)) = .ok (c, 5) := by
  have hsurrogate := not_surrogate c
  simp only [unicodeEscape, codeUnit_append h hne, drop_codeUnit h, bind, Except.bind]
  split
  · rw [if_neg, ofCodeUnit_toNat]
    · rfl
    · simp only [Bool.and_eq_true, decide_eq_true_eq, not_and]
      omega
  · rw [ofCodeUnit_toNat]
    rfl

/-- A character is read from the digits of a surrogate pair. -/
theorem unicodeEscape_pair {digits' : List Char} {high low : Nat} (h : IsCodeUnit digits high)
    (h' : IsCodeUnit digits' low) (hhigh : 0xD800 ≤ high ∧ high ≤ 0xDBFF) (hlow : 0xDC00 ≤ low ∧ low ≤ 0xDFFF)
    (hc : c.toNat = 0x10000 + (high - 0xD800) * 0x400 + (low - 0xDC00)) (hne : rest ≠ []) :
    unicodeEscape ('u' :: (digits ++ '\\' :: 'u' :: (digits' ++ rest))) = .ok (c, 11) := by
  have hlong : 4 < (digits' ++ rest).length := by
    rw [List.length_append, h'.length_eq]
    have := List.length_pos_iff.2 hne
    omega
  have hchar : Char.ofNat (0x10000 + (high - 0xD800) * 0x400 + (low - 0xDC00)) = c := by
    rw [← hc, Char.ofNat_toNat]
  simp [unicodeEscape, codeUnit_append h (List.cons_ne_nil _ _), drop_codeUnit h, codeUnit_append h' hne, hhigh, hlow,
    hlong, hchar, bind, Except.bind, pure, Except.pure, -List.length_append]

/-! ## Characters and texts are read -/

theorem escape_short (whole : List Char) {letter : Char} (h : (letter, c) ∈ escapes) :
    escape start whole (letter :: rest) = .ok (c, 1) := by
  simp only [escapes, List.mem_cons, Prod.mk.injEq, List.not_mem_nil, or_false] at h
  obtain ⟨rfl, rfl⟩ | ⟨rfl, rfl⟩ | ⟨rfl, rfl⟩ | ⟨rfl, rfl⟩ | ⟨rfl, rfl⟩ | ⟨rfl, rfl⟩ | ⟨rfl, rfl⟩ | ⟨rfl, rfl⟩ := h
  all_goals rfl

theorem stringTail_skip (start cs rest : List Char) :
    stringTail start cs.length (cs ++ rest) = stringTail start 0 rest := by
  induction cs with
  | nil => rfl
  | cons c cs ih => rw [List.length_cons, List.cons_append, stringTail, ih]

/-- A character is read from what stands for it between double quotes. -/
theorem stringTail_spells (start : List Char) (h : Spells '"' cs c) (hne : rest ≠ []) :
    stringTail start 0 (cs ++ rest) = (stringTail start 0 rest).map fun (text, rest) => (c :: text, rest) := by
  cases h with
  | plain hquote hescape hcontrol =>
    simp only [List.singleton_append, stringTail, if_neg hquote, if_neg hescape, if_neg (Nat.not_lt.2 hcontrol)]
  | short h =>
    simp only [List.cons_append, List.nil_append, stringTail, escape_short _ h]
    rfl
  | single h => exact absurd h (by decide)
  | @unit digits _ h =>
    have hescape : escape start ('\\' :: 'u' :: (digits ++ rest)) ('u' :: (digits ++ rest)) = .ok (c, 5) :=
      unicodeEscape_unit h hne
    have hskip := stringTail_skip start ('u' :: digits) rest
    rw [List.length_cons, h.length_eq, List.cons_append] at hskip
    simp only [List.cons_append, stringTail, hescape]
    rw [← stringTail, hskip]
    rfl
  | @pair digits digits' high low _ h h' hhigh hlow hc =>
    have hescape : escape start ('\\' :: 'u' :: (digits ++ '\\' :: 'u' :: (digits' ++ rest)))
        ('u' :: (digits ++ '\\' :: 'u' :: (digits' ++ rest))) = .ok (c, 11) :=
      unicodeEscape_pair h h' hhigh hlow hc hne
    have hskip := stringTail_skip start ('u' :: (digits ++ '\\' :: 'u' :: digits')) rest
    simp only [List.length_cons, List.length_append, h.length_eq, h'.length_eq, List.cons_append,
      List.append_assoc] at hskip
    simp only [List.cons_append, List.append_assoc, stringTail, hescape]
    rw [← stringTail, hskip]
    rfl

theorem stringTail_spellsText (start rest : List Char) {text : List Char} (h : SpellsText '"' cs text) :
    stringTail start 0 (cs ++ '"' :: rest) = .ok (text, rest) := by
  induction h with
  | nil => rfl
  | cons h _ ih =>
    rw [List.append_assoc, stringTail_spells start h (by simp), ih]
    rfl

/-- A text in double quotes is read, whatever follows. -/
theorem readsString_of_quoted (cs : List Char) (text : String) (h : Quoted '"' cs text) : ReadsString cs text := by
  obtain ⟨body, hbody, rfl⟩ := h
  refine ⟨body ++ ['"'], rfl, fun rest => ?_⟩
  rw [List.append_assoc, List.singleton_append, string, stringTail_spellsText _ rest hbody]
  simp [Except.map]

end Runbook.Json
