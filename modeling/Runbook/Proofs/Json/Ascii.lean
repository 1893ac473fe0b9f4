import Runbook.Json.Display
import Runbook.Proofs.Json.Pass
import Runbook.Proofs.Json.RoundTrip

/-!
# JSON text in ASCII is read back

What is escaped for the sake of ASCII stands for the same characters (`quoted_asciiQuoted`), so the text of a value
in ASCII renders it as the text on one line does (`renders_ascii`), and is read back (`read_ascii`).
-/

namespace Runbook.Json

variable {cs : List Char} {c : Char} {n : Nat} {json : Json} {literal : List Char → String → Prop}

/-- A text between quotes, in ASCII alone. -/
def asciiQuoted (text : String) : List Char :=
  (quoted text).flatMap asciiChar

/-! ## Escaped code units -/

theorem isCodeUnit_hexDigits (h : n < 0x10000) : IsCodeUnit (hexDigits 4 n) n := by
  have hdigit (k : Nat) : Text.hexDigit? (k % 16).digitChar = some (k % 16) := hexDigit?_digitChar _ (by omega)
  have hn : 16 * (16 * (16 * (n / 16 / 16 / 16 % 16) + n / 16 / 16 % 16) + n / 16 % 16) + n % 16 = n := by omega
  exact ⟨rfl, by simp [Text.ofHexDigits?, hexDigits, hdigit, hn]⟩

theorem spells_unitEscape (hlow : 0x7F ≤ c.toNat) (hhigh : c.toNat < 0x10000) :
    Spells '"' (asciiChar c) c := by
  rw [asciiChar, if_neg (Nat.not_lt.2 hlow), if_pos hhigh]
  exact .unit (isCodeUnit_hexDigits hhigh)

theorem spells_pairEscape (h : 0x10000 ≤ c.toNat) : Spells '"' (asciiChar c) c := by
  have hlt : c.toNat < 0x110000 := c.valid.elim (fun h => Nat.lt_trans h (by decide)) And.right
  rw [asciiChar, if_neg (by omega), if_neg (Nat.not_lt.2 h)]
  exact .pair (isCodeUnit_hexDigits (by omega)) (isCodeUnit_hexDigits (by omega)) (by omega) (by omega) (by omega)

/-! ## Literals -/

theorem asciiChar_of_lt (h : c.toNat < 0x7F) : asciiChar c = [c] :=
  if_pos h

theorem flatMap_asciiChar (h : ∀ c ∈ cs, c.toNat < 0x7F) : cs.flatMap asciiChar = cs := by
  induction cs with
  | nil => rfl
  | cons c cs ih =>
    rw [List.forall_mem_cons] at h
    rw [List.flatMap_cons, asciiChar_of_lt h.1, ih h.2, List.singleton_append]

/-- What is written for a character of ASCII is ASCII. -/
theorem lt_of_mem_escapeChar (h : c.toNat < 0x7F) : ∀ d ∈ escapeChar c, d.toNat < 0x7F := by
  have hdigit : ∀ n < 16, n.digitChar.toNat < 0x7F := by decide
  unfold escapeChar
  split_ifs with hquote hback hfeed hreturn htab hform hbackspace hcontrol
  iterate 7 · simp
  · simpa [hexPair] using ⟨hdigit (c.toNat / 16) (by omega), hdigit (c.toNat % 16) (by omega)⟩
  · simpa using h

/-- What is written for a character in ASCII spells it. -/
theorem spells_ascii (c : Char) : Spells '"' ((escapeChar c).flatMap asciiChar) c := by
  rcases Nat.lt_or_ge c.toNat 0x7F with hlt | hge
  · rw [flatMap_asciiChar (lt_of_mem_escapeChar hlt)]
    exact spells_escapeChar c
  · have hplain : escapeChar c = [c] := by
      unfold escapeChar
      have hascii {d : Char} (h : d.toNat < 0x7F) : c ≠ d := by
        rintro rfl
        exact absurd h (Nat.not_lt.2 hge)
      simp [hascii, Nat.not_lt.2 (Nat.le_trans (by decide : 0x20 ≤ 0x7F) hge)]
    rw [hplain, List.flatMap_singleton]
    rcases Nat.lt_or_ge c.toNat 0x10000 with hunit | hpair
    · exact spells_unitEscape hge hunit
    · exact spells_pairEscape hpair

theorem asciiQuoted_eq (text : String) :
    asciiQuoted text = '"' :: (text.toList.flatMap (fun c => (escapeChar c).flatMap asciiChar) ++ ['"']) := by
  simp [asciiQuoted, quoted, List.flatMap_assoc, asciiChar_of_lt]

theorem quoted_asciiQuoted (text : String) : Quoted '"' (asciiQuoted text) text := by
  refine ⟨text.toList.flatMap fun c => (escapeChar c).flatMap asciiChar, ?_, asciiQuoted_eq text⟩
  induction text.toList with
  | nil => exact .nil
  | cons c cs ih => exact .cons (spells_ascii c) ih

/-! ## Values -/

theorem respects_ascii : Respects (List.flatMap asciiChar)
    (fun cs text => cs = quoted text ∧ literal (asciiQuoted text) text) literal where
  plain c rest h := by rw [List.flatMap_cons, asciiChar_of_lt h.1, List.singleton_append]
  comma gap cs rest _ _ := by rw [List.flatMap_cons, asciiChar_of_lt (by decide), List.singleton_append]
  brace gap cs rest _ _ := by rw [List.flatMap_cons, asciiChar_of_lt (by decide), List.singleton_append]
  literal cs text h := ⟨asciiQuoted text, h.2, fun rest => by rw [List.flatMap_append, h.1]; rfl⟩

/-- The text of a value in ASCII renders it. -/
theorem renders_ascii (h : Readable json) (hstr : ∀ text ∈ json.strings, literal (asciiQuoted text) text) :
    Renders literal json.ascii.toList (.value json) := by
  obtain ⟨ds, hds, hrest⟩ := respects_ascii.renders
    (renders_lineChars json h fun text htext => ⟨rfl, hstr text htext⟩)
  have htext : json.ascii.toList = ds := by simpa [ascii] using hrest []
  rwa [htext]

/-- The text of a value in ASCII is read back. -/
theorem read_ascii (h : Readable json) : read json.ascii = .ok json := by
  have hread := read_of_renders readsString_of_quoted isGap_nil isGap_nil
    (renders_ascii h fun text _ => quoted_asciiQuoted text)
  simpa using hread

end Runbook.Json
