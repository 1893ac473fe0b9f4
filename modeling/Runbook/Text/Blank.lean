/-!
# Blank characters

Two properties of characters decide what counts as empty space in a workflow. A character is *blank*
when it separates words in free text: the white space of Unicode together with the four information
separators `U+001C` to `U+001F`. It is *white space* when it has the Unicode property of that name;
numerals in records are read between white space only, so the information separators spoil them.

`trim` takes the blanks off both ends of a text. `isWhiteSpace_isBlank` says that the second class
lies inside the first.
-/

namespace Runbook.Text

/-- The white space of Unicode. -/
def isWhiteSpace (c : Char) : Bool :=
  let n := c.toNat
  (9 ≤ n && n ≤ 13) || n == 0x20 || n == 0x85 || n == 0xA0 || n == 0x1680 ||
    (0x2000 ≤ n && n ≤ 0x200A) || n == 0x2028 || n == 0x2029 || n == 0x202F || n == 0x205F ||
    n == 0x3000

/-- White space, or one of the four information separators. -/
def isBlank (c : Char) : Bool :=
  isWhiteSpace c || (0x1C ≤ c.toNat && c.toNat ≤ 0x1F)

theorem isWhiteSpace_isBlank {c : Char} (h : isWhiteSpace c = true) : isBlank c = true := by
  simp [isBlank, h]

/-- What is left of `cs` once the characters in `p` are taken off its end. -/
def dropEndWhile (p : Char → Bool) (cs : List Char) : List Char :=
  (cs.reverse.dropWhile p).reverse

/-- What is left of `cs` once the characters in `p` are taken off both ends. -/
def stripBy (p : Char → Bool) (cs : List Char) : List Char :=
  dropEndWhile p (cs.dropWhile p)

/-- `cs` without the blanks at its two ends. -/
def trimChars (cs : List Char) : List Char :=
  stripBy isBlank cs

/-- `s` without the blanks at its two ends. -/
def trim (s : String) : String :=
  String.ofList (trimChars s.toList)

/-- Does `s` hold nothing but blanks? The empty text does. -/
def isAllBlank (s : String) : Bool :=
  s.toList.all isBlank

end Runbook.Text
