import Runbook.Text.Digit
import Runbook.Text.Name.Letters
import Runbook.Text.Name.Notations
import Runbook.Text.Name.Pictures
import Runbook.Text.Name.Scripts
import Runbook.Text.Name.Symbols

/-!
# Finding characters by their names

`named?` is the code point that has a name. The ideographs of Chinese, Japanese and Korean are too many to
be listed: their names hold their code points. The names of the syllables of Korean are made of the sounds
they begin with, hold and end in.
-/

namespace Runbook.Text

/-- The ranges of the ideographs that are named by their code points. -/
def ideographs : List (Nat × Nat) :=
  [(0x3400, 0x4DBF), (0x4E00, 0x9FFF), (0x20000, 0x2A6DF), (0x2A700, 0x2B738), (0x2B740, 0x2B81D),
    (0x2B820, 0x2CEA1), (0x2CEB0, 0x2EBE0), (0x30000, 0x3134A)]

/-- A capital letter of ASCII in the place of a small one. -/
def capital (c : Char) : Char :=
  if 'a' ≤ c && c ≤ 'z' then Char.ofNat (c.toNat - 32) else c

/-- The ideograph of a name, which is written in capitals and ends in four or five hexadecimal digits. -/
def ideograph? (name : List Char) : Option Nat :=
  match stripPrefix? "CJK UNIFIED IDEOGRAPH-".toList name with
  | none => none
  | some digits =>
    if digits.length < 4 || 5 < digits.length || digits.any (fun c => 'a' ≤ c && c ≤ 'f') then none
    else (ofHexDigits? digits).filter fun code =>
      ideographs.any fun range => range.1 ≤ code && code ≤ range.2

/-- The sounds with which a syllable of Korean begins. -/
def firstSounds : List String :=
  ["G", "GG", "N", "D", "DD", "R", "M", "B", "BB", "S", "SS", "", "J", "JJ", "C", "K", "T", "P", "H"]

/-- The sounds that a syllable of Korean holds. -/
def middleSounds : List String :=
  ["A", "AE", "YA", "YAE", "EO", "E", "YEO", "YE", "O", "WA", "WAE", "OE", "YO", "U", "WEO", "WE", "WI",
    "YU", "EU", "YI", "I"]

/-- The sounds in which a syllable of Korean ends. -/
def lastSounds : List String :=
  ["", "G", "GG", "GS", "N", "NJ", "NH", "D", "L", "LG", "LM", "LB", "LS", "LT", "LP", "LH", "M", "B",
    "BS", "S", "SS", "NG", "J", "C", "K", "T", "P", "H"]

/-- The position of the syllable that is written by three sounds, and of each sound the place in its list.
Two syllables are never written the same way. -/
def syllables : List (List Char × Nat) :=
  firstSounds.zipIdx.flatMap fun (first, i) =>
    middleSounds.zipIdx.flatMap fun (middle, j) =>
      lastSounds.zipIdx.map fun (last, k) =>
        ((first ++ middle ++ last).toList,
          (i * middleSounds.length + j) * lastSounds.length + k)

/-- The syllable of Korean of a name in capitals. -/
def syllable? (name : List Char) : Option Nat :=
  (stripPrefix? "HANGUL SYLLABLE ".toList name).bind fun sounds =>
    (syllables.lookup sounds).map (0xAC00 + ·)

/-- The code point of one of the names that are kept apart from the runs. -/
def otherwiseNamed? (name : List Char) : Option Nat :=
  (otherNames.find? fun entry => (namesIn entry.2).contains name).map Prod.fst

/-- The code point of the character with a name. -/
def named? (name : List Char) : Option Nat :=
  let capitals := name.map capital
  let runs := letterNames ++ scriptNames ++ symbolNames ++ notationNames ++ pictureNames
  (runs.findSome? fun run => run.find? capitals) <|> otherwiseNamed? capitals <|> ideograph? name <|>
    syllable? name

end Runbook.Text
