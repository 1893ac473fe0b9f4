import Runbook.Pattern.Basic

/-!
# The notation of patterns

A pattern is written as a text. A backslash belongs to the character after it: together they are one sign.
What has been read so far leaves behind a `Progress`: the signs that are still to be read, and the groups
that have been met.

A text that is not a pattern has a `Defect`. Numbers that are too large to be bounds of a repetition are
told apart from all other defects.
-/

namespace Runbook.Pattern

/-- A sign of the notation. -/
inductive Sign where
  | plain (c : Char)
  /-- A character after a backslash. -/
  | escaped (c : Char)
  /-- A backslash with nothing after it. -/
  | dangling
  deriving DecidableEq, Repr

/-- The signs of a text. -/
def signs : List Char → List Sign
  | [] => []
  | '\\' :: c :: cs => .escaped c :: signs cs
  | c :: cs => (if c = '\\' then .dangling else .plain c) :: signs cs

/-- The text of a sign. -/
def Sign.text : Sign → List Char
  | plain c => [c]
  | escaped c => ['\\', c]
  | dangling => ['\\']

/-- The signs of a text hold all of it. -/
theorem flatMap_text_signs (cs : List Char) : (signs cs).flatMap Sign.text = cs := by
  fun_induction signs cs with
  | case1 => rfl
  | case2 c cs ih => simp [Sign.text, ih]
  | case3 c cs _ ih =>
    by_cases h : c = '\\' <;> simp [Sign.text, h, ih]

/-- What is wrong with a text that is to be a pattern. -/
inductive Defect where
  | malformed
  /-- A number of repetitions above all bounds. -/
  | boundTooLarge
  /-- A number of repetitions with more digits than a numeral can have. -/
  | boundTooLong
  /-- Classes are to be limited to ASCII and not to be. -/
  | contradictory
  deriving DecidableEq, Repr

/-- What a part of a pattern is read with. -/
structure Options where
  ignoreCase : Bool := false
  /-- Conditions on the ends of the text hold at the ends of each line. -/
  multiline : Bool := false
  /-- A point describes line breaks as well. -/
  dotAll : Bool := false
  /-- Blanks and comments have no meaning. -/
  verbose : Bool := false
  asciiOnly : Bool := false
  /-- Classes are to reach beyond ASCII. They do so anyway unless they are limited. -/
  allScripts : Bool := false
  /-- Nothing can be repeated. -/
  rigid : Bool := false
  deriving DecidableEq, Repr

/-- How characters are compared and classified. -/
def Options.mode (o : Options) : Mode :=
  ⟨o.ignoreCase, o.asciiOnly⟩

/-- The options with the one of a letter turned on or off. -/
def Options.set (value : Bool) (o : Options) : Char → Options
  | 'i' => { o with ignoreCase := value }
  | 'm' => { o with multiline := value }
  | 's' => { o with dotAll := value }
  | 'x' => { o with verbose := value }
  | 'a' => { o with asciiOnly := value }
  | 'u' => { o with allScripts := value }
  | 't' => { o with rigid := value }
  | _ => o

/-- Where reading has come to. -/
structure Progress where
  rest : List Sign
  /-- The widths of the groups in the order of their numbers; a group that is still open has none yet. -/
  widths : List (Option Width) := []
  /-- The numbers of the groups that have names. -/
  names : List (List Char × Nat) := []
  /-- While a part looks back: how many groups there were before it. -/
  settled : Option Nat := none
  /-- The highest number by which a group has been asked for, whether or not there is such a group. -/
  requested : Nat := 0
  /-- Has something been read that is in no pattern, although the notation allows it? -/
  faulty : Bool := false

/-- Reading a part of a pattern. -/
abbrev Reading (α : Type) := StateT Progress (Except Defect) α

namespace Reading

/-- The text is not a pattern. -/
def refuse {α : Type} : Reading α :=
  throw .malformed

/-- The next sign, which is left where it is. -/
def peek? : Reading (Option Sign) := do
  return (← get).rest.head?

/-- Takes the next sign. -/
def next : Reading Sign := do
  match (← get).rest with
  | [] => refuse
  | .dangling :: _ => refuse
  | sign :: rest =>
    modify fun p => { p with rest := rest }
    return sign

/-- Takes the next sign if it is a certain character. -/
def accept (c : Char) : Reading Bool := do
  match (← get).rest with
  | .plain d :: rest =>
    if c = d then
      modify fun p => { p with rest := rest }
      return true
    else return false
  | _ => return false

/-- Takes the next sign, which has to be a certain character. -/
def expect (c : Char) : Reading Unit := do
  if ← accept c then return () else refuse

/-- The characters of a class at the front of some signs, and what follows them. -/
def spanSigns (belongs : Char → Bool) : List Sign → List Char × List Sign
  | .plain c :: rest =>
    if belongs c then
      let (cs, rest) := spanSigns belongs rest
      (c :: cs, rest)
    else ([], .plain c :: rest)
  | rest => ([], rest)

/-- Takes characters of a class, `count` of them at most. -/
def takeAtMost (belongs : Char → Bool) : (count : Nat) → Reading (List Char)
  | 0 => return []
  | count + 1 => do
    match (← get).rest with
    | .plain c :: rest =>
      if belongs c then
        modify fun p => { p with rest := rest }
        return c :: (← takeAtMost belongs count)
      else return []
    | _ => return []

/-- The text before a character, and the signs after it. -/
def before? (stop : Char) : List Sign → Option (List Char × List Sign)
  | [] => none
  | .dangling :: _ => none
  | sign :: rest =>
    if sign = .plain stop then some ([], rest)
    else (before? stop rest).map fun (cs, rest) => (sign.text ++ cs, rest)

/-- Takes a text of one character at least and the character that ends it. -/
def takeBefore (stop : Char) : Reading (List Char) := do
  match before? stop (← get).rest with
  | some (c :: cs, rest) =>
    modify fun p => { p with rest := rest }
    return c :: cs
  | _ => refuse

/-- Passes over all signs up to a character, or to the end if that is allowed. -/
def skipPast (stop : Char) (orEnd : Bool) : Reading Unit := do
  let rest := (← get).rest
  match before? stop rest with
  | some (_, rest) => modify fun p => { p with rest := rest }
  | none =>
    if orEnd && !rest.contains .dangling then modify fun p => { p with rest := [] } else refuse

/-! ## Groups -/

/-- Opens a group and gives it the next number. -/
def openGroup (name : Option (List Char)) : Reading Nat := do
  let p ← get
  let number := p.widths.length + 1
  match name with
  | some name =>
    if (p.names.lookup name).isSome then refuse
    set { p with widths := p.widths ++ [none], names := (name, number) :: p.names }
  | none => set { p with widths := p.widths ++ [none] }
  return number

/-- The widths of the groups that have been read. -/
def knownWidths : Reading (Nat → Width) := do
  let widths := (← get).widths
  return fun number => (widths[number - 1]?.join).getD (.exactly 0)

/-- Closes the group with a number. -/
def closeGroup (number : Nat) (body : Pattern) : Reading Unit := do
  let width := body.width (← knownWidths)
  modify fun p => { p with widths := p.widths.set (number - 1) (some width) }

/-- Is there a group with this number that has been closed? -/
def isClosed (number : Nat) : Reading Bool := do
  return 0 < number && ((← get).widths[number - 1]?.join).isSome

/-- A part that looks back refers to groups that were closed before it alone. -/
def checkSettled (number : Nat) : Reading Unit := do
  match (← get).settled with
  | some settled => if (← isClosed number) && number ≤ settled then return () else refuse
  | none => return ()

/-- A reference to a closed group. -/
def reference (mode : Mode) (number : Nat) : Reading Pattern := do
  if !(← isClosed number) then refuse
  checkSettled number
  return again number mode

/-- Marks the whole text as no pattern, whatever follows. -/
def markFaulty : Reading Unit :=
  modify fun p => { p with faulty := true }

end Reading

end Runbook.Pattern
