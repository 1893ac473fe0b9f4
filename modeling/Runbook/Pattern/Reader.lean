import Runbook.Pattern.Element
import Runbook.Text.Identifier

/-!
# Reading patterns

The notation of patterns: characters stand for themselves, `.` for any but a line break, brackets for sets
and a backslash for classes and for characters with a special meaning; `*`, `+`, `?` and bounds in braces
repeat what stands before them, a bar separates alternatives, parentheses group, and `^`, `$`, `\A`, `\Z`,
`\b` and `\B` are conditions on a place. A question mark after an opening parenthesis begins groups with a
meaning of their own and options.

`Pattern.read` refuses what is not in this notation.
-/

namespace Runbook.Pattern

open Reading

/-! ## Options -/

/-- A letter that names an option. -/
def isOptionLetter (c : Char) : Bool :=
  "iLmsxatu".toList.contains c

/-- The letters of options at the front, and the character that ends them. -/
def optionLetters? : List Sign → Option (List Char × Char × List Sign)
  | .plain c :: rest =>
    if isOptionLetter c then
      (optionLetters? rest).map fun (letters, stop, rest) => (c :: letters, stop, rest)
    else some ([], c, rest)
  | _ => none

/-- Options that are turned on and off: in a group, or in the whole pattern. -/
structure Change where
  on : List Char
  off : List Char
  isGlobal : Bool

/-- Can these options be turned on together? -/
def canTurnOn (letters : List Char) : Bool :=
  !letters.contains 'L' && !(letters.contains 'a' && letters.contains 'u')

/-- Can these options be turned off in a group, while others are turned on? -/
def canTurnOff (on off : List Char) : Bool :=
  !off.isEmpty && !off.any fun c => on.contains c || "aLut".toList.contains c

/-- The change of options that is written after an opening parenthesis and a question mark. -/
def change? (rest : List Sign) : Option (Change × List Sign) := do
  let (on, stop, rest) ← optionLetters? rest
  if !canTurnOn on then failure
  match stop with
  | ')' => if on.isEmpty then failure else return (⟨on, [], true⟩, rest)
  | ':' => if on.isEmpty || on.contains 't' then failure else return (⟨on, [], false⟩, rest)
  | '-' =>
    let (off, stop, rest) ← optionLetters? rest
    if stop = ':' && !on.contains 't' && canTurnOff on off then return (⟨on, off, false⟩, rest)
    else failure
  | _ => failure

/-- The options inside a group that changes them. A group that says how far classes reach does away with
what has been said before. -/
def Options.changed (o : Options) (c : Change) : Options :=
  let o := if c.on.any fun letter => letter = 'a' || letter = 'u' then
    { o with asciiOnly := false, allScripts := false } else o
  c.off.foldl (Options.set false) (c.on.foldl (Options.set true) o)

/-- Blanks that have no meaning in a verbose pattern. -/
def isFiller (c : Char) : Bool :=
  c == ' ' || (9 ≤ c.toNat && c.toNat ≤ 13)

/-- Reads the options of the whole pattern, which stand before everything but comments. -/
def globalOptions (o : Options) : (fuel : Nat) → Reading Options
  | 0 => return o
  | fuel + 1 => do
    let p ← get
    match p.rest with
    | .plain '(' :: .plain '?' :: .plain '#' :: rest =>
      set { p with rest := rest }
      skipPast ')' false
      globalOptions o fuel
    | .plain '(' :: .plain '?' :: rest =>
      match change? rest with
      | some (change, rest) =>
        if !change.isGlobal then return o
        set { p with rest := rest }
        globalOptions (change.on.foldl (Options.set true) o) fuel
      | none => return o
    | .plain c :: rest =>
      if o.verbose && isFiller c then
        set { p with rest := rest }
        globalOptions o fuel
      else if o.verbose && c == '#' then
        skipPast '\n' true
        globalOptions o fuel
      else return o
    | _ => return o

/-! ## Repetitions -/

/-- No number of repetitions is as large as this. -/
def boundLimit : Nat := 4294967295

/-- Reads a number of repetitions. -/
def bound (digits : List Char) : Reading Nat := do
  if Text.integerDigits < digits.length then throw .boundTooLong
  let n := ofDigits digits
  if boundLimit ≤ n then throw .boundTooLarge else return n

/-- The digits of the bounds that follow an opening brace; there is a second list if there is a comma. -/
def braces? (rest : List Sign) : Option (List Char × Option (List Char) × List Sign) :=
  match spanSigns isAsciiDigit rest with
  | (low, .plain ',' :: rest) =>
    match spanSigns isAsciiDigit rest with
    | (high, .plain '\x7d' :: rest) => some (low, some high, rest)
    | _ => none
  | (low, .plain '\x7d' :: rest) => if low.isEmpty then none else some (low, none, rest)
  | _ => none

/-- Reads the bounds in braces, after the opening one. What has no such form is left where it is. -/
def bracedBounds? : Reading (Option Bounds) := do
  let p ← get
  match braces? p.rest with
  | none => return none
  | some (low, high, rest) =>
    if rest.head? = some .dangling then refuse
    set { p with rest := rest }
    let least ← if low.isEmpty then pure 0 else bound low
    match high with
    | none => return some ⟨least, some least⟩
    | some [] => return some ⟨least, none⟩
    | some digits =>
      let most ← bound digits
      if most < least then refuse else return some ⟨least, some most⟩

/-- Reads how often something is repeated, if a character says so. -/
def bounds? : Char → Reading (Option Bounds)
  | '*' => return some ⟨0, none⟩
  | '+' => return some ⟨1, none⟩
  | '?' => return some ⟨0, some 1⟩
  | '\x7b' => bracedBounds?
  | _ => return none

/-- Reads which number of repetitions is tried first. -/
def preference : Reading Preference := do
  if ← accept '?' then return .fewest
  if ← accept '+' then return .mostOnly
  return .most

/-- An item of a sequence. A condition on a place is not repeated, nor is a repetition. -/
structure Item where
  pattern : Pattern
  isRepeatable : Bool := true

/-- Repeats the last item as bounds say. -/
def repeatLast (o : Options) (bounds : Bounds) : List Item → Reading (List Item)
  | [] => refuse
  | last :: others => do
    if !last.isRepeatable then refuse
    let preference ← preference
    if o.rigid then markFaulty
    return ⟨.repeat bounds preference last.pattern, false⟩ :: others

/-! ## Groups -/

/-- Reads the name of a group. -/
def groupName (stop : Char) : Reading (List Char) := do
  let name ← takeBefore stop
  if Text.isIdentifier name then return name else refuse

/-- The number of the group with a name. -/
def namedGroup (name : List Char) : Reading Nat := do
  match (← get).names.lookup name with
  | some number => return number
  | none => refuse

/-- No pattern has so many groups. -/
def groupLimit : Nat := 1073741823

/-- Reads which group a choice depends on: its name, or its number. -/
def choiceGroup : Reading Nat := do
  let name ← takeBefore ')'
  if Text.isIdentifier name then namedGroup name
  else match Text.integer? name with
    | some n =>
      if n < 1 || (groupLimit : Int) ≤ n then refuse
      modify fun p => { p with requested := max p.requested n.toNat }
      return n.toNat
    | none => refuse

/-- What stands before the content of a group. -/
inductive Opening where
  | plain (name : Option (List Char))
  | scoped (options : Options)
  | committed
  | ahead (holds : Bool)
  | behind (holds : Bool)
  | choice (number : Nat)
  /-- There is no content. -/
  | done (item : Option Pattern)

/-- Reads what stands between an opening parenthesis and the content of a group. -/
def opening (o : Options) : Reading Opening := do
  if !(← accept '?') then return .plain none
  match ← next with
  | .plain 'P' =>
    if ← accept '<' then return .plain (some (← groupName '>'))
    expect '='
    return .done (some (← reference o.mode (← namedGroup (← groupName ')'))))
  | .plain ':' => return .scoped o
  | .plain '#' =>
    skipPast ')' false
    return .done none
  | .plain '=' => return .ahead true
  | .plain '!' => return .ahead false
  | .plain '<' =>
    if ← accept '=' then return .behind true
    expect '!'
    return .behind false
  | .plain '(' =>
    let number ← choiceGroup
    checkSettled number
    return .choice number
  | .plain '>' => return .committed
  | sign =>
    match change? (sign :: (← get).rest) with
    | some (change, rest) =>
      if change.isGlobal then refuse
      modify fun p => { p with rest := rest }
      return .scoped (o.changed change)
    | none => refuse

/-- No part looks back further than this. -/
def behindLimit : Nat := 4294967295

/-- Looks back at a pattern that has been read. Its width must be known. -/
def lookBehind (body : Pattern) (holds : Bool) : Reading Pattern := do
  match (body.width (← knownWidths)).fixed? with
  | some width =>
    if behindLimit < width then markFaulty
    return behind width body holds
  | none =>
    markFaulty
    return behind 0 body holds

/-- The pattern of a character that is not after a backslash and does not open anything. -/
def plainItem (o : Options) : Char → Item
  | '.' => ⟨one (if o.dotAll then .every else .inLine), true⟩
  | '^' => ⟨anchor (if o.multiline then .lineStart else .start), false⟩
  | '$' => ⟨anchor (if o.multiline then .lineEnd else .lastLineEnd), false⟩
  | c => ⟨one (.single o.mode c.toNat), true⟩

/-- Is the pattern a condition on a place alone? -/
def isAnchor : Pattern → Bool
  | anchor _ => true
  | _ => false

mutual

/-- Reads alternatives up to a closing parenthesis or the end. -/
def alternatives (o : Options) : (fuel : Nat) → Reading Pattern
  | 0 => refuse
  | fuel + 1 => do
    let left ← items o [] fuel
    if ← accept '|' then return .or left (← alternatives o fuel) else return left

/-- Reads a sequence up to a bar, a closing parenthesis or the end, after some items, the last first. -/
def items (o : Options) (read : List Item) : (fuel : Nat) → Reading Pattern
  | 0 => refuse
  | fuel + 1 => do
    match ← peek? with
    | none => return sequence (read.reverse.map Item.pattern)
    | some (.plain '|') => return sequence (read.reverse.map Item.pattern)
    | some (.plain ')') => return sequence (read.reverse.map Item.pattern)
    | some _ =>
      match ← next with
      | .plain c =>
        if o.verbose && isFiller c then items o read fuel
        else if o.verbose && c == '#' then
          skipPast '\n' true
          items o read fuel
        else
          match ← bounds? c with
          | some bounds => items o (← repeatLast o bounds read) fuel
          | none =>
            match c with
            | '[' => items o (⟨one (← bracketed o.mode), true⟩ :: read) fuel
            | '(' =>
              match ← group? o fuel with
              | some pattern => items o (⟨pattern, true⟩ :: read) fuel
              | none => items o read fuel
            | c => items o (plainItem o c :: read) fuel
      | .escaped c =>
        let pattern ← escaped o.mode c
        items o (⟨pattern, !pattern.isAnchor⟩ :: read) fuel
      | .dangling => refuse

/-- Reads a group after its opening parenthesis, or a comment, which is nothing. -/
def group? (o : Options) : (fuel : Nat) → Reading (Option Pattern)
  | 0 => refuse
  | fuel + 1 => do
    match ← opening o with
    | .done item => return item
    | .plain name =>
      let number ← openGroup name
      let body ← alternatives o fuel
      expect ')'
      closeGroup number body
      return some (group number body)
    | .scoped inner =>
      let body ← alternatives inner fuel
      expect ')'
      return some body
    | .committed =>
      let body ← alternatives o fuel
      expect ')'
      return some (committed body)
    | .ahead holds =>
      let body ← alternatives o fuel
      expect ')'
      return some (ahead body holds)
    | .behind holds =>
      let outer := (← get).settled
      modify fun p => { p with settled := p.settled.getD p.widths.length }
      let body ← alternatives o fuel
      modify fun p => { p with settled := outer }
      expect ')'
      return some (← lookBehind body holds)
    | .choice number =>
      let present ← items o [] fuel
      let absent ← if ← accept '|' then items o [] fuel else pure empty
      -- A third branch is refused here, too.
      expect ')'
      return some (whether number present absent)

end

/-! ## Whole patterns -/

/-- The set with which a pattern begins. -/
def leadingSet? : Pattern → Option CharSet
  | one set => some set
  | .then empty second => leadingSet? second
  | .then first _ => leadingSet? first
  | group _ body => leadingSet? body
  | _ => none

/-- Does a range of code points hold characters whose case may count? -/
def CharRange.isCased : CharRange → Bool
  | between first last => 0x80 ≤ last || (first ≤ 0x7A && 0x41 ≤ last)
  | .class _ _ => false

/-- The pattern with what the options of the whole demand of its start: a set with which it begins is
looked at with them as well. Sets that ignore the case of some of their characters are left alone. -/
def guarded (o : Options) (pattern : Pattern) : Pattern :=
  match leadingSet? pattern with
  | some s =>
    if s.mode.asciiOnly == o.asciiOnly || (s.mode.ignoreCase && s.ranges.any CharRange.isCased) then
      pattern
    else .then (ahead (one { s with mode := ⟨false, o.asciiOnly⟩ }) true) pattern
  | none => pattern

/-- Reads a pattern up to the end of the text. -/
def whole (fuel : Nat) : Reading Pattern := do
  let options ← globalOptions {} fuel
  let pattern ← alternatives options fuel
  if options.asciiOnly && options.allScripts then throw .contradictory
  let p ← get
  if !p.rest.isEmpty || p.faulty || p.widths.length < p.requested then refuse
  return guarded options pattern

/-- Reads a pattern. Every group and every item of a sequence takes a sign at least, and three calls at
most, so the fuel is enough. -/
def read (text : String) : Except Defect Pattern :=
  ((whole (4 * text.length + 4)).run ⟨signs text.toList, [], [], none, 0, false⟩).map Prod.fst

end Runbook.Pattern
