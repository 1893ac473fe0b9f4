/-!
# Parts of texts

Searching, splitting and replacing, on lists of characters.
-/

namespace Runbook.Text

/-- What follows `start` at the front of `cs`. -/
def stripPrefix? : (start cs : List Char) → Option (List Char)
  | [], cs => some cs
  | _ :: _, [] => none
  | a :: as, c :: cs => if a = c then stripPrefix? as cs else none

/-- Does `cs` start with `start`? -/
def startsWith (start cs : List Char) : Bool :=
  (stripPrefix? start cs).isSome

/-- What stands before `ending` at the end of `cs`. -/
def stripSuffix? (ending cs : List Char) : Option (List Char) :=
  (stripPrefix? ending.reverse cs.reverse).map List.reverse

/-- Does `part` occur in `cs`? -/
def containsPart (part : List Char) : List Char → Bool
  | [] => part.isEmpty
  | c :: cs => startsWith part (c :: cs) || containsPart part cs

/-- Puts `new` in the place of every occurrence of `old`, from left to right; `skip` more characters
belong to an occurrence that is already replaced. -/
def replaceFrom (old new : List Char) : (skip : Nat) → List Char → List Char
  | _, [] => []
  | skip + 1, _ :: cs => replaceFrom old new skip cs
  | 0, c :: cs =>
    if startsWith old (c :: cs) then new ++ replaceFrom old new (old.length - 1) cs
    else c :: replaceFrom old new 0 cs

/-- Puts `new` in the place of every occurrence of `old`, which is not empty. -/
def replaceAll (old new : List Char) (cs : List Char) : List Char :=
  replaceFrom old new 0 cs

/-- The pieces of `cs` between the occurrences of `sep`; there is always one piece more. -/
def splitOn (sep : Char) : List Char → List (List Char)
  | [] => [[]]
  | c :: cs =>
    if c = sep then [] :: splitOn sep cs
    else match splitOn sep cs with
      | [] => [[c]]
      | piece :: pieces => (c :: piece) :: pieces

/-- Splits `cs` at the last `sep`, which belongs to neither part. -/
def splitLast? (sep : Char) (cs : List Char) : Option (List Char × List Char) :=
  let tail := (cs.reverse.takeWhile (· != sep)).reverse
  match cs.reverse.dropWhile (· != sep) with
  | [] => none
  | _ :: base => some (base.reverse, tail)

/-- The pieces put together with `sep` between them. -/
def joinWith (sep : List Char) : List (List Char) → List Char
  | [] => []
  | [piece] => piece
  | piece :: pieces => piece ++ sep ++ joinWith sep pieces

end Runbook.Text
