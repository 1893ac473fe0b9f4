import Runbook.DataPoint.Store
import Runbook.Text.Digit
import Runbook.Text.Substring
import Runbook.Token.Render
import Runbook.Token.Scan

/-!
# Resolving tokens

A text is resolved by putting the text of its data point in the place of each token, all at once: what is
put in is not looked at again. A token without a data point becomes nothing and is reported, once for each
different token of a text.
-/

/-!
## The data point of a token

The id in a token need not be the id of a data point to the letter. Authors and models add a time stamp
to the id of an output or of a context value, name the provider of a value, or write the prefix of a
knowledge entry more than once. `Store.lookup` tries the id as it is, then without the time stamp, then
as the id of a knowledge entry, and takes the first data point that it finds.
-/

namespace Runbook

/-- Splits an id into what stands before its last underscore and the digits after it. -/
def splitStamp? (id : String) : Option (String × List Char) :=
  match Text.splitLast? '_' id.toList with
  | some (base, tail) =>
    if base.isEmpty || !Text.isDigits tail then none else some (String.ofList base, tail)
  | none => none

/-- From so many digits on, a number at the end of an id is a time stamp. -/
def minStampDigits : Nat := 10

/-- The proper beginnings of an id that end before an underscore, the longest first. -/
def shortened (id : String) : List String :=
  let segments := Text.splitOn '_' id.toList
  (List.range (segments.length - 1)).reverse.map fun n =>
    String.ofList (Text.joinWith ['_'] (segments.take (n + 1)))

/-- An id that starts with `kb_`, then what is left of it as long as another `kb_` can be taken away. -/
def knowledgeIds : List Char → List (List Char)
  | 'k' :: 'b' :: '_' :: rest => ('k' :: 'b' :: '_' :: rest) :: knowledgeIds rest
  | _ => []

namespace Store

/-- The output that an id with a time stamp after it stands for. -/
def findOutput? (id : String) (s : Store) : Option DataPoint :=
  match splitStamp? id with
  | some (base, _) =>
    if (Text.stripSuffix? "_output".toList base.toList).isSome then s.get? base else none
  | none => none

/-- The context value that an id with a long time stamp stands for: the one with the id before the stamp,
the first one from the provider of that name, or the one with the longest beginning of it as its id. -/
def findStamped? (id : String) (s : Store) : Option DataPoint :=
  match splitStamp? id with
  | some (base, stamp) =>
    if stamp.length < minStampDigits then none
    else (s.get? base).or ((s.findBySource? base).or ((shortened base).findSome? fun id => s.get? id))
  | none => none

/-- The knowledge entry that an id stands for: with each prefix `kb_` taken away in turn, the data point
with that id or else the first one whose id goes on with an underscore. -/
def findKnowledge? (id : String) (s : Store) : Option DataPoint :=
  (knowledgeIds id.toList).findSome? fun candidate =>
    (s.get? (String.ofList candidate)).or (s.findByPrefix? (String.ofList (candidate ++ ['_'])))

/-- The data point that an id stands for. -/
def lookup (id : String) (s : Store) : Option DataPoint :=
  (s.get? id).or ((s.findOutput? id).or ((s.findStamped? id).or (s.findKnowledge? id)))

end Store

/-! ## Texts with tokens -/

namespace Store

/-- The warning about a token without a data point. -/
def unresolvedRecord (s : Store) (t : Token) : Log.Record :=
  { source := .tokens
    level := .warning
    message := "Unresolved data point reference"
    fields := [("data_point_id", .str t.dataPointId), ("available", .nat s.size)] }

/-- The note that an id stands for a data point with another id. -/
def normalizedRecord (requested : String) (found : DataPoint) : Log.Record :=
  { source := .tokens
    level := .debug
    message := "Data point id normalized"
    fields := [("requested", .str requested), ("resolved", .str found.id)] }

/-- The text that a token stands for. -/
def resolveToken (s : Store) (t : Token) : Except Token.RenderError String :=
  match s.lookup t.dataPointId with
  | some p => Token.render p.value t.field
  | none => .ok ""

/-- What is reported when a token is resolved. -/
def resolveRecords (s : Store) (t : Token) : List Log.Record :=
  match s.lookup t.dataPointId with
  | some p => if p.id = t.dataPointId then [] else [normalizedRecord t.dataPointId p]
  | none => [s.unresolvedRecord t]

/-- Resolves each of a list of tokens, up to the first that fails. -/
def resolveTokens (s : Store) : List Token → Attempt Token.RenderError (List (Token × String))
  | [] => pure []
  | t :: ts => do
    let text ← (⟨s.resolveToken t, s.resolveRecords t⟩ : Logged (Except Token.RenderError String))
    let rest ← s.resolveTokens ts
    return (t, text) :: rest

/-- Resolves a text. -/
def resolveText (s : Store) (text : String) : Attempt Token.RenderError String := do
  let table ← s.resolveTokens (Template.tokens text).eraseDups
  return Template.fill (fun t => (table.lookup t).getD "") text

/-- Resolves a value as text: a text by its tokens, any other value by its own text. -/
def interpolate (s : Store) : Json → Attempt Token.RenderError String
  | .str text => s.resolveText text
  | value => pure value.plain

end Store

end Runbook
