import Runbook.Text.Blank
import Runbook.Token.Basic

/-!
# Tokens in a text

`Template.segments` cuts a text into tokens and the characters between them. From the segments come the
places of the tokens (`Template.spans`), the tokens themselves (`Template.tokens`) and the text with the
tokens replaced (`Template.fill`).

No token can start inside another, so the segments do not depend on where cutting begins.
-/

namespace Runbook

/-- A token or a character that is not part of one. -/
inductive Segment where
  | char (c : Char)
  | token (t : Token)
  deriving DecidableEq, Repr

/-- The characters of a segment. -/
def Segment.chars : Segment → List Char
  | char c => [c]
  | token t => t.chars

/-- A token and its place in a text: its first position and the one after its last. -/
structure Span where
  start : Nat
  stop : Nat
  token : Token
  deriving DecidableEq, Repr

namespace Template

/-- Cuts a text into segments; its first `skip` characters belong to a token that was cut before. -/
def segmentsFrom : (skip : Nat) → List Char → List Segment
  | _, [] => []
  | skip + 1, _ :: cs => segmentsFrom skip cs
  | 0, c :: cs =>
    match Token.read? (c :: cs) with
    | some (t, _) => .token t :: segmentsFrom (t.chars.length - 1) cs
    | none => .char c :: segmentsFrom 0 cs

/-- Cuts a text into segments. -/
def segments (cs : List Char) : List Segment :=
  segmentsFrom 0 cs

/-- The tokens among segments, the first of which starts at `position`. -/
def spansFrom : (position : Nat) → List Segment → List Span
  | _, [] => []
  | position, .char _ :: rest => spansFrom (position + 1) rest
  | position, .token t :: rest =>
    let stop := position + t.chars.length
    ⟨position, stop, t⟩ :: spansFrom stop rest

/-- The tokens of a text with their places, from left to right. -/
def spans (text : String) : List Span :=
  spansFrom 0 (segments text.toList)

/-- The token, if a segment is one. -/
def token? : Segment → Option Token
  | .token t => some t
  | .char _ => none

/-- The tokens of a text, from left to right. -/
def tokens (text : String) : List Token :=
  (segments text.toList).filterMap token?

/-- Does a text have a token? -/
def hasTokens (text : String) : Bool :=
  !(tokens text).isEmpty

/-- What the tokens of a text refer to, from left to right. A field that stands for the whole value is
not a field. -/
def references (text : String) : List Token :=
  (tokens text).map fun t => if t.isRaw then { t with field := none } else t

/-- The characters of segments whose tokens are replaced. -/
def fillSegments (replace : Token → List Char) (segments : List Segment) : List Char :=
  segments.flatMap fun
    | .char c => [c]
    | .token t => replace t

/-- The text with each token replaced and all else kept. -/
def fill (replace : Token → String) (text : String) : String :=
  String.ofList (fillSegments (fun t => (replace t).toList) (segments text.toList))

end Template

/-- Reads a text that is one token and nothing else but blanks around it. -/
def Token.parse? (text : String) : Option Token :=
  match Token.read? (Text.trimChars text.toList) with
  | some (t, []) => some t
  | _ => none

end Runbook
