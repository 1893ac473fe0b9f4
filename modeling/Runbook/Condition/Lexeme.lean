import Runbook.Text.Blank

/-!
# The lexemes of a condition

A condition is cut into strings in quotes, operators, and runs of other text; blanks separate lexemes and
belong to none. A quote opens a string unless a backslash stands before it, and the same quote closes it
unless a backslash stands before that; a string that is not closed goes on to the end. Of the operators
that stand at a place the longest is taken.
-/

namespace Runbook.Condition

/-- What a lexeme is. -/
inductive Lexeme.Kind where
  | text
  | string
  | operator
  deriving DecidableEq, Repr

/-- A piece of a condition and its place: its first position and the one after its last. -/
structure Lexeme where
  kind : Lexeme.Kind
  text : List Char
  start : Nat
  stop : Nat
  deriving DecidableEq, Repr

/-- The name of a kind of lexeme. -/
def Lexeme.Kind.name : Lexeme.Kind → String
  | text => "text"
  | string => "string"
  | operator => "operator"

/-- A quote. -/
def isQuote (c : Char) : Bool :=
  c == '"' || c == '\''

/-- The operator at the front of a text, if one stands there. -/
def operatorAt? : List Char → Option (List Char)
  | '&' :: '&' :: _ => some ['&', '&']
  | '|' :: '|' :: _ => some ['|', '|']
  | '>' :: '=' :: _ => some ['>', '=']
  | '<' :: '=' :: _ => some ['<', '=']
  | '=' :: '=' :: _ => some ['=', '=']
  | '!' :: '=' :: _ => some ['!', '=']
  | '>' :: _ => some ['>']
  | '<' :: _ => some ['<']
  | '!' :: _ => some ['!']
  | _ => none

/-- What has been read of the lexeme at hand, its characters in reverse. -/
inductive Lexeme.Pending where
  /-- No lexeme is at hand. -/
  | gap
  | text (start : Nat) (read : List Char)
  | string (quote : Char) (start : Nat) (read : List Char)
  /-- The second character of an operator comes next; the lexeme is out already. -/
  | operator

/-- The lexeme that ends at `position`. -/
def Lexeme.Pending.close (position : Nat) : Lexeme.Pending → List Lexeme
  | gap => []
  | operator => []
  | text start read => [⟨.text, read.reverse, start, position⟩]
  | string _ start read => [⟨.string, read.reverse, start, position⟩]

/-- Goes on with a run of text, or starts one. -/
def Lexeme.Pending.push (position : Nat) (c : Char) : Lexeme.Pending → Lexeme.Pending
  | text start read => text start (c :: read)
  | _ => text position [c]

/-- Cuts the text from `position` on into lexemes. `previous` is the character before it. -/
def lexFrom (pending : Lexeme.Pending) (previous : Option Char) (position : Nat) :
    List Char → List Lexeme
  | [] => pending.close position
  | c :: cs =>
    match pending with
    | .operator => lexFrom .gap (some c) (position + 1) cs
    | .string quote start read =>
      if c = quote && previous != some '\\' then
        ⟨.string, (c :: read).reverse, start, position + 1⟩ ::
          lexFrom .gap (some c) (position + 1) cs
      else lexFrom (.string quote start (c :: read)) (some c) (position + 1) cs
    | pending =>
      if Text.isBlank c then pending.close position ++ lexFrom .gap (some c) (position + 1) cs
      else if isQuote c && previous != some '\\' then
        pending.close position ++ lexFrom (.string c position [c]) (some c) (position + 1) cs
      else match operatorAt? (c :: cs) with
        | some op =>
          pending.close position ++ ⟨.operator, op, position, position + op.length⟩ ::
            lexFrom (if op.length = 2 then .operator else .gap) (some c) (position + 1) cs
        | none => lexFrom (pending.push position c) (some c) (position + 1) cs

/-- Cuts a text into lexemes. -/
def lex (cs : List Char) : List Lexeme :=
  lexFrom .gap none 0 cs

end Runbook.Condition
