import Runbook.Condition.Literal

/-!
# The structure of a condition

Reading a condition decides, in this order: `true` or `false` in any case is a constant; a leading `!`
negates all that follows; `&&` splits it into parts that must all hold; otherwise `||` splits it into
parts of which one must hold; otherwise the first of `>= <= == != > <` that splits it into exactly two
operands compares these; anything else is a text that is true or not by itself. Operators inside strings
never split, and empty parts are dropped.
-/

namespace Runbook.Condition

/-- How two operands are compared. -/
inductive Comparison where
  | ge
  | le
  | eq
  | ne
  | gt
  | lt
  deriving DecidableEq, Repr

namespace Comparison

/-- The operator of a comparison. -/
def symbol : Comparison → String
  | ge => ">="
  | le => "<="
  | eq => "=="
  | ne => "!="
  | gt => ">"
  | lt => "<"

/-- The comparisons in the order in which they are tried. -/
def all : List Comparison :=
  [ge, le, eq, ne, gt, lt]

end Comparison

/-- A condition. -/
inductive Expr where
  | constant (value : Bool)
  | not (operand : Expr)
  | all (parts : List Expr)
  | any (parts : List Expr)
  | compare (op : Comparison) (left right : Operand)
  /-- A text that is true unless it is empty or a pair of quotes. -/
  | truthy (text : String)

/-- Is a lexeme this operator? -/
def Lexeme.isOperator (op : List Char) (l : Lexeme) : Bool :=
  l.kind == .operator && l.text == op

/-- The lexemes between the operators `op`, empty groups included. -/
def groups (op : List Char) : List Lexeme → List (List Lexeme)
  | [] => [[]]
  | l :: ls =>
    if l.isOperator op then [] :: groups op ls
    else match groups op ls with
      | [] => [[l]]
      | group :: rest => (l :: group) :: rest

/-- The part of a text that some lexemes cover, from the first to the last. -/
def cover (cs : List Char) (ls : List Lexeme) : Option (List Char) :=
  match ls.head?, ls.getLast? with
  | some first, some last => some (Text.trimChars ((cs.take last.stop).drop first.start))
  | _, _ => none

/-- The parts of a text between the operators `op` at its top level; empty parts are dropped. -/
def split (op : String) (cs : List Char) : List (List Char) :=
  (groups op.toList (lex cs)).filterMap (cover cs)

/-- The first comparison that splits a text into exactly two operands. -/
def comparison? (cs : List Char) : Option Expr :=
  Comparison.all.findSome? fun op =>
    match split op.symbol cs with
    | [left, right] => some (.compare op (operand left) (operand right))
    | _ => none

/-- Reads a condition. Every part is shorter than the whole, so the length bounds the depth. -/
def parseFrom : (fuel : Nat) → List Char → Expr
  | 0, cs => .truthy (String.ofList (Text.trimChars cs))
  | fuel + 1, cs =>
    let cs := Text.trimChars cs
    if lower cs = "true".toList then .constant true
    else if lower cs = "false".toList then .constant false
    else match cs with
      | '!' :: rest => .not (parseFrom fuel rest)
      | cs =>
        let parts := split "&&" cs
        if 2 ≤ parts.length then .all (parts.map (parseFrom fuel))
        else
          let parts := split "||" cs
          if 2 ≤ parts.length then .any (parts.map (parseFrom fuel))
          else (comparison? cs).getD (.truthy (String.ofList cs))

/-- Reads a condition. -/
def parse (text : String) : Expr :=
  parseFrom (text.length + 1) text.toList

end Runbook.Condition
