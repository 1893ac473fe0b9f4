/-!
# Tokens

A token stands in a text for a data point, or for one field of its value. It is written `${id}` or
`${id.field}`, where id and field are made of the letters and digits of ASCII, `_` and `-`. The field
`__raw__` asks for the whole value.

`Token.read?` reads a token at the front of a text and `Token.chars` writes one. Reading accepts exactly
what writing a well-formed token produces.
-/

namespace Runbook

/-- A reference to a data point or to one field of it. -/
structure Token where
  dataPointId : String
  field : Option String := none
  deriving DecidableEq, Repr

namespace Token

/-- The field that stands for the whole value. -/
def rawField : String := "__raw__"

/-- Does the token ask for the whole value by name? -/
def isRaw (t : Token) : Bool :=
  t.field == some rawField

/-- The characters of ids and fields. -/
def isIdentChar (c : Char) : Bool :=
  ('a' ≤ c && c ≤ 'z') || ('A' ≤ c && c ≤ 'Z') || ('0' ≤ c && c ≤ '9') || c == '_' || c == '-'

/-- An id or field as it can stand in a token. -/
def isIdent (s : String) : Bool :=
  !s.isEmpty && s.toList.all isIdentChar

/-- Are id and field such that they can be read back? -/
def isWellFormed (t : Token) : Bool :=
  isIdent t.dataPointId && t.field.all isIdent

/-- The characters of the token; an empty field is left out. -/
def chars (t : Token) : List Char :=
  match t.field with
  | some field =>
    if field.isEmpty then '$' :: '{' :: (t.dataPointId.toList ++ ['}'])
    else '$' :: '{' :: (t.dataPointId.toList ++ '.' :: (field.toList ++ ['}']))
  | none => '$' :: '{' :: (t.dataPointId.toList ++ ['}'])

/-- The text of the token. -/
def write (t : Token) : String :=
  String.ofList t.chars

/-- Reads what follows the opening of a token: the id, a field or none, and the closing brace. -/
def readBody? (cs : List Char) : Option (Token × List Char) :=
  let id := cs.takeWhile isIdentChar
  if id.isEmpty then none
  else match cs.dropWhile isIdentChar with
    | '}' :: rest => some (⟨String.ofList id, none⟩, rest)
    | '.' :: cs =>
      let field := cs.takeWhile isIdentChar
      if field.isEmpty then none
      else match cs.dropWhile isIdentChar with
        | '}' :: rest => some (⟨String.ofList id, some (String.ofList field)⟩, rest)
        | _ => none
    | _ => none

/-- Reads a token at the front of a text; the second component is what follows it. -/
def read? : List Char → Option (Token × List Char)
  | '$' :: '{' :: cs => readBody? cs
  | _ => none

end Token

end Runbook
