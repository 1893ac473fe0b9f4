import Runbook.DataPoint.Basic

/-!
# Knowledge entries

A knowledge entry is a text kept under an id for the use of many workflows. In a run it is a data point
whose id is the id of the entry after `kb_`.
-/

namespace Runbook

/-- What the content of an entry stands for. -/
inductive Knowledge.Kind where
  | text
  | file
  | url
  deriving DecidableEq, Repr

/-- An entry of the knowledge base. -/
structure Knowledge where
  id : String
  name : String
  content : String := ""
  kind : Knowledge.Kind := .text
  tags : List String := []
  createdAt : Int
  updatedAt : Int
  deriving DecidableEq

namespace Knowledge

/-- The kinds of entries under their names. -/
def kinds : List (String × Kind) :=
  [("text", .text), ("file", .file), ("url", .url)]

/-- The name of a kind. -/
def Kind.name : Kind → String
  | text => "text"
  | file => "file"
  | url => "url"

open Decode in
/-- Decodes the members of an entry; a time that is not given is `now`. -/
def decodeFields (now : Int) (fields : Fields) : Decoded Knowledge :=
  Knowledge.mk
    <$> required ["id"] text fields
    <*> required ["name"] text fields
    <*> optional ["content"] text "" fields
    <*> optional ["type"] (oneOf kinds .notLiteral) .text fields
    <*> optional ["tags"] (list text) [] fields
    <*> optional ["createdAt", "created_at"] integer now fields
    <*> optional ["updatedAt", "updated_at"] integer now fields

/-- Decodes an entry. -/
def decode (now : Int) : Json → Decode.Decoded Knowledge :=
  Decode.record (decodeFields now)

/-- The name under which entries are expected. -/
def recordName : String := "KnowledgeEntry"

/-- An entry written as a record. -/
def toJson (k : Knowledge) : Json :=
  .record
    [("id", .str k.id), ("name", .str k.name), ("content", .str k.content), ("type", .str k.kind.name),
      ("tags", .list (k.tags.map .str)), ("createdAt", .int k.createdAt),
      ("updatedAt", .int k.updatedAt)]

/-- The data point of an entry. Its time is the last one of the entry that is not zero, or else `now`. -/
def toDataPoint (now : Int) (k : Knowledge) : DataPoint :=
  { id := s!"kb_{k.id}"
    name := s!"KB: {k.name}"
    kind := .context
    value := .record [("text", .str k.content), ("title", .str k.name), ("source", .str "kb")]
    source := "kb"
    timestamp := if k.updatedAt ≠ 0 then k.updatedAt else if k.createdAt ≠ 0 then k.createdAt else now }

end Knowledge

end Runbook
