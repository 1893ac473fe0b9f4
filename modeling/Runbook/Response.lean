import Runbook.Decode.Record
import Runbook.Json.Form

/-!
# Responses

A host answers a dispatched step with a response: whether it succeeded, what it produced, and what went
wrong.
-/

namespace Runbook

/-- The answer of a host to a step. -/
structure Response where
  success : Bool
  data : Json := .null
  error : Option String := none

namespace Response

open Decode in
/-- Decodes the members of a response. -/
def decodeFields (fields : Fields) : Decoded Response :=
  Response.mk
    <$> required ["success"] truth fields
    <*> optional ["data"] anything .null fields
    <*> optional ["error"] (nullable text) none fields

/-- The name under which responses are expected. -/
def recordName : String := "DispatchResponse"

/-- A response written as a record. -/
def toJson (r : Response) : Json :=
  .record [("success", .bool r.success), ("data", r.data.exchanged), ("error", Json.ofText? r.error)]

/-- Why a reply is not a response. -/
inductive ReplyError where
  /-- It is not a record; `kind` is the word for what it is. -/
  | notRecord (kind : String)
  /-- It is a record that does not fit. -/
  | rejected (rejection : Decode.Rejection)
  deriving DecidableEq, Repr

/-- The words for a reply that is not a response. -/
def ReplyError.message : ReplyError → String
  | notRecord kind => s!"Dispatcher returned {kind}, expected a response object"
  | rejected rejection => rejection.summary

/-- The word for the kind of a value in messages. -/
def kindWord : Json → String
  | .null => "NoneType"
  | .bool _ => "bool"
  | .int _ => "int"
  | .float _ => "float"
  | .str _ => "str"
  | .list _ => "list"
  | .record _ => "dict"

/-- Reads the raw reply of a host as a response. -/
def ofReply : Json → Except ReplyError Response
  | .record fields => ((decodeFields fields).orReject recordName).mapError .rejected
  | json => .error (.notRecord (kindWord json))

end Response

end Runbook
