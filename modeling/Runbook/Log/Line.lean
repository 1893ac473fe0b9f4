import Runbook.Decimal.Notation
import Runbook.Json.Printer
import Runbook.Log.Basic

/-!
# Log lines

A record is written as one line of JSON: when, how much it matters, which part of the engine wrote it, and
the message. The fields that say to which run and step it belongs follow, in this order; all other fields
are kept together in a member of their own.
-/

/-!
## Instants

An instant counts seconds from the start of the year 1970 in universal time, and microseconds beside them.
It is written with its date in the Gregorian calendar, which is extended to all years, as in
`2023-11-14T22:13:20+00:00`; microseconds are written only if there are any.

Years are counted from the first of March, so that the day that leap years add is the last of its year.
Four hundred years have the same number of days always.
-/

namespace Runbook.Log

/-- A date of the calendar. -/
structure Date where
  year : Int
  month : Nat
  day : Nat
  deriving DecidableEq, Repr

/-- The days of four hundred years. -/
def daysOfEra : Nat := 146097

/-- The days from the first of March of the year 0 to the start of the year 1970. -/
def daysTo1970 : Int := 719468

/-- The date so many days after the start of the year 1970. -/
def Date.ofDays (days : Int) : Date :=
  let shifted := days + daysTo1970
  let era := shifted / daysOfEra
  let dayOfEra := (shifted % daysOfEra).toNat
  -- A year has 365 days, and one more every 4 years, but not every 100, but every 400.
  let year := (dayOfEra - dayOfEra / 1460 + dayOfEra / 36524 - dayOfEra / 146096) / 365
  let dayOfYear := dayOfEra - (365 * year + year / 4 - year / 100)
  -- From March on, five months have 153 days always.
  let march := (5 * dayOfYear + 2) / 153
  let month := if march < 10 then march + 3 else march - 9
  { year := era * 400 + year + if month ≤ 2 then 1 else 0
    month := month
    day := dayOfYear - (153 * march + 2) / 5 + 1 }

/-- A point in time. -/
structure Instant where
  seconds : Int
  micros : Nat := 0
  deriving DecidableEq, Repr

/-- Why a number of seconds has no written instant. -/
inductive InstantError where
  /-- It is not a number. -/
  | undefined
  /-- It does not fit into 64 bits. -/
  | tooFar
  /-- Its year does not fit into 32 bits. -/
  | yearTooFar
  /-- Its year has not four digits. -/
  | noSuchYear
  deriving DecidableEq, Repr

namespace Instant

/-- The instant so many milliseconds after the start of the year 1970. -/
def ofMillis (ms : Int) : Instant :=
  ⟨ms / 1000, (ms % 1000).toNat * 1000⟩

/-- The instant a number of seconds after the start of the year 1970. What is left of a second is taken
a million times, and then rounded to microseconds, a half going to the even neighbour. -/
def ofFloat (x : Float) : Except InstantError Instant :=
  match Decimal.Value.ofFloat x with
  | .nan => .error .undefined
  | .infinite _ => .error .tooFar
  | .finite negative mantissa exponent =>
    let den := Nat.pow 2 (-exponent).toNat
    let whole : Int := ((mantissa * Nat.pow 2 exponent.toNat / den : Nat) : Int)
    let part := Decimal.nearest false (mantissa * Nat.pow 2 exponent.toNat % den) den
    let micros : Int := match Decimal.Value.ofFloat (part * 1000000.0) with
      | .finite _ m e =>
        ((Decimal.roundHalfEven (m * Nat.pow 2 e.toNat) (Nat.pow 2 (-e).toNat) : Nat) : Int)
      | _ => 0
    let total := (whole * 1000000 + micros) * if negative then -1 else 1
    .ok ⟨total / 1000000, (total % 1000000).toNat⟩

/-- The last `count` decimal digits of `n`. -/
def padded (count n : Nat) : String :=
  let digits := Decimal.digitText n
  String.ofList (List.replicate (count - digits.length) '0' ++ digits)

/-- The date and the time of day. -/
def write (t : Instant) : Except InstantError String :=
  let date := Date.ofDays (t.seconds / 86400)
  let second := (t.seconds % 86400).toNat
  let fraction := if t.micros == 0 then "" else "." ++ padded 6 t.micros
  if t.seconds < -Int.pow 2 63 || Int.pow 2 63 ≤ t.seconds then .error .tooFar
  else if date.year - 1900 < -Int.pow 2 31 || Int.pow 2 31 ≤ date.year - 1900 then .error .yearTooFar
  else if date.year < 1 || 9999 < date.year then .error .noSuchYear
  else
    let day := s!"{padded 4 date.year.toNat}-{padded 2 date.month}-{padded 2 date.day}"
    let time := s!"{padded 2 (second / 3600)}:{padded 2 (second / 60 % 60)}:{padded 2 (second % 60)}"
    .ok s!"{day}T{time}{fraction}+00:00"

end Instant

/-! ## Lines -/

/-- The names that a record uses for itself; a field under one of them is not written. -/
def reservedKeys : List String :=
  ["args", "asctime", "created", "exc_info", "exc_text", "filename", "funcName", "levelname", "levelno",
    "lineno", "module", "msecs", "message", "msg", "name", "pathname", "process", "processName",
    "relativeCreated", "stack_info", "taskName", "thread", "threadName"]

/-- A record as it is written, with the time of writing. -/
structure Line where
  time : Instant
  level : String
  logger : String
  message : String
  fields : Fields := []

namespace Line

/-- Is a field written? Names that start with an underscore are private. -/
def isShown (key : String) : Bool :=
  !reservedKeys.contains key && key.toList.head? != some '_'

/-- The members that a line ends in: the context in its order, and the other fields together. -/
def members (fields : Fields) : Fields :=
  let shown := fields.filter fun field => isShown field.1
  let context := contextKeys.filterMap fun key => (Fields.get? key shown).map fun json => (key, json)
  let others := shown.filter fun field => !contextKeys.contains field.1
  context ++ if others.isEmpty then [] else [("extra", .record others)]

/-- The line of a record. -/
def write (l : Line) : Except InstantError String := do
  let time ← l.time.write
  return Json.line <| .record <|
    [("timestamp", .str time), ("level", .str l.level), ("logger", .str l.logger),
      ("message", .str l.message)] ++ members l.fields

/-- A record written at a time. -/
def ofRecord (time : Instant) (r : Record) : Line :=
  ⟨time, r.level.name, r.source.name, r.message, r.fields⟩

end Line

end Runbook.Log
