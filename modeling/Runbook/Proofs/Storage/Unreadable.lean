import Runbook.Proofs.Storage.Shelf
import Runbook.Storage.Records

/-!
# Files that hold something else

Anything may stand in the file of a shelf. `shelf.loaded now bytes` are the records that are read from it: those of
the items that decode, if the bytes are a list in JSON, and else none. `shelf.warnings now path bytes` says what was
passed over. Bytes that are no text, and integers of too many digits, are refused instead (`Shelf.refusal?`).

* `Shelf.list_of_read` — what reading the file comes to, for all bytes.
* `Shelf.serves_of_read` — all work on a shelf goes by the records that were read; `Shelf.refuses_of_read` — where
  the bytes are refused none of it is done.
-/

namespace Runbook

namespace Workplace

variable {ε α : Type}

/-- The workplace with more records in its log. -/
def noted (w : Workplace) (records : List Log.Record) : Workplace :=
  { w with outputs := w.outputs ++ records.map .record }

@[simp] theorem disk_noted (w : Workplace) (records : List Log.Record) : (w.noted records).disk = w.disk := rfl

theorem run_tellAll (now : Int) (records : List Log.Record) (w : Workplace) :
    ((Machine.onDisk now).tellAll records).run w = ((), w.noted records) := by
  induction records generalizing w with
  | nil =>
    show ((), w) = _
    simp [noted]
  | cons record rest ih =>
    rw [Machine.tellAll, StateT.run_bind]
    show ((Machine.onDisk now).tellAll rest).run (w.noted [record]) = _
    rw [ih]
    simp [noted]

/-- What a computation says is in the log afterwards. -/
theorem carryOut_attempt (now : Int) (x : Attempt ε α) (w : Workplace) :
    w.carryOut ((Machine.onDisk now).carryOut x) = (x.outcome.value, w.noted x.outcome.records) := by
  show w.carryOut (ExceptT.lift ((Machine.onDisk now).tellAll x.outcome.records) >>= _) = _
  rw [carryOut_bind (carryOut_lift (run_tellAll now _ w))]
  rfl

end Workplace

namespace Shelf

variable {α : Type} (shelf : Shelf α) (now : Int) (path : FilePath) (bytes : ByteArray)

/-! ## What bytes hold -/

/-- The value that bytes hold as JSON; nothing if they are no text. -/
def json? : Option (Except Json.ReadError Json) :=
  (Files.text? bytes).map Json.read

/-- Why bytes are refused: they are no text, or have an integer of too many digits. -/
def refusal? : Option StorageError :=
  match json? bytes with
  | none => some .undecodable
  | some (.error error) => if error.isSyntax then none else some (.refused error)
  | some (.ok _) => none

/-- The records that are read from bytes: those of the items that decode, if the bytes hold a list. -/
def loaded : List α :=
  match json? bytes with
  | some (.ok (.list items)) => items.filterMap fun item => (shelf.decode now item).value?
  | _ => []

/-- The warnings about the items that do not decode, the first of the items at `position`. -/
def skipWarnings (position : Nat) (items : List Json) : List Log.Record :=
  (items.zipIdx position).filterMap fun (item, i) =>
    match shelf.decode now item with
    | .accepted _ => none
    | .rejected issues => some (shelf.skipWarning path i issues.length)

/-- The warnings about bytes. That there is nothing in a file is none. -/
def warnings : List Log.Record :=
  match json? bytes with
  | some (.ok (.list items)) => shelf.skipWarnings now path 0 items
  | some (.ok .null) | none => []
  | some (.ok _) => [shelf.emptyWarning path "has unexpected shape"]
  | some (.error _) => [shelf.emptyWarning path "is not valid JSON"]

/-! ## Reading -/

/-- An item that does not decode takes no other with it. -/
theorem decodeItems_eq (position : Nat) (items : List Json) :
    shelf.decodeItems now path position items =
      ⟨items.filterMap fun item => (shelf.decode now item).value?,
        shelf.skipWarnings now path position items⟩ := by
  induction items generalizing position with
  | nil => rfl
  | cons item rest ih =>
    rw [decodeItems]
    cases hitem : shelf.decode now item with
    | accepted record =>
      simp only [ih]
      simp [skipWarnings, hitem, Decode.Decoded.value?, Bind.bind, Logged.bind, Pure.pure]
    | rejected issues =>
      simp only [ih]
      simp [skipWarnings, hitem, Decode.Decoded.value?, Bind.bind, Logged.bind, Logged.tell]

variable {shelf now path bytes} {w : Workplace} {error : StorageError}

/-- What a text comes to, whatever it is. -/
theorem outcome_read {text : String} (htext : Files.text? bytes = some text) :
    Attempt.outcome (shelf.read now path text) =
      match refusal? bytes with
      | none => ⟨.ok (shelf.loaded now bytes), shelf.warnings now path bytes⟩
      | some error => ⟨.error error, []⟩ := by
  have hjson : json? bytes = some (Json.read text) := by rw [json?, htext, Option.map_some]
  simp only [refusal?, loaded, warnings, hjson, read]
  cases Json.read text with
  | error error => cases hmalformed : error.isSyntax <;> simp only [hmalformed] <;> rfl
  | ok json =>
    cases json with
    | list items =>
      show Attempt.outcome (ExceptT.lift (shelf.decodeItems now path 0 items)) = _
      rw [decodeItems_eq]
      show Logged.bind _ _ = _
      simp [Logged.bind]
    | _ => rfl

/-- What reading a file comes to, whatever bytes it has. -/
theorem list_of_read (holds : w.disk.read path = .ok bytes) :
    w.carryOut (shelf.list (Machine.onDisk now) path) =
      match refusal? bytes with
      | none => (.ok (shelf.loaded now bytes), w.noted (shelf.warnings now path bytes))
      | some error => (.error error, w) := by
  have hrun : ((Machine.onDisk now).read path).run w = (w.disk.read path, w) := rfl
  show w.carryOut (ExceptT.lift ((Machine.onDisk now).read path) >>= _) = _
  rw [Workplace.carryOut_bind (Workplace.carryOut_lift hrun), holds]
  cases htext : Files.text? bytes with
  | none =>
    have hrefusal : refusal? bytes = some .undecodable := by rw [refusal?, json?, htext, Option.map_none]
    simp only [htext, hrefusal]
    rfl
  | some text =>
    simp only [htext]
    show w.carryOut ((Machine.onDisk now).carryOut (shelf.read now path text)) = _
    rw [Workplace.carryOut_attempt, outcome_read htext]
    cases refusal? bytes with
    | none => rfl
    | some error => simp [Workplace.noted]

/-! ## Work on a shelf -/

/-- Work on the file of a shelf goes by these records, and what is wrong with the file is told beside it. A record is
stamped before it is saved. -/
structure Serves (shelf : Shelf α) (now : Int) (path : FilePath)
    (save : α → ExceptT StorageError (StateM Workplace) α) (stamp : α → α) (w : Workplace) (items : List α)
    (told : List Log.Record) : Prop where
  list : w.carryOut (shelf.list (Machine.onDisk now) path) = (.ok items, w.noted told)
  get : ∀ key, w.carryOut (shelf.get? (Machine.onDisk now) path key) = (.ok (shelf.find? key items), w.noted told)
  save : ∀ record, ∃ w', w.carryOut (save record) = (.ok (shelf.place (stamp record) items).1, w') ∧
    w.disk.write path (shelf.write (shelf.place (stamp record) items).2) = .ok w'.disk
  /-- A key that no record has is not taken away, and nothing is written. -/
  kept : ∀ key, shelf.remove? key items = none →
    w.carryOut (shelf.delete (Machine.onDisk now) path key) = (.ok false, w.noted told)
  removed : ∀ key others, shelf.remove? key items = some others →
    ∃ w', w.carryOut (shelf.delete (Machine.onDisk now) path key) = (.ok true, w') ∧
      w.disk.write path (shelf.write others) = .ok w'.disk

/-- No work is done on the file of a shelf: whatever is wanted fails, and nothing is written. -/
structure Refuses (shelf : Shelf α) (now : Int) (path : FilePath)
    (save : α → ExceptT StorageError (StateM Workplace) α) (w : Workplace) (error : StorageError) : Prop where
  list : w.carryOut (shelf.list (Machine.onDisk now) path) = (.error error, w)
  get : ∀ key, w.carryOut (shelf.get? (Machine.onDisk now) path key) = (.error error, w)
  save : ∀ record, w.carryOut (save record) = (.error error, w)
  delete : ∀ key, w.carryOut (shelf.delete (Machine.onDisk now) path key) = (.error error, w)

/-- Is a record saved by being stamped and put on the shelf, with a note on what is kept? -/
def SavesBy (shelf : Shelf α) (now : Int) (path : FilePath)
    (save : α → ExceptT StorageError (StateM Workplace) α) (stamp : α → α) : Prop :=
  ∃ note : α → Log.Record, ∀ record, save record = do
    let kept ← shelf.put (Machine.onDisk now) path (stamp record)
    (Machine.onDisk now).tell (note kept)
    return kept

variable {save : α → ExceptT StorageError (StateM Workplace) α} {stamp : α → α}

theorem serves_of_read (holds : w.disk.read path = .ok bytes) (takes : w.disk.Takes path)
    (readable : refusal? bytes = none) (saves : shelf.SavesBy now path save stamp) :
    shelf.Serves now path save stamp w (shelf.loaded now bytes) (shelf.warnings now path bytes) := by
  have hlist : w.carryOut (shelf.list (Machine.onDisk now) path) =
      (.ok (shelf.loaded now bytes), w.noted (shelf.warnings now path bytes)) := by
    rw [list_of_read holds, readable]
  obtain ⟨note, hsave⟩ := saves
  refine ⟨hlist, get?_of_list hlist, fun record => ?_, fun key => delete_of_list_of_eq_none hlist,
    fun key others hkey => ?_⟩
  · obtain ⟨d, hwrite⟩ :=
      takes.exists_write (shelf.write (shelf.place (stamp record) (shelf.loaded now bytes)).2)
    rw [hsave, Workplace.carryOut_bind (put_of_list hlist hwrite)]
    exact ⟨_, rfl, hwrite⟩
  · obtain ⟨d, hwrite⟩ := takes.exists_write (shelf.write others)
    exact ⟨_, delete_of_list_of_eq_some hlist hkey hwrite, hwrite⟩

theorem refuses_of_read (holds : w.disk.read path = .ok bytes) (refused : refusal? bytes = some error)
    (saves : shelf.SavesBy now path save stamp) :
    shelf.Refuses now path save w error := by
  have hlist : w.carryOut (shelf.list (Machine.onDisk now) path) = (.error error, w) := by
    rw [list_of_read holds, refused]
  obtain ⟨note, hsave⟩ := saves
  refine ⟨hlist, fun key => ?_, fun record => ?_, fun key => ?_⟩
  · rw [get?, Workplace.carryOut_bind_error hlist]
  · have hput : w.carryOut (shelf.put (Machine.onDisk now) path (stamp record)) = (.error error, w) := by
      rw [put, Workplace.carryOut_bind_error hlist]
    rw [hsave, Workplace.carryOut_bind_error hput]
  · rw [delete, Workplace.carryOut_bind_error hlist]

end Shelf

end Runbook
