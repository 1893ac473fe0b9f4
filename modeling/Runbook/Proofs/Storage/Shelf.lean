import Mathlib.Data.List.Nodup
import Runbook.Proofs.Files.Contents
import Runbook.Proofs.Files.Disk
import Runbook.Proofs.Json.RoundTrip
import Runbook.Storage.Shelf

/-!
# A shelf holds what was put on it

Work on a shelf goes by the records that were read from its file, however the file came to hold them: `get?_of_list`,
`put_of_list`, `delete_of_list_of_eq_some`.

`shelf.Holds path items d` holds of a disk on which the file of the shelf is missing or keeps the records. It says
what reading the shelf comes to (`list_of_holds`, `get?_of_holds`), and it holds again of the new records when a
record was put on the shelf (`put_of_holds`) or a key was taken away (`delete_of_remove?_eq_some`). All this is
for records that are read back from what is written for them (`Shelf.Keeps`).
-/

namespace Runbook

namespace Workplace

variable {ε α β : Type} {w w' : Workplace}

/-- What work on the disk of a workplace comes to, and the workplace after it. -/
def carryOut (w : Workplace) (work : ExceptT ε (StateM Workplace) α) : Except ε α × Workplace :=
  (ExceptT.run work).run w

theorem carryOut_bind_eq (w : Workplace) (work : ExceptT ε (StateM Workplace) α)
    (next : α → ExceptT ε (StateM Workplace) β) :
    w.carryOut (work >>= next) =
      match w.carryOut work with
      | (.ok a, w') => w'.carryOut (next a)
      | (.error e, w') => (.error e, w') := by
  show (ExceptT.run (work >>= next)).run w = _
  rw [ExceptT.run_bind, StateT.run_bind]
  unfold carryOut
  rcases (ExceptT.run work).run w with ⟨_ | _, _⟩ <;> rfl

/-- Work that has come to a value goes on with it. -/
theorem carryOut_bind {work : ExceptT ε (StateM Workplace) α} {a : α} (h : w.carryOut work = (.ok a, w'))
    (next : α → ExceptT ε (StateM Workplace) β) : w.carryOut (work >>= next) = w'.carryOut (next a) := by
  rw [carryOut_bind_eq, h]

/-- Work that has failed does not go on. -/
theorem carryOut_bind_error {work : ExceptT ε (StateM Workplace) α} {e : ε}
    (h : w.carryOut work = (.error e, w')) (next : α → ExceptT ε (StateM Workplace) β) :
    w.carryOut (work >>= next) = (.error e, w') := by
  rw [carryOut_bind_eq, h]

/-- Work in two parts that comes to a value has come to one after the first. -/
theorem of_carryOut_bind {work : ExceptT ε (StateM Workplace) α} {next : α → ExceptT ε (StateM Workplace) β} {b : β}
    (h : w.carryOut (work >>= next) = (.ok b, w')) :
    ∃ a w'', w.carryOut work = (.ok a, w'') ∧ w''.carryOut (next a) = (.ok b, w') := by
  rw [carryOut_bind_eq] at h
  rcases hrun : w.carryOut work with ⟨_ | a, w''⟩
  · rw [hrun] at h
    cases h
  · rw [hrun] at h
    exact ⟨a, w'', rfl, h⟩

/-- Work that cannot fail comes to its value. -/
theorem carryOut_lift {work : StateM Workplace α} {a : α} (h : work.run w = (a, w')) :
    w.carryOut (ExceptT.lift work : ExceptT ε (StateM Workplace) α) = (.ok a, w') := by
  show (StateT.run work w >>= fun p => pure (Except.ok p.1, p.2) : Id (Except ε α × Workplace)) = _
  rw [h]
  rfl

end Workplace

namespace Shelf

variable {α : Type} {shelf : Shelf α} {items : List α} {path : FilePath} {key : String}

/-- Is a record read back from what is written for it? -/
structure Keeps (shelf : Shelf α) (record : α) : Prop where
  readable : (shelf.encode record).Readable
  decode_encode : ∀ now, shelf.decode now (shelf.encode record) = .accepted record

/-- Is the file of a shelf missing, with no records, or does it keep the records? -/
structure Holds (shelf : Shelf α) (path : FilePath) (items : List α) (d : Disk) : Prop where
  takes : d.Takes path
  reads : d.read path = .error .notFound ∧ items = [] ∨ d.read path = .ok (shelf.write items).toUTF8
  keeps : ∀ item ∈ items, shelf.Keeps item

/-- Where nothing is, a shelf holds nothing. -/
theorem holds_of_missing {d : Disk} (takes : d.Takes path) (missing : d.read path = .error .notFound) :
    shelf.Holds path [] d :=
  ⟨takes, .inl ⟨missing, rfl⟩, by simp⟩

/-! ## The records of a shelf -/

/-- Of records with keys of their own, the one that is found is the one that has the key. -/
theorem find?_eq_some_iff (distinct : (items.map shelf.key).Nodup) {item : α} :
    shelf.find? key items = some item ↔ item ∈ items ∧ shelf.key item = key := by
  constructor
  · intro h
    exact ⟨List.mem_of_find?_eq_some h, by simpa using List.find?_some h⟩
  · rintro ⟨hmem, hkey⟩
    obtain ⟨found, hfound⟩ : ∃ found, shelf.find? key items = some found :=
      Option.isSome_iff_exists.1 (List.find?_isSome.2 ⟨item, hmem, by simpa using hkey⟩)
    have hfoundKey : shelf.key found = key := by simpa using List.find?_some hfound
    rw [hfound, List.inj_on_of_nodup_map distinct (List.mem_of_find?_eq_some hfound) hmem
      (hfoundKey.trans hkey.symm)]

/-- A key is not taken away exactly if no record has it. -/
theorem remove?_eq_none_iff : shelf.remove? key items = none ↔ key ∉ items.map shelf.key := by
  simp [remove?, List.length_filter_eq_length_iff]

/-- All records that have the key are taken away. -/
theorem eq_filter_of_remove? {others : List α} (h : shelf.remove? key items = some others) :
    others = items.filter fun item => shelf.key item != key := by
  simp only [remove?] at h
  split at h
  · cases h
  · exact (Option.some.inj h).symm

/-! ## The text of a shelf -/

theorem decodeItems_encode (h : ∀ item ∈ items, shelf.Keeps item) (now : Int) (path : FilePath) (position : Nat) :
    shelf.decodeItems now path position (items.map shelf.encode) = pure items := by
  induction items generalizing position with
  | nil => rfl
  | cons item rest ih =>
    rw [List.forall_mem_cons] at h
    rw [List.map_cons, decodeItems, h.1.decode_encode, ih h.2]
    rfl

/-- The records that were written are read, and nothing is wrong with them. -/
theorem read_write (h : ∀ item ∈ items, shelf.Keeps item) (now : Int) (path : FilePath) :
    shelf.read now path (shelf.write items) = pure items := by
  have hreadable : (Json.list (items.map shelf.encode)).Readable :=
    Json.itemsReadable_iff.2 (List.forall_mem_map.2 fun item hitem => (h item hitem).readable)
  rw [read, write, Json.read_pretty hreadable]
  show ExceptT.lift (shelf.decodeItems now path 0 (items.map shelf.encode)) = _
  rw [decodeItems_encode h]
  rfl

/-! ## What is done with the records in a file

Whatever else reading the file comes to, all work on it goes on with the records that were read, in the workplace
after it. -/

theorem store_of_write {w : Workplace} {d : Disk} (now : Int)
    (hwrite : w.disk.write path (shelf.write items) = .ok d) :
    w.carryOut (shelf.store (Machine.onDisk now) path items) = (.ok (), { w with disk := d }) := by
  have hrun : ((Machine.onDisk now).write path (shelf.write items)).run w = (.ok (), { w with disk := d }) := by
    simp only [Machine.onDisk, StateT.run_bind, StateT.run_get, pure_bind, hwrite]
    rfl
  show w.carryOut (ExceptT.lift ((Machine.onDisk now).write path (shelf.write items)) >>= _) = _
  rw [Workplace.carryOut_bind (Workplace.carryOut_lift hrun)]
  rfl

section

variable {w w' : Workplace} {now : Int} (hlist : w.carryOut (shelf.list (Machine.onDisk now) path) = (.ok items, w'))

include hlist

theorem get?_of_list (key : String) :
    w.carryOut (shelf.get? (Machine.onDisk now) path key) = (.ok (shelf.find? key items), w') := by
  rw [get?, Workplace.carryOut_bind hlist]
  rfl

theorem put_of_list {d : Disk} {record : α}
    (hwrite : w'.disk.write path (shelf.write (shelf.place record items).2) = .ok d) :
    w.carryOut (shelf.put (Machine.onDisk now) path record) =
      (.ok (shelf.place record items).1, { w' with disk := d }) := by
  rw [put, Workplace.carryOut_bind hlist]
  show w'.carryOut (shelf.store _ path _ >>= _) = _
  rw [Workplace.carryOut_bind (store_of_write now hwrite)]
  rfl

/-- A key that no record has is not taken away, and nothing is written. -/
theorem delete_of_list_of_eq_none (hkey : shelf.remove? key items = none) :
    w.carryOut (shelf.delete (Machine.onDisk now) path key) = (.ok false, w') := by
  rw [delete, Workplace.carryOut_bind hlist, hkey]
  rfl

theorem delete_of_list_of_eq_some {d : Disk} {others : List α} (hkey : shelf.remove? key items = some others)
    (hwrite : w'.disk.write path (shelf.write others) = .ok d) :
    w.carryOut (shelf.delete (Machine.onDisk now) path key) = (.ok true, { w' with disk := d }) := by
  rw [delete, Workplace.carryOut_bind hlist, hkey]
  show w'.carryOut (shelf.store _ path _ >>= _) = _
  rw [Workplace.carryOut_bind (store_of_write now hwrite)]
  rfl

end

/-! ## The file of a shelf that holds records -/

variable {w : Workplace} {now : Int}

theorem list_of_holds (h : shelf.Holds path items w.disk) (now : Int) :
    w.carryOut (shelf.list (Machine.onDisk now) path) = (.ok items, w) := by
  have hrun : ((Machine.onDisk now).read path).run w = (w.disk.read path, w) := rfl
  show w.carryOut (ExceptT.lift ((Machine.onDisk now).read path) >>= _) = _
  rw [Workplace.carryOut_bind (Workplace.carryOut_lift hrun)]
  rcases h.reads with ⟨hmissing, rfl⟩ | hbytes
  · rw [hmissing]
    rfl
  · have htext : Files.text? (shelf.write items).toUTF8 = some (shelf.write items) := Files.text?_pretty _
    have hitems := read_write h.keeps now path
    simp only [hbytes, htext]
    show w.carryOut ((Machine.onDisk now).carryOut (shelf.read now path (shelf.write items))) = _
    rw [hitems]
    rfl

theorem get?_of_holds (h : shelf.Holds path items w.disk) (now : Int) (key : String) :
    w.carryOut (shelf.get? (Machine.onDisk now) path key) = (.ok (shelf.find? key items), w) :=
  get?_of_list (list_of_holds h now) key

/-- Records that are written to the file are what the shelf holds afterwards. -/
theorem holds_of_write {d d' : Disk} (keeps : ∀ item ∈ items, shelf.Keeps item)
    (hwrite : d.write path (shelf.write items) = .ok d') : shelf.Holds path items d' :=
  ⟨Disk.takes_of_write hwrite, .inr (Disk.read_of_write hwrite), keeps⟩

theorem put_of_holds {record : α} (h : shelf.Holds path items w.disk)
    (keeps : ∀ item ∈ (shelf.place record items).2, shelf.Keeps item) (now : Int) :
    ∃ d, w.carryOut (shelf.put (Machine.onDisk now) path record) =
        (.ok (shelf.place record items).1, { w with disk := d }) ∧
      shelf.Holds path (shelf.place record items).2 d := by
  obtain ⟨d, hwrite⟩ := h.takes.exists_write (shelf.write (shelf.place record items).2)
  exact ⟨d, put_of_list (list_of_holds h now) hwrite, holds_of_write keeps hwrite⟩

/-- A key that no record has is not taken away, and nothing is written. -/
theorem delete_of_remove?_eq_none (h : shelf.Holds path items w.disk) (now : Int)
    (hkey : shelf.remove? key items = none) :
    w.carryOut (shelf.delete (Machine.onDisk now) path key) = (.ok false, w) :=
  delete_of_list_of_eq_none (list_of_holds h now) hkey

theorem delete_of_remove?_eq_some (h : shelf.Holds path items w.disk) (now : Int) {others : List α}
    (hkey : shelf.remove? key items = some others) :
    ∃ d, w.carryOut (shelf.delete (Machine.onDisk now) path key) = (.ok true, { w with disk := d }) ∧
      shelf.Holds path others d := by
  have keeps : ∀ item ∈ others, shelf.Keeps item := by
    rw [eq_filter_of_remove? hkey]
    exact fun item hitem => h.keeps item (List.mem_of_mem_filter hitem)
  obtain ⟨d, hwrite⟩ := h.takes.exists_write (shelf.write others)
  exact ⟨d, delete_of_list_of_eq_some (list_of_holds h now) hkey hwrite, holds_of_write keeps hwrite⟩

end Shelf

end Runbook
