import Runbook.Proofs.Json.Readable
import Runbook.Proofs.Storage.Unreadable

/-!
# Files that are written again

Whoever puts a record on a shelf, or takes a key away, writes the whole file again, from the records that were read.
Each of them is then `rewritten`: it is what the record that is written for it decodes to. `shelf.Rewrites Good` says
which records can be written at all, and that nothing can be read but such records.

* `good_of_list` — what is read from a file can be written again.
* `list_of_write` — what is read from a file that was written.
* `filter_place`, `find?_place` — what becomes of the records with another key, and of the one with the key.
-/

namespace Runbook.Shelf

variable {α : Type} {shelf : Shelf α} {Good : α → Prop} {items elements : List α} {record : α} {key : String}
  {path : FilePath} {bytes : ByteArray} {now : Int} {w w' : Workplace} {d : Disk}

/-- What a record is when it was written and read; nothing if it does not decode any more. -/
def rewritten (shelf : Shelf α) (record : α) : Option α :=
  (shelf.decode 0 (shelf.encode record)).value?

/-- Is every record good that can be read, and can every good record be written and read? -/
structure Rewrites (shelf : Shelf α) (Good : α → Prop) : Prop where
  good_of_decode : ∀ ⦃now json record⦄, (Json.int now).Readable → json.Readable →
    shelf.decode now json = .accepted record → Good record
  readable : ∀ ⦃record⦄, Good record → (shelf.encode record).Readable
  /-- When a record is read again does not matter. -/
  decode_now : ∀ ⦃record⦄ now, Good record →
    shelf.decode now (shelf.encode record) = shelf.decode 0 (shelf.encode record)
  key_rewritten : ∀ ⦃record record'⦄, Good record → shelf.rewritten record = some record' →
    shelf.key record' = shelf.key record
  good_merge : ∀ ⦃old new⦄, Good old → Good new → Good (shelf.merge old new)
  key_merge : ∀ old new, shelf.key (shelf.merge old new) = shelf.key new

/-! ## What is read -/

theorem good_of_loaded (h : shelf.Rewrites Good) (hnow : (Json.int now).Readable) :
    ∀ record ∈ shelf.loaded now bytes, Good record := by
  intro record hrecord
  unfold loaded at hrecord
  split at hrecord
  · rename_i items hjson
    obtain ⟨text, -, hread⟩ := Option.map_eq_some_iff.1 hjson
    obtain ⟨item, hitem, hvalue⟩ := List.mem_filterMap.1 hrecord
    have hreadable := Json.itemsReadable_iff.1 (Json.readable_of_read hread) item hitem
    cases hdecode : shelf.decode now item with
    | accepted found =>
      rw [hdecode] at hvalue
      obtain rfl : found = record := Option.some.inj hvalue
      exact h.good_of_decode hnow hreadable hdecode
    | rejected issues =>
      rw [hdecode] at hvalue
      cases hvalue
  · cases hrecord

/-- Where no bytes are read, there are no records. -/
theorem list_of_read_error {e : FileError} (hread : w.disk.read path = .error e)
    (hlist : w.carryOut (shelf.list (Machine.onDisk now) path) = (.ok items, w')) : items = [] ∧ w' = w := by
  have hrun : ((Machine.onDisk now).read path).run w = (w.disk.read path, w) := rfl
  change w.carryOut (ExceptT.lift ((Machine.onDisk now).read path) >>= _) = _ at hlist
  rw [Workplace.carryOut_bind (Workplace.carryOut_lift hrun), hread] at hlist
  cases e <;> cases hlist <;> exact ⟨rfl, rfl⟩

/-- What is read from a file can be written again, and to read it changes nothing on the disk. -/
theorem good_of_list (h : shelf.Rewrites Good) (hnow : (Json.int now).Readable)
    (hlist : w.carryOut (shelf.list (Machine.onDisk now) path) = (.ok items, w')) :
    (∀ item ∈ items, Good item) ∧ w'.disk = w.disk := by
  cases hread : w.disk.read path with
  | error e =>
    obtain ⟨rfl, rfl⟩ := list_of_read_error hread hlist
    exact ⟨List.forall_mem_nil _, rfl⟩
  | ok bytes =>
    rw [list_of_read hread] at hlist
    cases hrefusal : refusal? bytes with
    | some error =>
      rw [hrefusal] at hlist
      cases hlist
    | none =>
      rw [hrefusal] at hlist
      obtain ⟨hitems, rfl⟩ := Prod.mk.inj hlist
      obtain rfl := Except.ok.inj hitems
      exact ⟨good_of_loaded h hnow, rfl⟩

/-! ## What is written -/

theorem json?_write (h : shelf.Rewrites Good) (good : ∀ item ∈ items, Good item) :
    json? (shelf.write items).toUTF8 = some (.ok (.list (items.map shelf.encode))) := by
  have hreadable : (Json.list (items.map shelf.encode)).Readable :=
    Json.itemsReadable_iff.2 (List.forall_mem_map.2 fun item hitem => h.readable (good item hitem))
  rw [json?, write, Files.text?_pretty, Option.map_some, Json.read_pretty hreadable]

theorem loaded_write (h : shelf.Rewrites Good) (good : ∀ item ∈ items, Good item) (now : Int) :
    shelf.loaded now (shelf.write items).toUTF8 = items.filterMap shelf.rewritten := by
  rw [loaded, json?_write h good]
  show (items.map shelf.encode).filterMap _ = _
  rw [List.filterMap_map]
  apply List.filterMap_congr
  intro item hitem
  show (shelf.decode now (shelf.encode item)).value? = _
  rw [h.decode_now now (good item hitem)]
  rfl

/-- Of a file that was written each record is read as it is when it is rewritten. -/
theorem list_of_write (h : shelf.Rewrites Good) (good : ∀ item ∈ items, Good item)
    (hread : w.disk.read path = .ok (shelf.write items).toUTF8) (now : Int) :
    ∃ w', w.carryOut (shelf.list (Machine.onDisk now) path) = (.ok (items.filterMap shelf.rewritten), w') ∧
      w'.disk = w.disk := by
  have hrefusal : refusal? (shelf.write items).toUTF8 = none := by rw [refusal?, json?_write h good]
  refine ⟨_, ?_, Workplace.disk_noted w (shelf.warnings now path (shelf.write items).toUTF8)⟩
  rw [list_of_read hread, hrefusal, loaded_write h good]

/-! ## What is put on a shelf -/

theorem place_of_eq {item : α} (hkey : shelf.key item = shelf.key record) (rest : List α) :
    shelf.place record (item :: rest) = (shelf.merge item record, shelf.merge item record :: rest) := by
  simp [place, hkey]

theorem place_of_ne {item : α} (hkey : shelf.key item ≠ shelf.key record) (rest : List α) :
    shelf.place record (item :: rest) = ((shelf.place record rest).1, item :: (shelf.place record rest).2) := by
  simp [place, hkey]

theorem forall_mem_place {P : α → Prop} (hmerge : ∀ old ∈ items, P (shelf.merge old record))
    (hitems : ∀ item ∈ items, P item) (hrecord : P record) : ∀ item ∈ (shelf.place record items).2, P item := by
  induction items with
  | nil => exact List.forall_mem_singleton.2 hrecord
  | cons item rest ih =>
    rw [List.forall_mem_cons] at hmerge hitems
    by_cases hkey : shelf.key item = shelf.key record
    · rw [place_of_eq hkey]
      exact List.forall_mem_cons.2 ⟨hmerge.1, hitems.2⟩
    · rw [place_of_ne hkey]
      exact List.forall_mem_cons.2 ⟨hitems.1, ih hmerge.2 hitems.2⟩

theorem good_place (h : shelf.Rewrites Good) (good : ∀ item ∈ items, Good item) (hrecord : Good record) :
    ∀ item ∈ (shelf.place record items).2, Good item :=
  forall_mem_place (fun old hold => h.good_merge (good old hold) hrecord) good hrecord

/-- A record with a key of its own goes to the end. -/
theorem place_of_notMem (hkey : shelf.key record ∉ items.map shelf.key) :
    shelf.place record items = (record, items ++ [record]) := by
  induction items with
  | nil => rfl
  | cons item rest ih =>
    rw [List.map_cons, List.mem_cons, not_or] at hkey
    rw [place_of_ne (Ne.symm hkey.1), ih hkey.2]
    rfl

/-- No other keys come on the shelf than that of the record. -/
theorem keys_place (h : shelf.Rewrites Good) (record : α) (items : List α) :
    (shelf.place record items).2.map shelf.key =
      if shelf.key record ∈ items.map shelf.key then items.map shelf.key
      else items.map shelf.key ++ [shelf.key record] := by
  split
  · rename_i hkey
    induction items with
    | nil => cases hkey
    | cons item rest ih =>
      by_cases hitem : shelf.key item = shelf.key record
      · rw [place_of_eq hitem, List.map_cons, List.map_cons, h.key_merge, hitem]
      · rw [List.map_cons, List.mem_cons] at hkey
        rw [place_of_ne hitem, List.map_cons, List.map_cons, ih (hkey.resolve_left (Ne.symm hitem))]
  · rename_i hkey
    rw [place_of_notMem hkey, List.map_append, List.map_singleton]

/-- The records with another key stay as they are. -/
theorem filter_place (h : shelf.Rewrites Good) (record : α) (items : List α) :
    (shelf.place record items).2.filter (fun item => shelf.key item != shelf.key record) =
      items.filter fun item => shelf.key item != shelf.key record := by
  induction items with
  | nil => simp [place]
  | cons item rest ih =>
    by_cases hkey : shelf.key item = shelf.key record
    · rw [place_of_eq hkey, List.filter_cons_of_neg (by simp [h.key_merge]), List.filter_cons_of_neg (by simp [hkey])]
    · rw [place_of_ne hkey, List.filter_cons_of_pos (by simpa using hkey),
        List.filter_cons_of_pos (by simpa using hkey), ih]

/-- The record that was put on the shelf is the first with its key that is read, if it is read at all. -/
theorem find?_place (h : shelf.Rewrites Good) (good : ∀ item ∈ items, Good item) (hrecord : Good record)
    {kept : α} (hkept : shelf.rewritten (shelf.place record items).1 = some kept) :
    shelf.find? (shelf.key record) ((shelf.place record items).2.filterMap shelf.rewritten) = some kept := by
  induction items with
  | nil =>
    have hkey := h.key_rewritten hrecord hkept
    have hfirst : shelf.rewritten record = some kept := hkept
    simp [place, find?, hfirst, hkey]
  | cons item rest ih =>
    rw [List.forall_mem_cons] at good
    by_cases hitem : shelf.key item = shelf.key record
    · rw [place_of_eq hitem] at hkept ⊢
      have hkey := h.key_rewritten (h.good_merge good.1 hrecord) hkept
      rw [h.key_merge] at hkey
      rw [List.filterMap_cons_some hkept]
      simp [find?, hkey]
    · rw [place_of_ne hitem] at hkept ⊢
      have hrest := ih good.2 hkept
      cases hold : shelf.rewritten item with
      | none => rwa [List.filterMap_cons_none hold]
      | some old =>
        have hkey := h.key_rewritten good.1 hold
        rw [List.filterMap_cons_some hold, find?, List.find?_cons_of_neg (by simpa [hkey] using hitem)]
        exact hrest

/-! ## Saving -/

variable {save : α → ExceptT StorageError (StateM Workplace) α} {stamp : α → α}

/-- A record that is saved is put on the shelf. -/
theorem SavesBy.save_of_list (saves : shelf.SavesBy now path save stamp)
    (hlist : w.carryOut (shelf.list (Machine.onDisk now) path) = (.ok items, w'))
    (hwrite : w'.disk.write path (shelf.write (shelf.place (stamp record) items).2) = .ok d) :
    ∃ w'', w.carryOut (save record) = (.ok (shelf.place (stamp record) items).1, w'') ∧ w''.disk = d := by
  obtain ⟨note, hsave⟩ := saves
  rw [hsave, Workplace.carryOut_bind (put_of_list hlist hwrite)]
  exact ⟨_, rfl, rfl⟩

end Runbook.Shelf
