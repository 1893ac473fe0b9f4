import Runbook.Proofs.Decode.Record
import Runbook.Proofs.Storage.Shelf
import Runbook.Storage.Records

/-!
# Knowledge entries are kept

Saving and deleting entries is, in a file, what it is in a list: `Operation.apply` says what an operation makes
of a list of entries, and `perform_of_holds` that it makes the same of the entries in a file. The main statement,
`list_forM_perform`, is about any number of operations on a file that was missing before the first: whoever reads the
file afterwards finds the list that comes of the operations, in which no two entries have one id.

The times of entries must have no more digits than are read.
-/

namespace Runbook.Knowledge

/-! ## An entry is read back -/

/-- Has an integer no more digits than are read? -/
def IsShort (n : Int) : Prop :=
  (Decimal.digitText n.natAbs).length ≤ Json.maxDigits

instance (n : Int) : Decidable (IsShort n) :=
  inferInstanceAs (Decidable (_ ≤ _))

/-- Have both times of an entry no more digits than are read? -/
def Timed (k : Knowledge) : Prop :=
  IsShort k.createdAt ∧ IsShort k.updatedAt

theorem items_text (start : Nat) (texts : List String) :
    Decode.items Decode.text start (texts.map .str) = .accepted texts := by
  induction texts generalizing start with
  | nil => rfl
  | cons text rest ih =>
    rw [List.map_cons, Decode.items, ih]
    rfl

theorem decode_toJson (now : Int) (k : Knowledge) : decode now k.toJson = .accepted k := by
  have hkind : Decode.oneOf kinds .notLiteral (.str k.kind.name) = .accepted k.kind := by
    cases k.kind <;> rfl
  have htags : Decode.list Decode.text (.list (k.tags.map .str)) = .accepted k.tags := items_text 0 k.tags
  show decodeFields now _ = _
  simp only [decodeFields, Decode.Decoded.seq_eq_accepted, Decode.Decoded.map_eq_accepted]
  refine ⟨_, _, ⟨_, _, ⟨_, _, ⟨_, _, ⟨_, _, ⟨_, _, ⟨_, rfl, rfl⟩, rfl, rfl⟩, rfl, rfl⟩, ?_, rfl⟩, ?_, rfl⟩,
    rfl, rfl⟩, rfl, rfl⟩
  · exact (Decode.optional_of_get? rfl).2 hkind
  · exact (Decode.optional_of_get? rfl).2 htags

theorem keeps_of_timed {k : Knowledge} (h : k.Timed) : shelf.Keeps k := by
  refine ⟨?_, fun now => decode_toJson now k⟩
  have htags : Json.ItemsReadable (k.tags.map .str) := by
    rw [Json.itemsReadable_iff, List.forall_mem_map]
    exact fun _ _ => trivial
  show Fields.Distinct _ ∧ Json.FieldsReadable _
  exact ⟨by simp [Fields.Distinct], trivial, trivial, trivial, trivial, htags, h.1, h.2, trivial⟩

/-! ## Operations -/

/-- What is done with the entries of a file, and when. -/
inductive Operation where
  | save (now : Int) (entry : Knowledge)
  | delete (now : Int) (id : String)

namespace Operation

/-- Carries an operation out on the entries of a file. -/
def perform (path : FilePath) : Operation → ExceptT StorageError (StateM Workplace) Unit
  | save now entry => do
    let _ ← Knowledge.save (Machine.onDisk now) path entry
  | delete now id => do
    let _ ← shelf.delete (Machine.onDisk now) path id

/-- What an operation makes of a list of entries. An entry that is saved takes the place of the one with its id,
and is still as old as that one, or else goes to the end. -/
def apply (entries : List Knowledge) : Operation → List Knowledge
  | save now entry =>
    if entry.id ∈ entries.map Knowledge.id then
      entries.map fun old =>
        if old.id = entry.id then { entry with createdAt := old.createdAt, updatedAt := now } else old
    else entries ++ [{ entry with updatedAt := now }]
  | delete _ id => entries.filter fun old => old.id ≠ id

/-- Have the times that an operation writes no more digits than are read? -/
def Timed : Operation → Prop
  | save now entry => IsShort now ∧ IsShort entry.createdAt
  | delete _ _ => True

instance : (op : Operation) → Decidable op.Timed
  | save now entry => inferInstanceAs (Decidable (IsShort now ∧ IsShort entry.createdAt))
  | delete _ _ => inferInstanceAs (Decidable True)

variable {entries : List Knowledge} {op : Operation}

/-- An operation leaves no two entries with one id. -/
theorem nodup_apply (h : (entries.map Knowledge.id).Nodup) (op : Operation) :
    ((apply entries op).map Knowledge.id).Nodup := by
  cases op with
  | save now entry =>
    rw [apply]
    split
    · have hids : (entries.map fun old =>
          if old.id = entry.id then { entry with createdAt := old.createdAt, updatedAt := now } else old).map
            Knowledge.id = entries.map Knowledge.id := by
        rw [List.map_map]
        refine List.map_congr_left fun old _ => ?_
        by_cases hold : old.id = entry.id <;> simp [hold]
      rwa [hids]
    · rename_i hnew
      rw [List.map_append, List.map_singleton]
      exact List.nodup_append.2 ⟨h, by simp, by simpa using fun old hold heq => hnew (List.mem_map.2 ⟨old, hold, heq⟩)⟩
  | delete now id => exact h.sublist (List.filter_sublist.map _)

/-- The times of entries stay short. -/
theorem timed_apply (h : ∀ k ∈ entries, k.Timed) (hop : op.Timed) : ∀ k ∈ apply entries op, k.Timed := by
  cases op with
  | save now entry =>
    rw [apply]
    split
    · rw [List.forall_mem_map]
      intro old hold
      split
      · exact ⟨(h old hold).1, hop.1⟩
      · exact h old hold
    · rw [List.forall_mem_append, List.forall_mem_singleton]
      exact ⟨h, hop.2, hop.1⟩
  | delete now id => exact fun k hk => h k (List.mem_of_mem_filter hk)

/-- What is put on the shelf is what saving makes of the list, where ids are distinct. -/
theorem place_eq_apply (h : (entries.map Knowledge.id).Nodup) (now : Int) (entry : Knowledge) :
    (shelf.place { entry with updatedAt := now } entries).2 = apply entries (save now entry) := by
  induction entries with
  | nil => rfl
  | cons old rest ih =>
    rw [List.map_cons, List.nodup_cons] at h
    by_cases hold : old.id = entry.id
    · -- no entry after this one has its id
      have hrest : (rest.map fun old =>
          if old.id = entry.id then { entry with createdAt := old.createdAt, updatedAt := now } else old) = rest := by
        refine (List.map_congr_left fun later hlater => if_neg fun heq => h.1 ?_).trans (List.map_id rest)
        exact List.mem_map.2 ⟨later, hlater, heq.trans hold.symm⟩
      simp [Shelf.place, shelf, apply, hold, hrest]
    · have hkey : (shelf.key old == shelf.key { entry with updatedAt := now }) = false := beq_eq_false_iff_ne.2 hold
      rw [Shelf.place, hkey, if_neg Bool.false_ne_true]
      show old :: (shelf.place { entry with updatedAt := now } rest).2 = _
      rw [ih h.2]
      simp only [apply, List.map_cons, List.mem_cons, Ne.symm hold, false_or, if_neg hold]
      split <;> rfl

theorem apply_delete_of_notMem {now : Int} {id : String} (h : id ∉ entries.map Knowledge.id) :
    apply entries (delete now id) = entries := by
  rw [apply, List.filter_eq_self]
  exact fun old hold => decide_eq_true fun heq => h (List.mem_map.2 ⟨old, hold, heq⟩)

/-- An operation makes of the entries in a file what it makes of a list. -/
theorem perform_of_holds {path : FilePath} {w : Workplace} (holds : shelf.Holds path entries w.disk)
    (distinct : (entries.map Knowledge.id).Nodup) (timed : ∀ k ∈ apply entries op, k.Timed) :
    ∃ w', w.carryOut (perform path op) = (.ok (), w') ∧ shelf.Holds path (apply entries op) w'.disk := by
  have keeps : ∀ k ∈ apply entries op, shelf.Keeps k := fun k hk => keeps_of_timed (timed k hk)
  cases op with
  | save now entry =>
    rw [← place_eq_apply distinct] at keeps ⊢
    obtain ⟨d, hput, hholds⟩ := Shelf.put_of_holds holds keeps now
    refine ⟨⟨d, w.outputs ++ [.record (savedRecord path (shelf.place { entry with updatedAt := now } entries).1)]⟩,
      ?_, hholds⟩
    show w.carryOut ((shelf.put _ path { entry with updatedAt := now } >>= _) >>= _) = _
    rw [bind_assoc, Workplace.carryOut_bind hput]
    rfl
  | delete now id =>
    cases hremove : shelf.remove? id entries with
    | none =>
      refine ⟨w, ?_, ?_⟩
      · show w.carryOut (shelf.delete _ path id >>= _) = _
        rw [Workplace.carryOut_bind (Shelf.delete_of_remove?_eq_none holds now hremove)]
        rfl
      · rwa [apply_delete_of_notMem (Shelf.remove?_eq_none_iff.1 hremove)]
    | some others =>
      obtain ⟨d, hdelete, hholds⟩ := Shelf.delete_of_remove?_eq_some holds now hremove
      refine ⟨{ w with disk := d }, ?_, ?_⟩
      · show w.carryOut (shelf.delete _ path id >>= _) = _
        rw [Workplace.carryOut_bind hdelete]
        rfl
      · have hothers : others = apply entries (delete now id) := by
          rw [Shelf.eq_filter_of_remove? hremove, apply]
          refine List.filter_congr fun old _ => ?_
          by_cases hold : old.id = id <;> simp [shelf, hold]
        rwa [← hothers]

/-- Operations make of the entries in a file what they make of a list, however many there are. -/
theorem forM_perform_of_holds {path : FilePath} {w : Workplace} (holds : shelf.Holds path entries w.disk)
    (distinct : (entries.map Knowledge.id).Nodup) (timed : ∀ k ∈ entries, k.Timed) {ops : List Operation}
    (htimed : ∀ op ∈ ops, op.Timed) :
    ∃ w', w.carryOut (ops.forM (perform path)) = (.ok (), w') ∧
      shelf.Holds path (ops.foldl apply entries) w'.disk ∧ ((ops.foldl apply entries).map Knowledge.id).Nodup := by
  induction ops generalizing entries w with
  | nil => exact ⟨w, rfl, holds, distinct⟩
  | cons op ops ih =>
    rw [List.forall_mem_cons] at htimed
    have timed' := timed_apply timed htimed.1
    obtain ⟨w₁, hperform, holds₁⟩ := perform_of_holds holds distinct timed'
    obtain ⟨w₂, hrest, holds₂⟩ := ih holds₁ (nodup_apply distinct op) timed' htimed.2
    refine ⟨w₂, ?_, holds₂⟩
    show w.carryOut (perform path op >>= _) = _
    rw [Workplace.carryOut_bind hperform]
    exact hrest

/-- **A file of knowledge entries is an ordered map.** Whatever is saved and deleted, and whenever, in a file that was
missing before, who reads the file afterwards finds the list that comes of the operations, in which no two entries
have one id. An entry is found under its id and under no other. To delete an id tells whether an entry had it; if
none had, nothing is written. -/
theorem list_forM_perform {w : Workplace} {path : FilePath} (takes : w.disk.Takes path)
    (missing : w.disk.read path = .error .notFound) (ops : List Operation) (timed : ∀ op ∈ ops, op.Timed) :
    ((ops.foldl apply []).map Knowledge.id).Nodup ∧
      ∃ w', w.carryOut (ops.forM (perform path)) = (.ok (), w') ∧
        ∀ now,
          w'.carryOut (shelf.list (Machine.onDisk now) path) = (.ok (ops.foldl apply []), w') ∧
          (∀ id, ∃ found, w'.carryOut (shelf.get? (Machine.onDisk now) path id) = (.ok found, w') ∧
            ∀ k, found = some k ↔ k ∈ ops.foldl apply [] ∧ k.id = id) ∧
          ∀ id, ∃ w'', w'.carryOut (shelf.delete (Machine.onDisk now) path id) =
              (.ok (decide (id ∈ (ops.foldl apply []).map Knowledge.id)), w'') ∧
            (id ∉ (ops.foldl apply []).map Knowledge.id → w'' = w') := by
  obtain ⟨w', hrun, holds, distinct⟩ :=
    forM_perform_of_holds (Shelf.holds_of_missing takes missing) List.nodup_nil (by simp) timed
  refine ⟨distinct, w', hrun, fun now => ⟨Shelf.list_of_holds holds now, fun id => ?_, fun id => ?_⟩⟩
  · exact ⟨_, Shelf.get?_of_holds holds now id, fun k => Shelf.find?_eq_some_iff distinct⟩
  · cases hremove : shelf.remove? id (ops.foldl apply []) with
    | none =>
      have hid : id ∉ (ops.foldl apply []).map Knowledge.id := Shelf.remove?_eq_none_iff.1 hremove
      rw [decide_eq_false hid]
      exact ⟨w', Shelf.delete_of_remove?_eq_none holds now hremove, fun _ => rfl⟩
    | some others =>
      have hid : id ∈ (ops.foldl apply []).map Knowledge.id := by
        by_contra hnot
        rw [Shelf.remove?_eq_none_iff.2 hnot] at hremove
        cases hremove
      obtain ⟨d, hdelete, -⟩ := Shelf.delete_of_remove?_eq_some holds now hremove
      rw [decide_eq_true hid]
      exact ⟨_, hdelete, fun hnot => absurd hid hnot⟩

/-- An entry that is saved again stays where it is and as old as it was; the file is in a folder that is made for
it. -/
theorem list_forM_perform_again :
    let path : FilePath := ⟨0, ["state", "knowledge.json"]⟩
    let tone : Knowledge := { id := "tone", name := "Tone", content := "dry", createdAt := 1, updatedAt := 1 }
    let ops : List Operation :=
      [save 5 tone, save 6 { tone with id := "team" }, delete 7 "none",
        save 8 { tone with content := "warm", createdAt := 7 }]
    Disk.Takes {} path ∧ ({} : Disk).read path = .error .notFound ∧ (∀ op ∈ ops, op.Timed) ∧
      ∃ w', (Workplace.mk {} []).carryOut (ops.forM (perform path)) = (.ok (), w') ∧
        w'.carryOut (shelf.list (Machine.onDisk 9) path) =
          (.ok [{ tone with content := "warm", updatedAt := 8 }, { tone with id := "team", updatedAt := 6 }], w') := by
  intro path tone ops
  have takes : Disk.Takes {} ⟨0, ["state", "knowledge.json"]⟩ :=
    ⟨{ files := [(["state", "knowledge.json"], "".toUTF8)], folders := [["state"]] }, rfl⟩
  have missing : ({} : Disk).read ⟨0, ["state", "knowledge.json"]⟩ = .error .notFound := rfl
  have timed : ∀ op ∈ ops, op.Timed := by decide
  have hlist : ops.foldl apply [] =
      [{ tone with content := "warm", updatedAt := 8 }, { tone with id := "team", updatedAt := 6 }] := by
    decide
  obtain ⟨-, w', hrun, hreads⟩ := list_forM_perform (w := ⟨{}, []⟩) takes missing ops timed
  exact ⟨takes, missing, timed, w', hrun, hlist ▸ (hreads 9).1⟩

end Operation

end Runbook.Knowledge
