import Runbook.Proofs.Decode.Record
import Runbook.Proofs.Json.Readable
import Runbook.Proofs.Workflow.Decode

/-!
# What is decoded from values that can be read

Of a record that can be read back, the values of the fields and the members that no field took can be read back, too;
integers of no more digits than are read decode to such integers (`readable_of_integer`), in whatever form they come.
-/

namespace Runbook.Decode

open Decoded

variable {α β : Type} {names : Names} {name : String} {json : Json} {fields : Fields} {decode : Json → Decoded α}

/-! ## Fields -/

theorem mem_of_get? (h : fields.get? name = some json) : (name, json) ∈ fields := by
  obtain ⟨field, hfind, rfl⟩ := Option.map_eq_some_iff.1 h
  have hname : field.1 = name := by simpa using List.find?_some hfind
  exact hname ▸ List.mem_of_find?_eq_some hfind

theorem mem_of_find (h : find names fields = some (name, json)) : (name, json) ∈ fields :=
  mem_of_get? (get?_of_find h).2

/-- What holds of every value that is accepted from a value that can be read, and of the one that stands for an absent
field, holds of an optional field. -/
theorem of_optional_readable {absent a : α} {P : α → Prop} (h : optional names decode absent fields = accepted a)
    (readable : (Json.record fields).Readable) (habsent : P absent)
    (hdecode : ∀ json a, json.Readable → decode json = accepted a → P a) : P a := by
  unfold optional at h
  split at h
  · rename_i name json hfind
    exact hdecode json a ((Json.readable_record_iff.1 readable).2 _ (mem_of_find hfind)) (within_eq_accepted.1 h)
  · exact accepted.inj h ▸ habsent

theorem extras_sublist (allNames : List Names) (fields : Fields) : (extras allNames fields).Sublist fields :=
  List.filter_sublist

theorem readable_extras (readable : (Json.record fields).Readable) (allNames : List Names) :
    (Json.record (extras allNames fields)).Readable :=
  Json.readable_record_of_sublist readable (extras_sublist allNames fields)

theorem of_map_readable {input : Fields} (h : optional names map [] fields = accepted input)
    (readable : (Json.record fields).Readable) : (Json.record input).Readable := by
  refine of_optional_readable (P := fun input => (Json.record input).Readable) h readable
    ⟨List.nodup_nil, trivial⟩ ?_
  intro json input hread hmap
  cases json with
  | record more => exact accepted.inj hmap ▸ hread
  | _ => cases hmap

/-! ## Lists -/

/-- What holds of every value that is accepted from an item that can be read holds of those of a list. -/
theorem of_list_readable {values : List α} {P : α → Prop}
    (h : optional names (list decode) [] fields = accepted values) (readable : (Json.record fields).Readable)
    (hdecode : ∀ json a, json.Readable → decode json = accepted a → P a) : ∀ a ∈ values, P a := by
  intro a ha
  obtain ⟨name, -, jsons, hget, item, hitem, hitemDecode⟩ := exists_item_of_list h a ha
  have hread : (Json.list jsons).Readable := (Json.readable_record_iff.1 readable).2 _ (mem_of_get? hget)
  exact hdecode item a (Json.itemsReadable_iff.1 hread item hitem) hitemDecode

/-- A list is decoded item by item. -/
theorem items_map {write : α → Json} {decode : Json → Decoded β} {f : α → β} {values : List α}
    (h : ∀ a ∈ values, decode (write a) = accepted (f a)) (start : Nat) :
    items decode start (values.map write) = accepted (values.map f) := by
  induction values generalizing start with
  | nil => rfl
  | cons a rest ih =>
    rw [List.forall_mem_cons] at h
    rw [List.map_cons, items, ih h.2, h.1]
    rfl

/-! ## Integers -/

theorem readable_of_readNumeral {cs : List Char} {n : Int} (h : readNumeral cs = .value n) : (Json.int n).Readable := by
  unfold readNumeral at h
  split at h
  rename_i negative body hsign
  dsimp only at h
  split at h
  · cases h
  · rename_i first others hdigits
    have hne : body.takeWhile Decimal.isDigit ≠ [] := by simp [hdigits]
    have hlength := Decimal.length_digitText_ofDigits hne
    have hmax : maxIntegerText = Json.maxDigits := rfl
    split_ifs at h with hzero hnegative hlong hrest hlong hrest
    · obtain rfl := Numeral.value.inj h
      show (Decimal.digitText (Int.natAbs (-_))).length ≤ Json.maxDigits
      rw [Int.natAbs_neg, Int.natAbs_natCast]
      omega
    · obtain rfl := Numeral.value.inj h
      show (Decimal.digitText (Int.natAbs _)).length ≤ Json.maxDigits
      rw [Int.natAbs_natCast]
      omega

theorem readable_of_integerOfText {s : String} {n : Int} (h : integerOfText s = accepted n) :
    (Json.int n).Readable := by
  unfold integerOfText at h
  split at h
  · rename_i n' hn
    exact accepted.inj h ▸ readable_of_readNumeral hn
  · cases h
  · split at h
    · rename_i n' hn
      obtain ⟨cs, -, hcs⟩ := Option.map_eq_some_iff.1 hn
      exact accepted.inj h ▸ readable_of_readNumeral hcs
    · cases h
    · cases h

/-- An integer that fits into 64 bits has no more than nineteen digits. -/
theorem readable_of_integerOfFloat {x : Float} {n : Int} (h : integerOfFloat x = accepted n) :
    (Json.int n).Readable := by
  unfold integerOfFloat at h
  split at h
  · cases h
  · split at h
    · cases h
    · split at h
      · rename_i hsmall
        obtain rfl := accepted.inj h
        have hlength : (Decimal.digitText (Int.natAbs _)).length ≤ 19 :=
          (Decimal.length_digitText_le_iff (by decide)).2 (hsmall.trans (by decide))
        exact hlength.trans (by decide)
      · cases h

/-- Whatever an integer comes as, it has no more digits than are read. -/
theorem readable_of_integer {n : Int} (readable : json.Readable) (h : integer json = accepted n) :
    (Json.int n).Readable := by
  cases json with
  | int m => exact accepted.inj h ▸ readable
  | bool b =>
    obtain rfl := accepted.inj h
    cases b
    · exact (by decide : (Json.int 0).Readable)
    · exact (by decide : (Json.int 1).Readable)
  | str s => exact readable_of_integerOfText h
  | float x => exact readable_of_integerOfFloat h
  | _ => cases h

theorem of_integer_readable {absent n : Int} (h : optional names integer absent fields = accepted n)
    (readable : (Json.record fields).Readable) (habsent : (Json.int absent).Readable) : (Json.int n).Readable :=
  of_optional_readable (P := fun n => (Json.int n).Readable) h readable habsent fun _ _ => readable_of_integer

end Runbook.Decode
