import Runbook.Proofs.Json.Form
import Runbook.Proofs.Json.Lexical
import Runbook.Proofs.Json.RoundTrip

/-!
# What is read can be read again

Every value that is read is `Readable` (`readable_of_read`), so that its text is read back: the reader refuses
integers of too many digits, and of two members with one name it keeps one. A value is exchanged as it is exactly if
all of its floating-point numbers are finite (`exchanged_eq_self_iff`), and members in brief are the same members
exactly if, moreover, none of them is null (`settledFields_eq_self_iff`).
-/

/-! ## Values that were read -/

namespace Runbook

namespace Decimal

variable {c : Char} {d : Nat}

theorem lt_ten_of_digit? (h : digit? c = some d) : d < 10 := by
  unfold digit? at h
  split at h
  · rename_i hc
    simp only [Bool.and_eq_true, decide_eq_true_eq, Char.le_def] at hc
    obtain rfl := Option.some.inj h
    have hnine : c.toNat ≤ '9'.toNat := hc.2
    have hvalue : '9'.toNat = 57 ∧ '0'.toNat = 48 := by decide
    omega
  · cases h

/-- What some digits write has no more digits than they are. -/
theorem ofDigits_lt (cs : List Char) : ofDigits cs < 10 ^ cs.length := by
  have hfold : ∀ n, (cs.filterMap digit?).foldl (fun n d => 10 * n + d) n < (n + 1) * 10 ^ cs.length := by
    induction cs with
    | nil =>
      intro n
      simp
    | cons c cs ih =>
      intro n
      rw [List.length_cons, pow_succ]
      cases hd : digit? c with
      | none =>
        rw [List.filterMap_cons_none hd]
        calc _ < (n + 1) * 10 ^ cs.length := ih n
          _ ≤ (n + 1) * (10 ^ cs.length * 10) := Nat.mul_le_mul_left _ (by omega)
      | some d =>
        have hlt := lt_ten_of_digit? hd
        rw [List.filterMap_cons_some hd, List.foldl_cons]
        calc _ < (10 * n + d + 1) * 10 ^ cs.length := ih _
          _ ≤ ((n + 1) * 10) * 10 ^ cs.length := Nat.mul_le_mul_right _ (by omega)
          _ = (n + 1) * (10 ^ cs.length * 10) := by ring
  have hzero := hfold 0
  rwa [Nat.zero_add, Nat.one_mul] at hzero

theorem length_digitText_le_iff {n k : Nat} (h : 0 < k) : (digitText n).length ≤ k ↔ n < 10 ^ k :=
  Nat.length_toDigits_le_iff (by decide) h

theorem length_digitText_ofDigits {cs : List Char} (h : cs ≠ []) :
    (digitText (ofDigits cs)).length ≤ cs.length :=
  (length_digitText_le_iff (List.length_pos_iff.2 h)).2 (ofDigits_lt cs)

end Decimal

namespace Fields

variable {fields : Fields} {key : String} {value : Json}

theorem distinct_set (h : fields.Distinct) (key : String) (value : Json) : (fields.set key value).Distinct := by
  by_cases hkey : fields.has key = true
  · rw [Distinct, (agreeOutside_set hkey value).names]
    exact h
  · rw [set, if_neg hkey, Distinct, List.map_append, List.nodup_append]
    refine ⟨h, List.nodup_singleton _, ?_⟩
    intro name hname name' hname' heq
    obtain ⟨field, hfield, rfl⟩ := List.mem_map.1 hname
    obtain rfl : name' = key := by simpa using hname'
    exact hkey (List.any_eq_true.2 ⟨field, hfield, beq_iff_eq.2 heq⟩)

/-- A member that is set has its new value, and the others have theirs. -/
theorem mem_of_mem_set {field : String × Json} (h : field ∈ fields.set key value) :
    field = (key, value) ∨ field ∈ fields := by
  unfold set at h
  split at h
  · obtain ⟨old, hold, rfl⟩ := List.mem_map.1 h
    split
    · exact .inl rfl
    · exact .inr hold
  · rw [List.mem_append, List.mem_singleton] at h
    exact h.symm

theorem distinct_ofPairs (pairs : List (String × Json)) : (ofPairs pairs).Distinct := by
  have hfold : ∀ fields : Fields, fields.Distinct →
      Distinct (pairs.foldl (fun fields pair => set pair.1 pair.2 fields) fields) := by
    induction pairs with
    | nil => exact fun _ h => h
    | cons pair pairs ih => exact fun fields h => ih _ (distinct_set h _ _)
  exact hfold [] List.nodup_nil

theorem mem_of_mem_ofPairs {pairs : List (String × Json)} {field : String × Json} (h : field ∈ ofPairs pairs) :
    field ∈ pairs := by
  have hfold : ∀ fields : Fields, field ∈ pairs.foldl (fun fields pair => set pair.1 pair.2 fields) fields →
      field ∈ fields ∨ field ∈ pairs := by
    clear h
    induction pairs with
    | nil => exact fun _ h => .inl h
    | cons pair pairs ih =>
      intro fields h
      rcases ih _ h with hset | hrest
      · rcases mem_of_mem_set hset with rfl | hold
        · exact .inr List.mem_cons_self
        · exact .inl hold
      · exact .inr (List.mem_cons_of_mem _ hrest)
  exact (hfold [] h).resolve_left List.not_mem_nil

end Fields

namespace Json

mutual

/-- Whether a value can be read back is decided value by value. -/
def decidableReadable : (json : Json) → Decidable json.Readable
  | null | bool _ | float _ | str _ => isTrue trivial
  | int _ => inferInstanceAs (Decidable (_ ≤ _))
  | list items => decidableItemsReadable items
  | record fields =>
    have := decidableFieldsReadable fields
    inferInstanceAs (Decidable (Fields.Distinct fields ∧ FieldsReadable fields))

/-- Whether the items of a list can be read back is decided item by item. -/
def decidableItemsReadable : (items : List Json) → Decidable (ItemsReadable items)
  | [] => isTrue trivial
  | item :: items =>
    have := decidableReadable item
    have := decidableItemsReadable items
    inferInstanceAs (Decidable (item.Readable ∧ ItemsReadable items))

/-- Whether the values of members can be read back is decided member by member. -/
def decidableFieldsReadable : (fields : List (String × Json)) → Decidable (FieldsReadable fields)
  | [] => isTrue trivial
  | (_, item) :: fields =>
    have := decidableReadable item
    have := decidableFieldsReadable fields
    inferInstanceAs (Decidable (item.Readable ∧ FieldsReadable fields))

end

instance (json : Json) : Decidable json.Readable :=
  json.decidableReadable

variable {cs rest : List Char} {json : Json} {pairs fields : List (String × Json)}

theorem fieldsReadable_iff : FieldsReadable fields ↔ ∀ field ∈ fields, field.2.Readable := by
  induction fields with
  | nil => simp [FieldsReadable]
  | cons field fields ih => rw [FieldsReadable, ih, List.forall_mem_cons]

theorem readable_record_iff {fields : Fields} :
    (record fields).Readable ↔ fields.Distinct ∧ ∀ field ∈ fields, field.2.Readable := by
  rw [Readable, fieldsReadable_iff]

theorem readable_ofText? (text? : Option String) : (ofText? text?).Readable := by
  cases text? <;> trivial

theorem readable_ofPairs (h : FieldsReadable pairs) : (record (Fields.ofPairs pairs)).Readable := by
  rw [fieldsReadable_iff] at h
  exact readable_record_iff.2
    ⟨Fields.distinct_ofPairs pairs, fun field hfield => h field (Fields.mem_of_mem_ofPairs hfield)⟩

theorem readable_of_number (h : number cs = .ok (json, rest)) : json.Readable := by
  have hread := numberRead cs
  rw [h] at hread
  cases hread with
  | integer nonempty fits digits =>
    have hlength := Decimal.length_digitText_ofDigits nonempty
    show (Decimal.digitText (Int.natAbs _)).length ≤ maxDigits
    rw [digits]
    omega
  | decimal => trivial

mutual

theorem TakesValue.readable : ∀ {cs rest : List Char} {json : Json}, TakesValue cs json rest → json.Readable
  | _, _, _, .string _ => trivial
  | _, _, _, .emptyRecord _ => ⟨List.nodup_nil, trivial⟩
  | _, _, _, .record body => readable_ofPairs body.readable
  | _, _, _, .emptyList _ => trivial
  | _, _, _, .list body => body.readable
  | _, _, _, .null _ => trivial
  | _, _, _, .true _ => trivial
  | _, _, _, .false _ => trivial
  | _, _, _, .nan _ => trivial
  | _, _, _, .infinity _ => trivial
  | _, _, _, .negativeInfinity _ => trivial
  | _, _, _, .number h => readable_of_number h

theorem TakesElements.readable : ∀ {cs rest : List Char} {items : List Json}, TakesElements cs items rest →
    ItemsReadable items
  | _, _, _, .last head _ => ⟨head.readable, trivial⟩
  | _, _, _, .more head _ tail => ⟨head.readable, tail.readable⟩

theorem TakesMembers.readable : ∀ {cs rest : List Char} {fields : List (String × Json)},
    TakesMembers cs fields rest → FieldsReadable fields
  | _, _, _, .last _ _ head _ => ⟨head.readable, trivial⟩
  | _, _, _, .more _ _ head _ tail => ⟨head.readable, tail.readable⟩

end

/-- What is read can be read again. -/
theorem readable_of_read {text : String} (h : read text = .ok json) : json.Readable := by
  obtain ⟨rest, htaken, -⟩ := exists_takesValue_of_read h
  exact htaken.readable

end Json

end Runbook

/-! ## Values that are exchanged -/

namespace Runbook.Json

mutual

/-- Are all floating-point numbers in a value finite? -/
def allFinite : Json → Bool
  | float x => x.isFinite
  | list items => itemsFinite items
  | record fields => fieldsFinite fields
  | _ => true

/-- Are all floating-point numbers in the items of a list finite? -/
def itemsFinite : List Json → Bool
  | [] => true
  | item :: items => allFinite item && itemsFinite items

/-- Are all floating-point numbers in the values of members finite? -/
def fieldsFinite : List (String × Json) → Bool
  | [] => true
  | (_, item) :: fields => allFinite item && fieldsFinite fields

end

mutual

/-- A value is exchanged as it is if its numbers are finite, and only then. -/
theorem exchanged_eq_self_iff : ∀ json : Json, json.exchanged = json ↔ json.allFinite = true
  | null | bool _ | int _ | str _ => ⟨fun _ => rfl, fun _ => rfl⟩
  | float x => by
    cases hx : x.isFinite <;> simp [exchanged, allFinite, hx]
  | list items => by
    rw [exchanged, list.injEq]
    exact exchangedItems_eq_self_iff items
  | record fields => by
    rw [exchanged, record.injEq]
    exact exchangedFields_eq_self_iff fields

theorem exchangedItems_eq_self_iff : ∀ items : List Json, exchangedItems items = items ↔ itemsFinite items = true
  | [] => ⟨fun _ => rfl, fun _ => rfl⟩
  | item :: items => by
    rw [exchangedItems, itemsFinite, List.cons.injEq, Bool.and_eq_true, exchanged_eq_self_iff item,
      exchangedItems_eq_self_iff items]

theorem exchangedFields_eq_self_iff : ∀ fields : List (String × Json),
    exchangedFields fields = fields ↔ fieldsFinite fields = true
  | [] => ⟨fun _ => rfl, fun _ => rfl⟩
  | (key, item) :: fields => by
    rw [exchangedFields, fieldsFinite, List.cons.injEq, Prod.mk.injEq, Bool.and_eq_true, exchanged_eq_self_iff item,
      exchangedFields_eq_self_iff fields]
    exact and_congr_left' (and_iff_right rfl)

end

theorem map_fst_exchangedFields (fields : Fields) : (exchangedFields fields).map Prod.fst = fields.map Prod.fst := by
  rw [exchangedFields_eq_map, List.map_map]
  rfl

mutual

/-- A value that can be read back can be so when it is exchanged. -/
theorem readable_exchanged : ∀ json : Json, json.Readable → json.exchanged.Readable
  | null, _ | bool _, _ | str _, _ => trivial
  | int _, h => h
  | float x, _ => by cases hx : x.isFinite <;> simp [exchanged, hx, Readable]
  | list items, h => itemsReadable_exchanged items h
  | record fields, h => by
    refine ⟨?_, fieldsReadable_exchanged fields h.2⟩
    rw [Fields.Distinct, map_fst_exchangedFields]
    exact h.1

theorem itemsReadable_exchanged : ∀ items : List Json, ItemsReadable items → ItemsReadable (exchangedItems items)
  | [], _ => trivial
  | item :: items, h => ⟨readable_exchanged item h.1, itemsReadable_exchanged items h.2⟩

theorem fieldsReadable_exchanged : ∀ fields : List (String × Json), FieldsReadable fields →
    FieldsReadable (exchangedFields fields)
  | [], _ => trivial
  | (_, item) :: fields, h => ⟨readable_exchanged item h.1, fieldsReadable_exchanged fields h.2⟩

end

/-! ### Members in brief -/

/-- Members that are written in brief are some of the members. -/
theorem fields_brief_sublist (members : Fields) : (Form.brief.fields members).Sublist members :=
  List.filter_sublist

theorem readable_record_of_sublist {fields more : Fields} (h : (record more).Readable) (hsub : fields.Sublist more) :
    (record fields).Readable := by
  rw [readable_record_iff] at h ⊢
  exact ⟨h.1.sublist (hsub.map _), fun field hfield => h.2 field (hsub.subset hfield)⟩

/-- Members as they are when they were written in brief and read. -/
def settledFields (fields : Fields) : Fields :=
  exchangedFields (Form.brief.fields fields)

theorem map_fst_settledFields_subset (fields : Fields) :
    (settledFields fields).map Prod.fst ⊆ fields.map Prod.fst := by
  rw [settledFields, map_fst_exchangedFields]
  exact ((fields_brief_sublist fields).map _).subset

/-- Do members say something, all numbers in them being finite? -/
def Lasting (fields : Fields) : Prop :=
  (∀ field ∈ fields, field.2.isNull = false) ∧ fieldsFinite fields = true

instance (fields : Fields) : Decidable (Lasting fields) :=
  inferInstanceAs (Decidable (_ ∧ _))

/-- Members are the same when they were written in brief and read if none is null and their numbers are finite, and
only then. -/
theorem settledFields_eq_self_iff (fields : Fields) : settledFields fields = fields ↔ Lasting fields := by
  unfold settledFields
  constructor
  · intro h
    have hlength : (Form.brief.fields fields).length = fields.length := by
      have hnames := congrArg (List.map Prod.fst) h
      rw [map_fst_exchangedFields] at hnames
      simpa using congrArg List.length hnames
    have hall : Form.brief.fields fields = fields := (fields_brief_sublist fields).eq_of_length hlength
    refine ⟨fun field hfield => ?_, ?_⟩
    · rw [← hall] at hfield
      simpa [Form.fields] using (List.mem_filter.1 hfield).2
    · rw [hall] at h
      exact (exchangedFields_eq_self_iff fields).1 h
  · rintro ⟨hnull, hfinite⟩
    have hall : Form.brief.fields fields = fields := by
      refine List.filter_eq_self.2 fun field hfield => ?_
      rw [hnull field hfield]
      rfl
    rw [hall]
    exact (exchangedFields_eq_self_iff fields).2 hfinite

end Runbook.Json
