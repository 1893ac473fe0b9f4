import Runbook.DataPoint.Context

/-!
# What a context comes to

* `Item.point?` — the data point that an item is or decodes to: the items with one are the valid ones.
* `value_collectItems` — a list of items comes to its valid data points if all items are data points or
  records, and to nothing else but an error if one is neither.
* `value_collect` — and so does whatever a host gathered; what is no list has no valid data points.
-/

namespace Runbook.Context

variable {ε : Type}

namespace Item

/-- The data point that an item is or decodes to. -/
def point? (now : Int) : Item → Option DataPoint
  | ready p => some p
  | raw json => (DataPoint.decode now json).value?

/-- Is an item a data point, or else a record? -/
def isRecord : Item → Bool
  | ready _ => true
  | raw (.record _) => true
  | raw _ => false

end Item

namespace Gathered

/-- The valid data points of what was gathered. -/
def valid (now : Int) : Gathered → List DataPoint
  | items listed => listed.filterMap (Item.point? now)
  | value _ => []

/-- Are all items data points or records? -/
def isClean : Gathered → Bool
  | items listed => listed.all Item.isRecord
  | value _ => true

end Gathered

/-- The data points that a context contributes: its valid ones, if all items are data points or records. -/
def contributed (now : Int) : Except ε Gathered → List DataPoint
  | .error _ => []
  | .ok gathered => if gathered.isClean then gathered.valid now else []

variable (now : Int)

theorem value_decodeItem (item : Item) :
    (decodeItem now item).outcome.value =
      if item.isRecord then .ok (item.point? now) else .error .itemNotRecord := by
  cases item with
  | ready p => rfl
  | raw json =>
    cases json with
    | record fields =>
      show (decodeItem now (.raw (.record fields))).outcome.value =
        .ok (DataPoint.decodeFields now fields).value?
      cases hd : DataPoint.decodeFields now fields with
      | accepted p => rw [decodeItem, hd]; rfl
      | rejected issues => rw [decodeItem, hd]; rfl
    | _ => rfl

/-- One item that is neither a data point nor a record spoils the whole list. -/
theorem value_collectItems (items : List Item) :
    (collectItems now items).outcome.value =
      if items.all Item.isRecord then .ok (items.filterMap (Item.point? now))
      else .error .itemNotRecord := by
  induction items with
  | nil => rfl
  | cons item rest ih =>
    rw [collectItems, Attempt.value_bind, value_decodeItem]
    by_cases hitem : item.isRecord
    · simp only [hitem, if_true, Attempt.value_bind, ih, List.all_cons, Bool.true_and]
      by_cases hrest : rest.all Item.isRecord
      · simp only [hrest, if_true]
        cases hp : item.point? now <;> simp [hp]
      · simp only [hrest]
        rfl
    · simp [hitem]

theorem value_collect (gathered : Gathered) :
    (collect now gathered).outcome.value.toOption.getD [] =
      if gathered.isClean then gathered.valid now else [] := by
  cases gathered with
  | items items =>
    rw [collect, value_collectItems]
    by_cases h : items.all Item.isRecord <;> simp [Gathered.isClean, Gathered.valid, h, Except.toOption]
  | value json =>
    show _ = []
    cases json with
    | str s => by_cases h : s.isEmpty <;> simp [collect, h, Except.toOption]
    | record fields => by_cases h : fields.isEmpty <;> simp [collect, h, Except.toOption]
    | _ => rfl

end Runbook.Context
