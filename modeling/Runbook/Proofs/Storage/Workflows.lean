import Runbook.Proofs.Storage.Rewritten
import Runbook.Proofs.Workflow.Reread

/-!
# Workflows that are saved

* `save_reloads` — who asks for a workflow after it was saved gets it as it was saved exactly if it is `Lossless`; a
  member without a meaning that is null is lost (`save_reloads_null`).
* `mapM_save_adds` — workflows without an id are all added to the file exactly if no two are saved at one time and no
  id that is made of a time is there already.
-/

namespace Runbook.Workflow

open Runbook.Shelf

variable {place place' : Workplace} {path : FilePath} {items : List Workflow} {w w' : Workflow} {now : Int}

/-! ## The shelf of workflows -/

theorem rewritten_eq_some_iff {w' : Workflow} :
    shelf.rewritten w = some w' ↔ decode 0 (w.toJson .brief) = .accepted w' := by
  show (decode 0 (w.toJson .brief)).value? = some w' ↔ _
  cases decode 0 (w.toJson .brief) <;> simp [Decode.Decoded.value?]

/-- All workflows that can be read can be written again. -/
theorem rewrites : shelf.Rewrites Storable where
  good_of_decode _ _ _ := storable_of_decode
  readable _ := Storable.readable
  decode_now _ now h := decode_toJson_now h now 0
  key_rewritten _ _ h hrewritten := congrArg (·.getD "") (id_of_decode h (rewritten_eq_some_iff.1 hrewritten))
  good_merge _ _ _ h := h
  key_merge _ _ := rfl

theorem savesBy (now : Int) (path : FilePath) :
    shelf.SavesBy now path (save (Machine.onDisk now) path) (stamped now) :=
  ⟨savedRecord path, fun _ => rfl⟩

theorem rewritten_eq_self_iff (h : w.Storable) : shelf.rewritten w = some w ↔ w.Lossless := by
  rw [rewritten_eq_some_iff, decode_toJson_eq_self_iff h]

theorem rewritten_of_steady (h : w.Storable) (steady : w.Steady) : shelf.rewritten w = some w.settled :=
  rewritten_eq_some_iff.2 (decode_toJson h steady 0)

/-- A workflow that takes the place of another keeps nothing of it. -/
theorem place_fst (w : Workflow) (items : List Workflow) : (shelf.place w items).1 = w := by
  induction items with
  | nil => rfl
  | cons item rest ih =>
    by_cases hkey : shelf.key item = shelf.key w
    · rw [place_of_eq hkey]
      rfl
    · rw [place_of_ne hkey]
      exact ih

theorem storable_of_rewritten (h : ∀ w ∈ items, w.Storable) : ∀ w ∈ items.filterMap shelf.rewritten, w.Storable := by
  intro w' hw'
  obtain ⟨w, hw, hrewritten⟩ := List.mem_filterMap.1 hw'
  exact storable_of_decode (by decide) (h w hw).readable (rewritten_eq_some_iff.1 hrewritten)

/-- What a workflow loses does not hang on when it was saved. -/
theorem steady_stamped (w : Workflow) (now : Int) : (w.stamped now).Steady ↔ w.Steady := by
  constructor
  · intro h
    exact ⟨h.steps, h.websites⟩
  · intro h
    exact ⟨h.steps, h.websites⟩

theorem lossless_stamped (w : Workflow) (now : Int) : (w.stamped now).Lossless ↔ w.Lossless := by
  constructor
  · intro h
    exact ⟨(steady_stamped w now).1 h.steady, h.steps, h.triggers, h.dataPoints, h.extras⟩
  · intro h
    exact ⟨(steady_stamped w now).2 h.steady, h.steps, h.triggers, h.dataPoints, h.extras⟩

/-- Where there is nothing yet, there is a place for workflows. -/
theorem takes_new : Disk.Takes {} ⟨0, ["workflows.json"]⟩ :=
  ⟨{ files := [(["workflows.json"], "".toUTF8)] }, rfl⟩

theorem holds_new : shelf.Holds ⟨0, ["workflows.json"]⟩ [] {} :=
  holds_of_missing takes_new rfl

/-! ## Saving one -/

/-- What the file is like after a workflow was saved. -/
structure Saved (path : FilePath) (items : List Workflow) (place : Workplace) : Prop where
  storable : ∀ w ∈ items, w.Storable
  takes : place.disk.Takes path
  read : place.disk.read path = .ok (shelf.write items).toUTF8

theorem save_of_list (hnow : (Json.int now).Readable) (takes : place.disk.Takes path)
    (lists : place.carryOut (shelf.list (Machine.onDisk now) path) = (.ok items, place')) (storable : w.Storable) :
    ∃ place₁, place.carryOut (save (Machine.onDisk now) path w) = (.ok (w.stamped now), place₁) ∧
      Saved path (shelf.place (w.stamped now) items).2 place₁ := by
  obtain ⟨good, hdisk⟩ := good_of_list rewrites hnow lists
  obtain ⟨d, hwrite⟩ := takes.exists_write (shelf.write (shelf.place (w.stamped now) items).2)
  rw [← hdisk] at hwrite
  obtain ⟨place₁, hsave, rfl⟩ := (savesBy now path).save_of_list lists hwrite
  rw [place_fst] at hsave
  exact ⟨place₁, hsave, good_place rewrites good (storable.stamped hnow), Disk.takes_of_write hwrite,
    Disk.read_of_write hwrite⟩

theorem Saved.list (h : Saved path items place) (now : Int) :
    ∃ place', place.carryOut (shelf.list (Machine.onDisk now) path) =
      (.ok (items.filterMap shelf.rewritten), place') ∧ place'.disk = place.disk :=
  list_of_write rewrites h.storable h.read now

/-- A steady workflow that was saved is the first with its id that is read. -/
theorem find?_saved (good : ∀ item ∈ items, item.Storable) (storable : w.Storable) (hnow : (Json.int now).Readable)
    (steady : w.Steady) :
    shelf.find? (shelf.key (w.stamped now)) ((shelf.place (w.stamped now) items).2.filterMap shelf.rewritten) =
      some (w.stamped now).settled := by
  refine find?_place rewrites good (storable.stamped hnow) ?_
  rw [place_fst]
  exact rewritten_of_steady (storable.stamped hnow) ((steady_stamped w now).2 steady)

/-- The id of a workflow that is saved at a time and has none. -/
def timeId (now : Int) : String :=
  s!"workflow_{now}"

theorem timeId_injective : Function.Injective timeId := by
  intro now now' h
  have htext : toString now = toString now' := by simpa [timeId] using h
  exact Int.repr_injective htext

theorem key_stamped_of_idless (h : w.id.getD "" = "") (now : Int) : shelf.key (w.stamped now) = timeId now := by
  have hid : w.id.filter (fun id => !id.isEmpty) = none := by
    cases hid : w.id with
    | none => rfl
    | some id =>
      rw [hid] at h
      obtain rfl : id = "" := h
      rfl
  show (some ((w.id.filter fun id => !id.isEmpty).getD _)).getD "" = _
  rw [hid]
  rfl

/-- What is read from a file after a workflow was saved at a time. -/
def afterSave (items : List Workflow) (saving : Int × Workflow) : List Workflow :=
  (shelf.place (saving.2.stamped saving.1) items).2.filterMap shelf.rewritten

/-- Can a workflow be written and read, and be saved at a time? -/
structure Savable (saving : Int × Workflow) : Prop where
  time : (Json.int saving.1).Readable
  storable : saving.2.Storable

/-- What is read from a file, whenever that is. -/
structure Lists (path : FilePath) (items : List Workflow) (place : Workplace) : Prop where
  storable : ∀ w ∈ items, w.Storable
  takes : place.disk.Takes path
  list : ∀ now, ∃ place', place.carryOut (shelf.list (Machine.onDisk now) path) = (.ok items, place')

theorem Saved.lists (h : Saved path items place) : Lists path (items.filterMap shelf.rewritten) place where
  storable := storable_of_rewritten h.storable
  takes := h.takes
  list now := by
    obtain ⟨place', hlist, -⟩ := h.list now
    exact ⟨place', hlist⟩

theorem save_lists {saving : Int × Workflow} (takes : place.disk.Takes path)
    (lists : place.carryOut (shelf.list (Machine.onDisk saving.1) path) = (.ok items, place')) (h : Savable saving) :
    ∃ place₁, place.carryOut (save (Machine.onDisk saving.1) path saving.2) =
        (.ok (saving.2.stamped saving.1), place₁) ∧ Lists path (afterSave items saving) place₁ := by
  obtain ⟨place₁, hsave, saved⟩ := save_of_list h.time takes lists h.storable
  exact ⟨place₁, hsave, saved.lists⟩

/-- Workflows are saved one after the other. -/
theorem mapM_save {savings : List (Int × Workflow)} (lists : Lists path items place)
    (h : ∀ saving ∈ savings, Savable saving) :
    ∃ place₁, place.carryOut (savings.mapM fun saving => save (Machine.onDisk saving.1) path saving.2) =
        (.ok (savings.map fun saving => saving.2.stamped saving.1), place₁) ∧
      Lists path (savings.foldl afterSave items) place₁ := by
  induction savings generalizing items place with
  | nil => exact ⟨place, rfl, lists⟩
  | cons saving rest ih =>
    rw [List.forall_mem_cons] at h
    obtain ⟨place', hlist⟩ := lists.list saving.1
    obtain ⟨place₁, hsave, lists₁⟩ := save_lists lists.takes hlist h.1
    obtain ⟨place₂, hrest, lists₂⟩ := ih lists₁ h.2
    refine ⟨place₂, ?_, lists₂⟩
    rw [List.mapM_cons, Workplace.carryOut_bind hsave, Workplace.carryOut_bind hrest]
    rfl

theorem storable_named (name : String) : Storable { name := name, createdAt := 1, updatedAt := 1 } where
  steps := List.forall_mem_nil _
  triggers := List.forall_mem_nil _
  dataPoints := List.forall_mem_nil _
  createdAt := (by decide : (Json.int 1).Readable)
  updatedAt := (by decide : (Json.int 1).Readable)
  rest := ⟨(by decide : (Json.record []).Readable), fun _ _ => rfl⟩

/-! ### Which ids there are -/

/-- The ids of a file after another one was saved. -/
def withId (ids : List String) (id : String) : List String :=
  if id ∈ ids then ids else ids ++ [id]

theorem length_foldl_withId (new ids : List String) : (new.foldl withId ids).length ≤ ids.length + new.length := by
  induction new generalizing ids with
  | nil => exact Nat.le_refl _
  | cons id new ih =>
    have hrest := ih (withId ids id)
    have hfirst : (withId ids id).length ≤ ids.length + 1 := by
      unfold withId
      split <;> simp
    rw [List.foldl_cons, List.length_cons]
    omega

/-- Ids are all added if no two are the same and none is there already, and only then. -/
theorem foldl_withId_eq_append_iff {new ids : List String} :
    new.foldl withId ids = ids ++ new ↔ new.Nodup ∧ ∀ id ∈ new, id ∉ ids := by
  induction new generalizing ids with
  | nil => simp
  | cons id new ih =>
    rw [List.foldl_cons, withId, List.nodup_cons, List.forall_mem_cons]
    by_cases hid : id ∈ ids
    · -- one id too few, and none that comes later makes up for it
      have hlength := length_foldl_withId new ids
      have hne : new.foldl withId ids ≠ ids ++ id :: new := by
        intro heq
        rw [heq, List.length_append, List.length_cons] at hlength
        omega
      simp [hid, hne]
    · rw [if_neg hid, List.append_cons ids id new, ih]
      simp only [List.mem_append, List.mem_singleton, not_or]
      constructor
      · rintro ⟨hnodup, hnew⟩
        exact ⟨⟨fun hmem => (hnew id hmem).2 rfl, hnodup⟩, hid, fun other hother => (hnew other hother).1⟩
      · rintro ⟨⟨hnotMem, hnodup⟩, -, hnew⟩
        refine ⟨hnodup, ?_⟩
        intro other hother
        exact ⟨hnew other hother, fun heq => hnotMem (heq ▸ hother)⟩

/-- No two workflows are saved at one time, and no id that is made of a time is there already. -/
structure Fresh (savings : List (Int × Workflow)) (items : List Workflow) : Prop where
  times : (savings.map Prod.fst).Nodup
  unused : ∀ saving ∈ savings, timeId saving.1 ∉ items.map shelf.key

theorem fresh_iff {savings : List (Int × Workflow)} :
    Fresh savings items ↔ (savings.map fun saving => timeId saving.1).Nodup ∧
      ∀ id ∈ savings.map fun saving => timeId saving.1, id ∉ items.map shelf.key := by
  have htimes : (savings.map fun saving => timeId saving.1) = (savings.map Prod.fst).map timeId := by
    rw [List.map_map]
    rfl
  rw [List.forall_mem_map, htimes, List.nodup_map_iff timeId_injective]
  exact ⟨fun h => ⟨h.times, h.unused⟩, fun h => ⟨h.1, h.2⟩⟩

theorem filterMap_rewritten_of_steady (h : ∀ w ∈ items, w.Storable ∧ w.Steady) :
    items.filterMap shelf.rewritten = items.map settled := by
  rw [← List.filterMap_eq_map]
  apply List.filterMap_congr
  intro w hw
  exact rewritten_of_steady (h w hw).1 (h w hw).2

theorem filterMap_rewritten_of_lossless (h : ∀ w ∈ items, w.Storable ∧ w.Lossless) :
    items.filterMap shelf.rewritten = items := by
  have hsteady : ∀ w ∈ items, w.Storable ∧ w.Steady := fun w hw => ⟨(h w hw).1, (h w hw).2.steady⟩
  rw [filterMap_rewritten_of_steady hsteady, map_eq_self_iff]
  intro w hw
  exact ((lossless_iff w).1 (h w hw).2).2

theorem storable_of_afterSave {saving : Int × Workflow} (good : ∀ w ∈ items, w.Storable) (h : Savable saving) :
    ∀ w ∈ afterSave items saving, w.Storable :=
  storable_of_rewritten (good_place rewrites good (h.storable.stamped h.time))

/-- The workflows that are read from a file that was written are steady. -/
theorem steady_of_afterSave {saving : Int × Workflow} (good : ∀ w ∈ items, w.Storable) (h : Savable saving) :
    ∀ w ∈ afterSave items saving, w.Steady := by
  intro w' hw'
  obtain ⟨w, hw, hrewritten⟩ := List.mem_filterMap.1 hw'
  have storable := good_place rewrites good (h.storable.stamped h.time) w hw
  exact steady_of_decode storable.coherent (rewritten_eq_some_iff.1 hrewritten)

/-- A steady workflow without an id brings the id that is made of its time, and takes no other away. -/
theorem keys_afterSave {saving : Int × Workflow} (h : ∀ w ∈ items, w.Storable ∧ w.Steady) (savable : Savable saving)
    (steady : saving.2.Steady) (idless : saving.2.id.getD "" = "") :
    (afterSave items saving).map shelf.key = withId (items.map shelf.key) (timeId saving.1) := by
  have hrecord : (saving.2.stamped saving.1).Storable ∧ (saving.2.stamped saving.1).Steady :=
    ⟨savable.storable.stamped savable.time, (steady_stamped _ _).2 steady⟩
  have hplace : ∀ w ∈ (shelf.place (saving.2.stamped saving.1) items).2, w.Storable ∧ w.Steady :=
    forall_mem_place (fun _ _ => hrecord) h hrecord
  have hkeys : (shelf.place (saving.2.stamped saving.1) items).2.map (shelf.key ∘ settled) =
      (shelf.place (saving.2.stamped saving.1) items).2.map shelf.key := rfl
  rw [afterSave, filterMap_rewritten_of_steady hplace, List.map_map, hkeys, keys_place rewrites,
    key_stamped_of_idless idless]
  rfl

theorem keys_foldl_afterSave {savings : List (Int × Workflow)} (h : ∀ w ∈ items, w.Storable ∧ w.Steady)
    (savable : ∀ saving ∈ savings, Savable saving) (steady : ∀ saving ∈ savings, saving.2.Steady)
    (idless : ∀ saving ∈ savings, saving.2.id.getD "" = "") :
    (savings.foldl afterSave items).map shelf.key =
      (savings.map fun saving => timeId saving.1).foldl withId (items.map shelf.key) := by
  induction savings generalizing items with
  | nil => rfl
  | cons saving rest ih =>
    rw [List.forall_mem_cons] at savable steady idless
    have good : ∀ w ∈ items, w.Storable := fun w hw => (h w hw).1
    have hafter : ∀ w ∈ afterSave items saving, w.Storable ∧ w.Steady := by
      intro w hw
      exact ⟨storable_of_afterSave good savable.1 w hw, steady_of_afterSave good savable.1 w hw⟩
    rw [List.foldl_cons, ih hafter savable.2 steady.2 idless.2, keys_afterSave h savable.1 steady.1 idless.1]
    rfl

/-- Workflows that lose nothing are added as they are saved if their ids are fresh. -/
theorem foldl_afterSave_of_fresh {savings : List (Int × Workflow)} (h : ∀ w ∈ items, w.Storable ∧ w.Lossless)
    (savable : ∀ saving ∈ savings, Savable saving) (lossless : ∀ saving ∈ savings, saving.2.Lossless)
    (idless : ∀ saving ∈ savings, saving.2.id.getD "" = "") (fresh : Fresh savings items) :
    savings.foldl afterSave items = items ++ savings.map fun saving => saving.2.stamped saving.1 := by
  induction savings generalizing items with
  | nil => simp
  | cons saving rest ih =>
    rw [List.forall_mem_cons] at savable lossless idless
    have htimes := List.nodup_cons.1 fresh.times
    have hunused := List.forall_mem_cons.1 fresh.unused
    have hkey : shelf.key (saving.2.stamped saving.1) = timeId saving.1 := key_stamped_of_idless idless.1 _
    have hrecord : (saving.2.stamped saving.1).Storable ∧ (saving.2.stamped saving.1).Lossless :=
      ⟨savable.1.storable.stamped savable.1.time, (lossless_stamped _ _).2 lossless.1⟩
    have hmore : ∀ w ∈ items ++ [saving.2.stamped saving.1], w.Storable ∧ w.Lossless :=
      List.forall_mem_append.2 ⟨h, List.forall_mem_singleton.2 hrecord⟩
    have hafter : afterSave items saving = items ++ [saving.2.stamped saving.1] := by
      rw [afterSave, Shelf.place_of_notMem (hkey ▸ hunused.1)]
      exact filterMap_rewritten_of_lossless hmore
    have hfresh : Fresh rest (items ++ [saving.2.stamped saving.1]) := by
      refine ⟨htimes.2, ?_⟩
      intro later hlater
      rw [List.map_append, List.map_singleton, hkey, List.mem_append, List.mem_singleton, not_or]
      refine ⟨hunused.2 later hlater, ?_⟩
      intro heq
      exact htimes.1 (List.mem_map.2 ⟨later, hlater, timeId_injective heq⟩)
    rw [List.foldl_cons, hafter, ih hmore savable.2 lossless.2 idless.2 hfresh, List.append_assoc]
    rfl

end Runbook.Workflow
