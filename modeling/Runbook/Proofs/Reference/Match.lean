import Mathlib.Data.Finset.Card
import Mathlib.Data.String.Basic
import Runbook.Proofs.Token.Substitution
import Runbook.Reference.Match

/-!
# Which step is meant

The search for the step that a reference means goes through a list of ids, drops what is repeated and sorts
the rest. What it finds is a matter of the set of the ids alone.

* `Earlier` — the order of the ids, shorter ones first; it is strict and total, so a set is `Listed` in it in
  one way only (`Listed.eq`).
* `alike`, `strong` — the ids whose segments begin those of the reference or begin with them, and those among
  them that have two segments or more in common with it.
* `listed_similar`, `isStrong_iff` — what the search goes through are these ids in their order.
* `find_of_strong`, `find_of_alike` — what it finds in each case.
* `find_spec` — the outcome is a function of the set of ids, and which one.
-/

namespace Runbook.StepMatch

variable {id a b c : String} {steps : List String}

/-! ## The order of the ids -/

/-- Does the first id come before the second? A shorter one does, and of two that are equally long the one
that is less, character by character. -/
def Earlier (a b : String) : Prop :=
  a.length < b.length ∨ a.length = b.length ∧ a < b

theorem Earlier.ne (h : Earlier a b) : a ≠ b := by
  rintro rfl
  obtain hlength | ⟨-, hlt⟩ := h
  · exact lt_irrefl _ hlength
  · exact lt_irrefl _ hlt

theorem Earlier.asymm (hab : Earlier a b) (hba : Earlier b a) : False := by
  obtain hlength | ⟨hlength, hlt⟩ := hab <;> obtain hlength' | ⟨hlength', hlt'⟩ := hba
  · omega
  · omega
  · omega
  · exact lt_asymm hlt hlt'

theorem before_eq_true : before a b = true ↔ a = b ∨ Earlier a b := by
  simp only [before, Bool.or_eq_true, Bool.and_eq_true, decide_eq_true_eq, beq_iff_eq, Bool.not_eq_true',
    decide_eq_false_iff_not, not_lt, Earlier]
  constructor
  · rintro (hlength | ⟨hlength, hle⟩)
    · exact .inr (.inl hlength)
    · obtain rfl | hlt := eq_or_lt_of_le hle
      · exact .inl rfl
      · exact .inr (.inr ⟨hlength, hlt⟩)
  · rintro (rfl | hlength | ⟨hlength, hlt⟩)
    · exact .inr ⟨rfl, le_rfl⟩
    · exact .inl hlength
    · exact .inr ⟨hlength, hlt.le⟩

theorem before_total (a b : String) : (before a b || before b a) = true := by
  simp only [Bool.or_eq_true, before_eq_true, Earlier]
  obtain h | h | h := lt_trichotomy a.length b.length
  · exact .inl (.inr (.inl h))
  · obtain hlt | heq | hgt := lt_trichotomy a b
    · exact .inl (.inr (.inr ⟨h, hlt⟩))
    · exact .inl (.inl heq)
    · exact .inr (.inr (.inr ⟨h.symm, hgt⟩))
  · exact .inr (.inr (.inl h))

theorem before_trans (a b c : String) (hab : before a b = true) (hbc : before b c = true) :
    before a c = true := by
  rw [before_eq_true] at hab hbc ⊢
  obtain rfl | hab := hab
  · exact hbc
  obtain rfl | hbc := hbc
  · exact .inr hab
  right
  obtain hab | ⟨hab, hlt⟩ := hab <;> obtain hbc | ⟨hbc, hlt'⟩ := hbc
  · exact .inl (hab.trans hbc)
  · exact .inl (hbc ▸ hab)
  · exact .inl (hab ▸ hbc)
  · exact .inr ⟨hab.trans hbc, hlt.trans hlt'⟩

/-- The ids of a set, each once and in their order. -/
structure Listed (ids : Finset String) (listed : List String) : Prop where
  sorted : listed.Pairwise Earlier
  mem_iff : ∀ s, s ∈ listed ↔ s ∈ ids

namespace Listed

variable {ids : Finset String} {listed listed' : List String}

theorem nodup (h : Listed ids listed) : listed.Nodup :=
  h.sorted.imp Earlier.ne

/-- There is one way only to list a set. -/
theorem eq (h : Listed ids listed) (h' : Listed ids listed') : listed = listed' := by
  have hperm : listed.Perm listed' :=
    (List.perm_ext_iff_of_nodup h.nodup h'.nodup).2 fun s => (h.mem_iff s).trans (h'.mem_iff s).symm
  exact hperm.eq_of_pairwise (fun a b _ _ hab hba => (hab.asymm hba).elim) h.sorted h'.sorted

theorem length_eq (h : Listed ids listed) : listed.length = ids.card := by
  have hids : listed.toFinset = ids := by
    ext s
    rw [List.mem_toFinset, h.mem_iff]
  rw [← hids, List.toFinset_card_of_nodup h.nodup]

theorem eq_nil_iff (h : Listed ids listed) : listed = [] ↔ ids = ∅ := by
  rw [← List.length_eq_zero_iff, h.length_eq, Finset.card_eq_zero]

theorem filter (h : Listed ids listed) (p : String → Bool) :
    Listed (ids.filter fun s => p s = true) (listed.filter p) where
  sorted := h.sorted.filter p
  mem_iff s := by rw [List.mem_filter, Finset.mem_filter, h.mem_iff]

/-- What is listed first comes before all others. -/
theorem first (h : Listed ids (a :: listed)) : a ∈ ids ∧ ∀ s ∈ ids, s ≠ a → Earlier a s := by
  refine ⟨(h.mem_iff a).1 List.mem_cons_self, fun s hs hne => ?_⟩
  obtain rfl | hs := List.mem_cons.1 ((h.mem_iff s).2 hs)
  · exact absurd rfl hne
  · exact (List.pairwise_cons.1 h.sorted).1 s hs

theorem singleton : Listed {a} [a] where
  sorted := List.pairwise_singleton _ _
  mem_iff s := by rw [List.mem_singleton, Finset.mem_singleton]

end Listed

/-- Sorting what is not repeated lists it. -/
theorem listed_mergeSort {as : List String} (h : as.Nodup) : Listed as.toFinset (as.mergeSort before) where
  sorted := by
    have hnodup : (as.mergeSort before).Nodup := (List.mergeSort_perm as before).nodup_iff.2 h
    have hsorted := List.pairwise_mergeSort before_trans before_total as
    refine (hsorted.and hnodup).imp fun {a b} hab => ?_
    exact (before_eq_true.1 hab.1).resolve_left hab.2
  mem_iff s := by rw [List.mem_mergeSort, List.mem_toFinset]

/-! ## Ids that are alike -/

/-- How many things two lists have in common from their start. -/
def common {α : Type} [DecidableEq α] : List α → List α → Nat
  | a :: as, b :: bs => if a = b then common as bs + 1 else 0
  | _, _ => 0

theorem common_comm {α : Type} [DecidableEq α] (as bs : List α) : common as bs = common bs as := by
  induction as generalizing bs with
  | nil => cases bs <;> rfl
  | cons a as ih =>
    cases bs with
    | nil => rfl
    | cons b bs => simp only [common, eq_comm, ih]

theorem common_eq_length {α : Type} [DecidableEq α] {as bs : List α} (h : as <+: bs) :
    common as bs = as.length := by
  obtain ⟨rest, rfl⟩ := h
  induction as with
  | nil => rfl
  | cons a as ih => simp [common, ih]

/-- The ids that are alike but not the same: the segments of one begin those of the other. -/
def alike (id : String) (ids : Finset String) : Finset String :=
  ids.filter fun s => s ≠ id ∧ (segments id <+: segments s ∨ segments s <+: segments id)

/-- Those among them that have two segments or more in common. -/
def strong (id : String) (ids : Finset String) : Finset String :=
  (alike id ids).filter fun s => 2 ≤ common (segments id) (segments s)

/-- What the search goes through. -/
def similar (id : String) (steps : List String) : List String :=
  (steps.eraseDups.filter fun s => s != id && compatible id s).mergeSort before

theorem listed_similar (id : String) (steps : List String) :
    Listed (alike id steps.toFinset) (similar id steps) := by
  have hlisted := listed_mergeSort
    ((nodup_eraseDups steps).filter fun s => s != id && compatible id s)
  have hids : (steps.eraseDups.filter fun s => s != id && compatible id s).toFinset =
      alike id steps.toFinset := by
    ext s
    simp [alike, compatible, List.mem_eraseDups, List.isPrefixOf_iff_prefix]
  rwa [hids] at hlisted

/-- Ids that are alike have two segments in common when both have two. -/
theorem isStrong_iff (h : segments a <+: segments b ∨ segments b <+: segments a) :
    isStrong a b = true ↔ 2 ≤ common (segments a) (segments b) := by
  rw [isStrong, Bool.and_eq_true, decide_eq_true_eq, decide_eq_true_eq]
  obtain h | h := h
  · have hlength := h.length_le
    rw [common_eq_length h]
    omega
  · have hlength := h.length_le
    rw [common_comm, common_eq_length h]
    omega

theorem listed_strong (id : String) (steps : List String) :
    Listed (strong id steps.toFinset) ((similar id steps).filter (isStrong id)) := by
  have hlisted := (listed_similar id steps).filter (isStrong id)
  have hids : (alike id steps.toFinset).filter (fun s => isStrong id s = true) = strong id steps.toFinset :=
    Finset.filter_congr fun s hs => isStrong_iff (Finset.mem_filter.1 hs).2.2
  rwa [hids] at hlisted

/-! ## What is found -/

theorem find_eq (id : String) (steps : List String) :
    find id steps = match (similar id steps).filter (isStrong id), similar id steps with
      | s :: _, _ => ⟨some s, (similar id steps).filter (isStrong id)⟩
      | [], [s] => ⟨some s, [s]⟩
      | [], _ => ⟨none, similar id steps⟩ := rfl

/-- What is found depends on the set of the ids, not on their order or how often one is there. -/
theorem find_congr {steps' : List String} (h : steps'.toFinset = steps.toFinset) :
    find id steps' = find id steps := by
  have hsimilar : similar id steps' = similar id steps :=
    (h ▸ listed_similar id steps').eq (listed_similar id steps)
  rw [find_eq, find_eq, hsimilar]

/-- The first of the strong matches is meant. -/
theorem find_of_strong (h : (strong id steps.toFinset).Nonempty) :
    ∃ s ∈ strong id steps.toFinset, (∀ t ∈ strong id steps.toFinset, t ≠ s → Earlier s t) ∧
      (find id steps).candidate = some s ∧ Listed (strong id steps.toFinset) (find id steps).candidates := by
  have hlisted := listed_strong id steps
  cases hstrong : (similar id steps).filter (isStrong id) with
  | nil => exact absurd (hlisted.eq_nil_iff.1 hstrong) h.ne_empty
  | cons s rest =>
    have hfind : find id steps = ⟨some s, s :: rest⟩ := by rw [find_eq, hstrong]
    rw [hstrong] at hlisted
    obtain ⟨hs, hleast⟩ := hlisted.first
    exact ⟨s, hs, hleast, by rw [hfind], by rw [hfind]; exact hlisted⟩

/-- Without a strong match the only id that is alike is meant. -/
theorem find_of_singleton (h : strong id steps.toFinset = ∅) (hs : alike id steps.toFinset = {a}) :
    find id steps = ⟨some a, [a]⟩ := by
  have hsimilar : similar id steps = [a] := (hs ▸ listed_similar id steps).eq .singleton
  rw [find_eq, (listed_strong id steps).eq_nil_iff.2 h, hsimilar]

theorem find_of_empty (h : alike id steps.toFinset = ∅) : find id steps = ⟨none, []⟩ := by
  have hstrong : strong id steps.toFinset = ∅ := by rw [strong, h, Finset.filter_empty]
  rw [find_eq, (listed_strong id steps).eq_nil_iff.2 hstrong, (listed_similar id steps).eq_nil_iff.2 h]

/-- Without a strong match none of several ids is meant, and all of them are listed. -/
theorem find_of_card_ne (h : strong id steps.toFinset = ∅) (hcard : (alike id steps.toFinset).card ≠ 1) :
    find id steps = ⟨none, similar id steps⟩ := by
  rw [find_eq, (listed_strong id steps).eq_nil_iff.2 h]
  match hsimilar : similar id steps with
  | [] => rfl
  | [s] => exact absurd (hsimilar ▸ (listed_similar id steps).length_eq).symm hcard
  | _ :: _ :: _ => rfl

theorem ambiguous_iff :
    (find id steps).ambiguous = true ↔ strong id steps.toFinset = ∅ ∧ 1 < (alike id steps.toFinset).card := by
  rw [ambiguous, Bool.and_eq_true, decide_eq_true_eq, Option.isNone_iff_eq_none]
  obtain h | h := (strong id steps.toFinset).eq_empty_or_nonempty
  · by_cases hcard : (alike id steps.toFinset).card = 1
    · obtain ⟨s, hs⟩ := Finset.card_eq_one.1 hcard
      simp [find_of_singleton h hs, hcard]
    · simp [find_of_card_ne h hcard, h, (listed_similar id steps).length_eq]
  · obtain ⟨s, -, -, hs, -⟩ := find_of_strong h
    simp [hs, h.ne_empty]

/-- **The step that is meant is a matter of the set of the ids.** With a strong match it is the first of the
strong ones, which are the candidates; without one it is the only id that is alike, if there is one only; and
otherwise none is meant, the candidates are all that are alike, and if these are several the reference is
ambiguous. -/
theorem find_spec (id : String) (steps : List String) :
    (∀ steps' : List String, steps'.toFinset = steps.toFinset → find id steps' = find id steps) ∧
    ((strong id steps.toFinset).Nonempty →
      ∃ s ∈ strong id steps.toFinset, (∀ t ∈ strong id steps.toFinset, t ≠ s → Earlier s t) ∧
        (find id steps).candidate = some s ∧
        Listed (strong id steps.toFinset) (find id steps).candidates) ∧
    (strong id steps.toFinset = ∅ → ∀ s, alike id steps.toFinset = {s} →
      find id steps = ⟨some s, [s]⟩) ∧
    (strong id steps.toFinset = ∅ → 1 < (alike id steps.toFinset).card →
      (find id steps).candidate = none ∧ Listed (alike id steps.toFinset) (find id steps).candidates) ∧
    (alike id steps.toFinset = ∅ → find id steps = ⟨none, []⟩) ∧
    ((find id steps).ambiguous = true ↔
      strong id steps.toFinset = ∅ ∧ 1 < (alike id steps.toFinset).card) := by
  refine ⟨fun _ h => find_congr h, find_of_strong, fun h _ hs => find_of_singleton h hs, fun h hcard => ?_,
    find_of_empty, ambiguous_iff⟩
  rw [find_of_card_ne h hcard.ne']
  exact ⟨rfl, listed_similar id steps⟩

/-- Of two steps with the same beginning the first is meant, however they are listed. -/
theorem find_step_1 :
    find "step_1" ["step_1_b", "step_1_a", "step_2", "step_1_b"] =
      find "step_1" ["step_1_a", "step_1_b", "step_2"] ∧
    ∃ s ∈ strong "step_1" ["step_1_a", "step_1_b", "step_2"].toFinset,
      (∀ t ∈ strong "step_1" ["step_1_a", "step_1_b", "step_2"].toFinset, t ≠ s → Earlier s t) ∧
      (find "step_1" ["step_1_a", "step_1_b", "step_2"]).candidate = some s ∧
      Listed (strong "step_1" ["step_1_a", "step_1_b", "step_2"].toFinset)
        (find "step_1" ["step_1_a", "step_1_b", "step_2"]).candidates := by
  obtain ⟨hcongr, hstrong, -⟩ := find_spec "step_1" ["step_1_a", "step_1_b", "step_2"]
  exact ⟨hcongr _ (by decide), hstrong ⟨"step_1_a", by decide⟩⟩

/-- The first segment is enough for one step, and two that share it leave the reference ambiguous. -/
example : find "fetch_page" ["fetch", "send", "fetch"] = ⟨some "fetch", ["fetch"]⟩ ∧
    (find "fetch" ["fetch_b", "fetch_a"]).ambiguous = true :=
  ⟨find_of_singleton (by decide) (by decide), ambiguous_iff.2 (by decide)⟩

end Runbook.StepMatch
