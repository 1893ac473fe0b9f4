import Mathlib.Data.List.Infix
import Mathlib.Data.List.TakeWhile
import Runbook.Text.Substring

/-!
# What searching, splitting and replacing find

* `stripPrefix?_eq_some_iff`, `stripSuffix?_eq_some_iff` — what is taken off stood there.
* `splitLast?_eq_some_iff` — the last separator is the one without another after it.
* `takeWhile_stop`, `dropWhile_stop` — a character that is not taken off ends what is.
* `replaceFrom_append` — what was replaced already is passed over; `replaceAll_append` — characters none of
  which can begin an occurrence are kept.
-/

namespace Runbook.Text

theorem stripPrefix?_eq_some_iff {start cs rest : List Char} :
    stripPrefix? start cs = some rest ↔ cs = start ++ rest := by
  induction start generalizing cs with
  | nil => simp [stripPrefix?]
  | cons a start ih =>
    cases cs with
    | nil => simp [stripPrefix?]
    | cons c cs =>
      rw [stripPrefix?]
      by_cases h : a = c
      · simp [h, ih]
      · simp [h, Ne.symm h]

theorem startsWith_eq_true {start cs : List Char} : startsWith start cs = true ↔ start <+: cs := by
  rw [startsWith, Option.isSome_iff_exists]
  constructor
  · rintro ⟨rest, h⟩
    exact ⟨rest, (stripPrefix?_eq_some_iff.1 h).symm⟩
  · rintro ⟨rest, h⟩
    exact ⟨rest, stripPrefix?_eq_some_iff.2 h.symm⟩

theorem stripSuffix?_eq_some_iff {ending cs before : List Char} :
    stripSuffix? ending cs = some before ↔ cs = before ++ ending := by
  rw [stripSuffix?, Option.map_eq_some_iff]
  constructor
  · rintro ⟨rest, h, rfl⟩
    have hcs := congrArg List.reverse (stripPrefix?_eq_some_iff.1 h)
    simpa using hcs
  · rintro rfl
    exact ⟨before.reverse, stripPrefix?_eq_some_iff.2 (by simp), by simp⟩

theorem splitLast?_eq_some_iff {sep : Char} {cs base tail : List Char} :
    splitLast? sep cs = some (base, tail) ↔ cs = base ++ sep :: tail ∧ sep ∉ tail := by
  constructor
  · intro h
    have hcs := List.takeWhile_append_dropWhile (p := (· != sep)) (l := cs.reverse)
    have htail : sep ∉ cs.reverse.takeWhile (· != sep) := by
      intro hmem
      simpa using List.mem_takeWhile_imp hmem
    have hhead := List.head?_dropWhile_not (· != sep) cs.reverse
    unfold splitLast? at h
    split at h
    · cases h
    · rename_i c base' hdrop
      rw [hdrop] at hcs hhead
      obtain rfl : c = sep := by simpa using hhead
      cases h
      have hrev := congrArg List.reverse hcs
      rw [List.reverse_reverse, List.reverse_append, List.reverse_cons, List.append_assoc] at hrev
      exact ⟨hrev.symm, by simpa using htail⟩
  · rintro ⟨rfl, htail⟩
    have hrev : (base ++ sep :: tail).reverse = tail.reverse ++ sep :: base.reverse := by simp
    have hkeep : ∀ c ∈ tail.reverse, (c != sep) = true := by
      intro c hc
      rw [bne_iff_ne]
      rintro rfl
      exact htail (List.mem_reverse.1 hc)
    unfold splitLast?
    rw [hrev, List.takeWhile_append_of_pos hkeep, List.dropWhile_append_of_pos hkeep]
    simp

/-! ## Stopping at a character -/

section

variable {p : Char → Bool} {c : Char}

theorem takeWhile_stop (h : p c = false) (cs rest : List Char) :
    (cs ++ c :: rest).takeWhile p = cs.takeWhile p := by
  induction cs with
  | nil => simp [h]
  | cons d cs ih => simp [List.takeWhile_cons, ih]

theorem dropWhile_stop (h : p c = false) (cs rest : List Char) :
    (cs ++ c :: rest).dropWhile p = cs.dropWhile p ++ c :: rest := by
  induction cs with
  | nil => simp [h]
  | cons d cs ih =>
    rw [List.cons_append, List.dropWhile_cons, List.dropWhile_cons]
    split
    · exact ih
    · rfl

/-- A prefix without a character ends before it. -/
theorem prefix_stop {start : List Char} (h : c ∉ start) {cs rest : List Char} (hstart : start <+: cs ++ c :: rest) :
    start <+: cs := by
  induction cs generalizing start with
  | nil =>
    cases start with
    | nil => exact List.nil_prefix
    | cons d start =>
      rw [List.nil_append, List.cons_prefix_cons] at hstart
      exact absurd (hstart.1 ▸ List.mem_cons_self) h
  | cons d cs ih =>
    cases start with
    | nil => exact List.nil_prefix
    | cons e start =>
      rw [List.cons_append, List.cons_prefix_cons] at hstart
      exact List.cons_prefix_cons.2 ⟨hstart.1, ih (fun hmem => h (List.mem_cons_of_mem _ hmem)) hstart.2⟩

end

/-! ## Replacing -/

variable (old new : List Char)

/-- What belongs to an occurrence that is already replaced is passed over. -/
theorem replaceFrom_append (skipped cs : List Char) :
    replaceFrom old new skipped.length (skipped ++ cs) = replaceAll old new cs := by
  induction skipped with
  | nil => rfl
  | cons c skipped ih => exact ih

variable {old}

theorem replaceAll_cons_of_not {c : Char} {cs : List Char} (h : ¬ old <+: c :: cs) :
    replaceAll old new (c :: cs) = c :: replaceAll old new cs := by
  rw [replaceAll, replaceFrom, if_neg (by rwa [startsWith_eq_true])]
  rfl

/-- An occurrence in front is replaced, and nothing of it is looked at again. -/
theorem replaceAll_append_of_ne_nil (h : old ≠ []) (cs : List Char) :
    replaceAll old new (old ++ cs) = new ++ replaceAll old new cs := by
  cases old with
  | nil => exact absurd rfl h
  | cons a old =>
    rw [List.cons_append, replaceAll, replaceFrom, if_pos]
    · exact congrArg (new ++ ·) (replaceFrom_append (a :: old) new old cs)
    · rw [startsWith_eq_true]
      exact List.prefix_append (a :: old) cs

/-- Characters that cannot begin an occurrence stay. -/
theorem replaceAll_append_of_notMem {a : Char} {kept : List Char} (h : a ∉ kept)
    (rest cs : List Char) :
    replaceAll (a :: rest) new (kept ++ cs) = kept ++ replaceAll (a :: rest) new cs := by
  induction kept with
  | nil => rfl
  | cons c kept ih =>
    rw [List.cons_append, replaceAll_cons_of_not, ih fun hmem => h (List.mem_cons_of_mem _ hmem)]
    · rfl
    · rw [List.cons_prefix_cons]
      rintro ⟨rfl, -⟩
      exact h List.mem_cons_self

end Runbook.Text
