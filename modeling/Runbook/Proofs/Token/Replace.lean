import Runbook.Proofs.Text.Substring
import Runbook.Proofs.Token.Scan

/-!
# Replacing the texts of tokens

To replace the text of a token wherever it occurs is to put another token in its place wherever it is cut:

* `Template.replaceAll_chars` — for one token;
* `Template.foldl_replaceAll` — for several tokens, one after the other;
* `Token.exchangeAll_eq` — which comes to the same as replacing them all at once, if no token that is put in
  is itself one to be replaced.
-/

namespace Runbook

namespace Token

/-- Puts `new` in the place of `old`. -/
def exchange (old new t : Token) : Token :=
  if t = old then new else t

/-- Puts tokens in the place of tokens, one pair after the other. -/
def exchangeAll (table : List (Token × Token)) (t : Token) : Token :=
  table.foldl (fun t pair => exchange pair.1 pair.2 t) t

theorem isWellFormed_exchange {new t : Token} (old : Token) (hnew : new.isWellFormed = true)
    (ht : t.isWellFormed = true) : (exchange old new t).isWellFormed = true := by
  unfold exchange
  split
  · exact hnew
  · exact ht

/-- If no token that is put in is one to be replaced, then it does not matter that the pairs come one after
the other. -/
theorem exchangeAll_eq {f : Token → Option Token} {table : List (Token × Token)}
    (correct : ∀ pair ∈ table, f pair.1 = some pair.2) (stable : ∀ pair ∈ table, f pair.2 = none)
    (t : Token) :
    exchangeAll table t = if t ∈ table.map Prod.fst then (f t).getD t else t := by
  induction table generalizing t with
  | nil => rfl
  | cons pair table ih =>
    have htable := ih (fun p hp => correct p (List.mem_cons_of_mem _ hp))
      (fun p hp => stable p (List.mem_cons_of_mem _ hp)) (exchange pair.1 pair.2 t)
    have hcons : exchangeAll (pair :: table) t = exchangeAll table (exchange pair.1 pair.2 t) := rfl
    rw [hcons, htable]
    by_cases ht : t = pair.1
    · -- what was put in is not replaced again
      have hnew : pair.2 ∉ table.map Prod.fst := by
        intro hmem
        obtain ⟨p, hp, hfst⟩ := List.mem_map.1 hmem
        have hsome := correct p (List.mem_cons_of_mem _ hp)
        rw [hfst, stable pair List.mem_cons_self] at hsome
        cases hsome
      have hold : pair.1 ∈ (pair :: table).map Prod.fst := List.mem_cons_self
      rw [exchange, if_pos ht, if_neg hnew, ht, if_pos hold, correct pair List.mem_cons_self]
      rfl
    · have hmem : t ∈ (pair :: table).map Prod.fst ↔ t ∈ table.map Prod.fst := by simp [ht]
      rw [exchange, if_neg ht]
      simp only [hmem]

end Token

namespace Template

open Text (replaceAll)

variable {cs : List Char} {found : List Segment}

/-- The text of a token is replaced exactly where the token is cut. -/
theorem replaceAll_chars {old : Token} (hold : old.isWellFormed = true) (new : Token)
    (h : Cut cs found) :
    replaceAll old.chars new.chars cs =
      fillSegments (fun t => (Token.exchange old new t).chars) found := by
  induction h with
  | nil => rfl
  | @char c cs segments noToken rest ih =>
    rw [fillSegments_cons_char, Text.replaceAll_cons_of_not, ih]
    rw [startsWith_chars_iff hold (.char noToken rest)]
    rintro ⟨rest, h⟩
    cases h
  | @token t cs segments wellFormed rest ih =>
    rw [fillSegments_cons_token, ← ih, Token.exchange]
    by_cases ht : t = old
    · rw [if_pos ht, ht, Text.replaceAll_append_of_ne_nil _ old.chars_ne_nil]
    · -- the token is not the one, and none starts inside it
      have hfirst : ¬ old.chars <+: t.chars ++ cs := by
        rw [startsWith_chars_iff hold (.token wellFormed rest)]
        rintro ⟨rest, h⟩
        cases h
        exact ht rfl
      rw [Token.chars_append] at hfirst
      rw [if_neg ht, Token.chars_append, Text.replaceAll_cons_of_not _ hfirst, old.chars_eq,
        Text.replaceAll_append_of_notMem _ (Token.dollar_notMem_tail wellFormed), t.chars_eq]
      rfl

/-- Several tokens are replaced one after the other. -/
theorem foldl_replaceAll {table : List (Token × Token)}
    (hold : ∀ pair ∈ table, pair.1.isWellFormed = true)
    (hnew : ∀ pair ∈ table, pair.2.isWellFormed = true) (h : Cut cs found) :
    table.foldl (fun cs pair => replaceAll pair.1.chars pair.2.chars cs) cs =
      fillSegments (fun t => (Token.exchangeAll table t).chars) found := by
  induction table generalizing cs found with
  | nil => exact h.fill.symm
  | cons pair table ih =>
    have hfirst := replaceAll_chars (hold pair List.mem_cons_self) pair.2 h
    have hcut := cut_map h fun t ht =>
      Token.isWellFormed_exchange pair.1 (hnew pair List.mem_cons_self) ht
    rw [List.foldl_cons, hfirst, ih (fun p hp => hold p (List.mem_cons_of_mem _ hp))
      (fun p hp => hnew p (List.mem_cons_of_mem _ hp)) hcut, fillSegments_map]
    rfl

end Template

end Runbook
