import Runbook.Proofs.Token.Grammar
import Runbook.Proofs.Token.Resolve
import Runbook.Proofs.Token.Standing

/-!
# Resolving a text is one substitution

What a token stands for is put in its place, at the places that the text had tokens before. Nothing that is put in is
read again, so texts that are joined where no token is cut resolve to what is joined of their own resolved texts.

* `Template.fill_eq_splice` — to fill a text is to splice it at its spans.
* `Template.segments_join` — a text falls into the tokens of its two parts, if none straddles the border.
* `Store.resolveText_substitutes` — what a text resolves to, and what is reported.
-/

namespace Runbook

namespace Template

/-! ## Splicing -/

/-- A text from a position on, with something else in the place of each of the spans to come. -/
def splice (replace : Span → List Char) (cs : List Char) : (position : Nat) → List Span → List Char
  | position, [] => cs.drop position
  | position, span :: rest =>
    (cs.take span.start).drop position ++ (replace span ++ splice replace cs span.stop rest)

variable {cs x y : List Char} {found : List Segment}

theorem splice_append (h : Cut cs found) (f : Token → List Char) (before : List Char) {position : Nat}
    (hposition : position ≤ before.length) :
    splice (fun span => f span.token) (before ++ cs) position (spansFrom before.length found) =
      before.drop position ++ fillSegments f found := by
  induction h generalizing before position with
  | nil =>
    rw [spansFrom, splice, List.append_nil]
    exact (List.append_nil _).symm
  | @char c cs segments noToken rest ih =>
    have hle : position ≤ (before ++ [c]).length := by
      rw [List.length_append]
      omega
    have hrest := ih (before ++ [c]) hle
    rw [List.append_assoc, List.length_append, List.drop_append_of_le_length hposition, List.append_assoc] at hrest
    exact hrest
  | @token t cs segments wellFormed rest ih =>
    have hrest := ih (before ++ t.chars) (Nat.le_refl _)
    rw [List.append_assoc, List.length_append, ← List.length_append, List.drop_length] at hrest
    rw [spansFrom, splice, List.take_left', fillSegments_cons_token]
    · rw [← List.length_append, hrest]
      rfl
    · rfl

/-- To fill a text is to splice it at its spans. -/
theorem fill_eq_splice (replace : Token → String) (text : String) :
    fill replace text =
      String.ofList (splice (fun span => (replace span.token).toList) text.toList 0 (spans text)) := by
  have hsplice := splice_append (cut_segments text.toList) (fun t => (replace t).toList) [] (Nat.le_refl _)
  exact congrArg String.ofList hsplice.symm

/-! ## Joining texts -/

/-- A text falls into the segments of its two parts, if no token straddles the border. -/
theorem Cut.segments_join (h : Cut cs found) (hcs : cs = x ++ y) (position : Nat)
    (whole : ∀ span ∈ spansFrom position found,
      span.stop ≤ position + x.length ∨ position + x.length ≤ span.start) :
    found = segments x ++ segments y := by
  induction h generalizing x position with
  | nil =>
    obtain ⟨rfl, rfl⟩ := List.append_eq_nil_iff.1 hcs.symm
    rfl
  | @char c cs found noToken rest ih =>
    cases x with
    | nil =>
      rw [List.nil_append] at hcs
      rw [← hcs]
      exact (cut_iff.1 (.char noToken rest)).symm
    | cons d x =>
      rw [List.cons_append, List.cons.injEq] at hcs
      obtain ⟨rfl, rfl⟩ := hcs
      have hread : Token.read? (c :: x) = none := by
        rw [Option.eq_none_iff_forall_not_mem]
        rintro ⟨t, after⟩ hread
        obtain ⟨hwf, hx⟩ := Token.read?_eq_some_iff.1 hread
        rw [← List.cons_append, hx, List.append_assoc, Token.read?_append hwf] at noToken
        cases noToken
      have hfound := ih rfl (position + 1) fun span hspan => by
        have hspan := whole span hspan
        rw [List.length_cons] at hspan
        omega
      rw [segments_cons hread, hfound]
      rfl
  | @token t cs found wellFormed rest ih =>
    rcases whole _ List.mem_cons_self with hstop | hstart
    · -- the token is in the first part
      obtain ⟨x, rfl⟩ : t.chars <+: x :=
        List.prefix_of_prefix_length_le (hcs ▸ List.prefix_append _ _) (List.prefix_append _ _) (by
          simp only at hstop
          omega)
      rw [List.append_assoc] at hcs
      have hfound := ih (List.append_cancel_left hcs) (position + t.chars.length) fun span hspan => by
        have hspan := whole span (List.mem_cons_of_mem _ hspan)
        rw [List.length_append] at hspan
        omega
      rw [segments_append wellFormed, hfound]
      rfl
    · have hx : x = [] := List.length_eq_zero_iff.1 (by simp only at hstart; omega)
      rw [hx, List.nil_append] at hcs
      rw [hx, ← hcs]
      exact (cut_iff.1 (.token wellFormed rest)).symm

/-- No token of a text stands on both sides of a position. -/
def Clear (text : String) (position : Nat) : Prop :=
  ∀ span ∈ spans text, span.stop ≤ position ∨ position ≤ span.start

instance (text : String) (position : Nat) : Decidable (Clear text position) :=
  inferInstanceAs (Decidable (∀ span ∈ spans text, span.stop ≤ position ∨ position ≤ span.start))

theorem segments_join {x y : String} (h : Clear (x ++ y) x.length) :
    segments (x ++ y).toList = segments x.toList ++ segments y.toList := by
  refine (cut_segments _).segments_join (String.toList_append ..) 0 fun span hspan => ?_
  rw [Nat.zero_add, String.length_toList]
  exact h span hspan

theorem tokens_join {x y : String} (h : Clear (x ++ y) x.length) : tokens (x ++ y) = tokens x ++ tokens y := by
  rw [tokens, segments_join h, List.filterMap_append]
  rfl

/-- Texts that are joined where no token is cut are filled each on its own. -/
theorem fill_join (replace : Token → String) {x y : String} (h : Clear (x ++ y) x.length) :
    fill replace (x ++ y) = fill replace x ++ fill replace y := by
  rw [fill, segments_join h, fillSegments, List.flatMap_append, String.ofList_append]
  rfl

/-- In a text of two tokens and something between them both tokens are replaced. -/
theorem fill_pair (replace : Token → String) {t u : Token} {between : String} (ht : t.isWellFormed = true)
    (hbetween : '$' ∉ between.toList) (hu : u.isWellFormed = true) :
    tokens (t.write ++ between ++ u.write) = [t, u] ∧
      fill replace (t.write ++ between ++ u.write) = replace t ++ between ++ replace u := by
  have hsegments : segments (t.write ++ between ++ u.write).toList =
      .token t :: (between.toList.map Segment.char ++ [.token u]) := by
    have hlast := segments_append hu []
    rw [List.append_nil] at hlast
    rw [String.toList_append, String.toList_append, Token.write, Token.write, String.toList_ofList,
      String.toList_ofList, List.append_assoc, segments_append ht, segments_append_of_notMem hbetween, hlast]
    rfl
  constructor
  · rw [tokens, hsegments]
    simp [List.filterMap_append, List.filterMap_map, Function.comp_def, token?]
  · rw [fill, hsegments, fillSegments_cons_token, fillSegments_map_char, fillSegments_cons_token, ← String.toList_inj]
    simp [fillSegments]

end Template

/-! ## What is reported -/

theorem nodup_eraseDups {α : Type} [DecidableEq α] (as : List α) : as.eraseDups.Nodup := by
  induction h : as.length using Nat.strong_induction_on generalizing as with
  | _ n ih =>
    cases as with
    | nil => exact .nil
    | cons a as =>
      rw [List.eraseDups_cons, List.nodup_cons]
      refine ⟨by simp, ih _ ?_ _ rfl⟩
      rw [← h, List.length_cons]
      exact Nat.lt_succ_of_le (List.length_filter_le _ _)

/-- A computation that goes on after another reports what both report. -/
theorem Attempt.records_bind {ε α β : Type} {x : Attempt ε α} {a : α} (h : x.outcome.value = .ok a)
    (f : α → Attempt ε β) : (x >>= f).outcome.records = x.outcome.records ++ (f a).outcome.records := by
  show (x.outcome >>= ExceptT.bindCont f : Logged (Except ε β)).records = _
  rw [Logged.records_bind, h]
  rfl

/-- The warnings among records. -/
def Log.warnings (records : List Log.Record) : List Log.Record :=
  records.filter fun record => record.level = .warning

namespace Store

variable {s : Store} {text : String}

/-- In a text of two tokens what they stand for is put in their places. -/
theorem resolveText_pair {t u : Token} {between value value' : String} (ht : t.isWellFormed = true)
    (hbetween : '$' ∉ between.toList) (hu : u.isWellFormed = true) (hvalue : s.resolveToken t = .ok value)
    (hvalue' : s.resolveToken u = .ok value') :
    (s.resolveText (t.write ++ between ++ u.write)).outcome.value = .ok (value ++ between ++ value') := by
  have hstand : ∀ v ∈ Template.tokens (t.write ++ between ++ u.write),
      s.resolveToken v = .ok (if v = t then value else value') := by
    intro v hv
    rw [(Template.fill_pair Token.write ht hbetween hu).1] at hv
    by_cases hvt : v = t
    · rw [if_pos hvt, hvt, hvalue]
    · rw [if_neg hvt, List.mem_singleton.1 ((List.mem_cons.1 hv).resolve_left hvt), hvalue']
  have hsecond : (if u = t then value else value') = value' := by
    by_cases hut : u = t
    · rw [hut, hvalue] at hvalue'
      rw [if_pos hut]
      exact Except.ok.inj hvalue'
    · exact if_neg hut
  rw [resolveText_of_forall hstand, (Template.fill_pair _ ht hbetween hu).2, if_pos rfl, hsecond]

theorem records_resolveTokens {ts : List Token} {f : Token → String}
    (h : ∀ t ∈ ts, s.resolveToken t = .ok (f t)) :
    (s.resolveTokens ts).outcome.records = ts.flatMap s.resolveRecords := by
  induction ts with
  | nil => rfl
  | cons t ts ih =>
    rw [List.forall_mem_cons] at h
    have hrest := resolveTokens_of_forall h.2
    have hfirst : Attempt.outcome (⟨s.resolveToken t, s.resolveRecords t⟩ : Logged (Except Token.RenderError String)) =
      ⟨.ok (f t), s.resolveRecords t⟩ := congrArg (Logged.mk · _) h.1
    rw [resolveTokens, Attempt.records_bind (congrArg Logged.value hfirst), Attempt.records_bind hrest, ih h.2,
      List.flatMap_cons]
    exact congrArg (s.resolveRecords t ++ ·) (List.append_nil _)

/-- Of all that is reported the warnings are those about tokens without a data point. -/
theorem warnings_resolveRecords (s : Store) (ts : List Token) :
    Log.warnings (ts.flatMap s.resolveRecords) =
      (ts.filter fun t => (s.lookup t.dataPointId).isNone).map s.unresolvedRecord := by
  induction ts with
  | nil => rfl
  | cons t ts ih =>
    have hfirst : Log.warnings (s.resolveRecords t) =
        ([t].filter fun t => (s.lookup t.dataPointId).isNone).map s.unresolvedRecord := by
      rw [resolveRecords]
      cases hlookup : s.lookup t.dataPointId with
      | none => simp [Log.warnings, hlookup, unresolvedRecord]
      | some p =>
        by_cases hid : p.id = t.dataPointId <;> simp [Log.warnings, hlookup, hid, normalizedRecord]
    rw [← List.singleton_append, List.flatMap_append, List.filter_append, List.map_append, ← ih, ← hfirst,
      List.flatMap_singleton]
    exact List.filter_append ..

/-- **Resolving a text is one substitution.** Unless a token asks for an item by a numeral of too many digits, the text
comes out with what each token stands for in the place where the token was read, and with all else kept; a text without
tokens is its own resolved text; texts joined where no token is cut resolve to what is joined of theirs; and each
different token without a data point is warned about once. -/
theorem resolveText_substitutes (h : ∀ t ∈ Template.tokens text, ¬ s.Overlong t) :
    (∃ stand : Token → String,
      (∀ t ∈ Template.tokens text,
        (∀ p, s.lookup t.dataPointId = some p → Token.render p.value t.field = .ok (stand t)) ∧
          (s.lookup t.dataPointId = none → stand t = "")) ∧
      (s.resolveText text).outcome.value = .ok (String.ofList
        (Template.splice (fun span => (stand span.token).toList) text.toList 0 (Template.spans text)))) ∧
    (Template.spans text = [] → s.resolveText text = pure text) ∧
    (∀ x y, x ++ y = text → Template.Clear text x.length → ∃ resolvedX resolvedY,
      (s.resolveText x).outcome.value = .ok resolvedX ∧ (s.resolveText y).outcome.value = .ok resolvedY ∧
        (s.resolveText text).outcome.value = .ok (resolvedX ++ resolvedY)) ∧
    ∃ missing : List Token, missing.Nodup ∧
      (∀ t, t ∈ missing ↔ t ∈ Template.tokens text ∧ s.lookup t.dataPointId = none) ∧
      Log.warnings (s.resolveText text).outcome.records = missing.map s.unresolvedRecord := by
  obtain ⟨resolved, hresolved⟩ := exists_resolveText_iff.2 h
  obtain ⟨stand, -, hstand⟩ := resolveText_eq_ok hresolved
  have hvalue := resolveText_of_forall hstand
  refine ⟨⟨stand, fun t ht => ?_, ?_⟩, fun hspans => ?_, ?_, ?_⟩
  · have hstands := hstand t ht
    rw [resolveToken] at hstands
    constructor
    · intro p hp
      rwa [hp] at hstands
    · intro hnone
      rw [hnone] at hstands
      exact (Except.ok.inj hstands).symm
  · rw [hvalue, Template.fill_eq_splice]
  · refine resolveText_of_tokens_eq_nil (List.eq_nil_iff_forall_not_mem.2 fun t ht => ?_)
    obtain ⟨span, hspan, -⟩ := (Template.exists_mem_spansFrom 0).2 (Template.mem_tokens.1 ht)
    rw [Template.spans] at hspans
    rw [hspans] at hspan
    cases hspan
  · rintro x y rfl hclear
    have hjoin := Template.tokens_join hclear
    refine ⟨_, _, resolveText_of_forall fun t ht => hstand t ?_, resolveText_of_forall fun t ht => hstand t ?_, ?_⟩
    · rw [hjoin]
      exact List.mem_append_left _ ht
    · rw [hjoin]
      exact List.mem_append_right _ ht
    · rw [hvalue, Template.fill_join _ hclear]
  · refine ⟨(Template.tokens text).eraseDups.filter fun t => (s.lookup t.dataPointId).isNone,
      (nodup_eraseDups _).filter _, fun t => ?_, ?_⟩
    · rw [List.mem_filter, List.mem_eraseDups, Option.isNone_iff_eq_none]
    · have hstands : ∀ t ∈ (Template.tokens text).eraseDups, s.resolveToken t = .ok (stand t) :=
        fun t ht => hstand t (List.mem_eraseDups.1 ht)
      rw [resolveText, Attempt.records_bind (resolveTokens_of_forall hstands), records_resolveTokens hstands,
        ← warnings_resolveRecords]
      exact congrArg Log.warnings (List.append_nil _)

/-- A value that reads like a token is kept as it is, and two fields of a missing data point are two warnings. -/
theorem resolveText_substitutes_marked :
    let s := Store.empty.add { id := "a", value := .str "${b}", timestamp := 1 }
    let text := "${a}, ${b.x}, ${a}, ${b.y}, ${b.x}"
    (∀ t ∈ Template.tokens text, ¬ s.Overlong t) ∧
      (s.resolveText text).outcome.value = .ok "${b}, , ${b}, , " ∧
      (∃ resolvedX resolvedY, (s.resolveText "${a}, ${b.x}").outcome.value = .ok resolvedX ∧
        (s.resolveText ", ${a}, ${b.y}, ${b.x}").outcome.value = .ok resolvedY ∧
        (s.resolveText text).outcome.value = .ok (resolvedX ++ resolvedY)) ∧
      ∃ missing : List Token, missing.Nodup ∧ ⟨"b", some "x"⟩ ∈ missing ∧ ⟨"b", some "y"⟩ ∈ missing ∧
        Log.warnings (s.resolveText text).outcome.records = missing.map s.unresolvedRecord := by
  intro s text
  have htokens : Template.tokens text =
      [⟨"a", none⟩, ⟨"b", some "x"⟩, ⟨"a", none⟩, ⟨"b", some "y"⟩, ⟨"b", some "x"⟩] := by decide +kernel
  have hshort : ∀ t ∈ Template.tokens text, ¬ s.Overlong t := by
    rintro t - ⟨p, hp, items, numeral, hitems, -⟩
    rw [List.mem_singleton.1 (mem_of_lookup hp)] at hitems
    cases hitems
  obtain ⟨-, -, hjoin, missing, hnodup, hmem, hwarnings⟩ := resolveText_substitutes hshort
  refine ⟨hshort, by decide, ?_, missing, hnodup, ?_, ?_, hwarnings⟩
  · exact hjoin _ _ (by decide) (by decide +kernel)
  · rw [hmem, htokens]
    exact ⟨by decide, rfl⟩
  · rw [hmem, htokens]
    exact ⟨by decide, rfl⟩

end Store

end Runbook
