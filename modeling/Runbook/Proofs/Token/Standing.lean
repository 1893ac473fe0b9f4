import Mathlib.Data.Prod.Lex
import Runbook.Proofs.Token.Lookup

/-!
# What an id stands for

An id can stand for a data point in several ways, from being its id to being the beginning of its id (`StandsFor`). The
ways are ranked, and of the data points that an id can stand for it stands for the one of the lowest rank, the first
to arrive of those with the same.

* `Finds.or` — to look among some ways and, if that fails, among others is to look among all of them, if the others
  come later.
* `Store.lookup_stands` — looking up an id finds what it stands for, and nothing exactly if it can stand for no data
  point.
* `Store.lookup_entry` — what an id of a knowledge entry stands for is that entry or one whose id goes on after it,
  unless the id ends in a time stamp.
-/

namespace Runbook

/-! ## What an id can stand for -/

/-- What is left of an id once the beginning `kb_` is taken away `n` times, where what is left begins so, too. -/
inductive EntryId : (id : List Char) → (n : Nat) → (entry : List Char) → Prop where
  | whole {id : List Char} (h : "kb_".toList <+: id) : EntryId id 0 id
  | strip {id entry : List Char} {n : Nat} (h : EntryId id n entry) : EntryId ("kb_".toList ++ id) (n + 1) entry

/-- The place of a way among all ways to stand for a data point: what is lower comes first. -/
abbrev Rank := Nat ×ₗ Nat

theorem Rank.lt_of_lt {a b : Nat} (h : a < b) (c d : Nat) : (toLex (a, c) : Rank) < toLex (b, d) :=
  Prod.Lex.toLex_lt_toLex.2 (.inl h)

theorem Rank.lt_of_eq_of_lt (a : Nat) {c d : Nat} (h : c < d) : (toLex (a, c) : Rank) < toLex (a, d) :=
  Prod.Lex.toLex_lt_toLex.2 (.inr ⟨rfl, h⟩)

/-- The ways in which an id can stand for a data point. -/
inductive StandsFor (id : String) (p : DataPoint) : Rank → Prop where
  /-- The data point has the id. -/
  | same (h : p.id = id) : StandsFor id p (toLex (0, 0))
  /-- The data point is an output, and the id is its own with a number after it. -/
  | output {stamp : List Char} (stamped : Stamped id p.id stamp) (marked : "_output".toList <:+ p.id.toList) :
      StandsFor id p (toLex (1, 0))
  /-- The id is that of the data point with a time stamp after it. -/
  | base {stamp : List Char} (stamped : Stamped id p.id stamp) (long : minStampDigits ≤ stamp.length) :
      StandsFor id p (toLex (2, 0))
  /-- The id is the source of the data point with a time stamp after it. -/
  | provider {stamp : List Char} (stamped : Stamped id p.source stamp) (long : minStampDigits ≤ stamp.length) :
      StandsFor id p (toLex (3, 0))
  /-- What comes before a time stamp begins with the id of the data point; the less comes between, the better. -/
  | beginning {base : String} {stamp rest : List Char} (stamped : Stamped id base stamp)
      (long : minStampDigits ≤ stamp.length) (begins : base.toList = p.id.toList ++ '_' :: rest) :
      StandsFor id p (toLex (4, rest.length))
  /-- The data point has the id of a knowledge entry, as it is or without some `kb_`. -/
  | entry {n : Nat} (h : EntryId id.toList n p.id.toList) : StandsFor id p (toLex (5, 2 * n))
  /-- The id of the data point goes on after that of the knowledge entry. -/
  | extension {n : Nat} {entry : List Char} (h : EntryId id.toList n entry)
      (goesOn : entry ++ ['_'] <+: p.id.toList) : StandsFor id p (toLex (5, 2 * n + 1))

/-! ## Looking for the best -/

section

variable {R R' : DataPoint → Rank → Prop} {points : List DataPoint} {found other : Option DataPoint}
  {p q : DataPoint}

/-- Does a data point have the lowest rank of all, and is it the first with that rank? -/
def StandsBest (R : DataPoint → Rank → Prop) (points : List DataPoint) (p : DataPoint) : Prop :=
  ∃ rank, R p rank ∧ (∀ q ∈ points, ∀ other, R q other → rank ≤ other) ∧
    ∃ before after, points = before ++ p :: after ∧ ∀ q ∈ before, ¬ R q rank

/-- What is to be found: the data point that stands best, or nothing if none stands at all. -/
def Finds (R : DataPoint → Rank → Prop) (points : List DataPoint) : Option DataPoint → Prop
  | some p => StandsBest R points p
  | none => ∀ p ∈ points, ∀ rank, ¬ R p rank

theorem Finds.congr (h : ∀ p rank, R p rank ↔ R' p rank) (hfound : Finds R points found) :
    Finds R' points found := by
  have hsame : R = R' := by
    funext p rank
    exact propext (h p rank)
  rwa [← hsame]

/-- Only one data point stands best. -/
theorem StandsBest.eq (hp : StandsBest R points p) (hq : StandsBest R points q) : p = q := by
  obtain ⟨rank, hRp, hlowest, before, after, hpoints, hbefore⟩ := hp
  obtain ⟨rank', hRq, hlowest', before', after', hpoints', hbefore'⟩ := hq
  have hpmem : p ∈ points := by rw [hpoints]; simp
  have hqmem : q ∈ points := by rw [hpoints']; simp
  obtain rfl : rank = rank' := le_antisymm (hlowest q hqmem _ hRq) (hlowest' p hpmem _ hRp)
  -- neither comes before the other
  rw [hpoints] at hpoints'
  rcases List.append_eq_append_iff.1 hpoints' with ⟨between, hbetween, hcons⟩ | ⟨between, hbetween, hcons⟩
  · cases between with
    | nil => exact (List.cons.inj hcons).1
    | cons first between =>
      obtain rfl := (List.cons.inj hcons).1
      exact absurd hRp (hbefore' p (by rw [hbetween]; simp))
  · cases between with
    | nil => exact (List.cons.inj hcons).1.symm
    | cons first between =>
      obtain rfl := (List.cons.inj hcons).1
      exact absurd hRq (hbefore q (by rw [hbetween]; simp))

theorem Finds.eq_some_iff (h : Finds R points found) : found = some p ↔ StandsBest R points p := by
  cases found with
  | none =>
    constructor
    · intro hnone
      cases hnone
    · rintro ⟨rank, hR, -, before, after, rfl, -⟩
      exact absurd hR (h p (by simp) rank)
  | some q =>
    constructor
    · intro hq
      exact Option.some.inj hq ▸ h
    · intro hp
      rw [StandsBest.eq h hp]

theorem Finds.eq_none_iff (h : Finds R points found) :
    found = none ↔ ∀ p ∈ points, ∀ rank, ¬ R p rank := by
  cases found with
  | none => exact ⟨fun _ => h, fun _ => rfl⟩
  | some q =>
    constructor
    · intro hnone
      cases hnone
    · intro hnone
      obtain ⟨rank, hR, -, before, after, rfl, -⟩ := h
      exact absurd hR (hnone q (by simp) rank)

/-- Where there is a single rank, the first data point is found. -/
theorem finds_find? {f : DataPoint → Bool} {Q : DataPoint → Prop} (h : ∀ p, f p = true ↔ Q p) (rank : Rank)
    (points : List DataPoint) : Finds (fun p r => Q p ∧ r = rank) points (points.find? f) := by
  cases hfound : points.find? f with
  | none =>
    rw [List.find?_eq_none] at hfound
    intro p hp r hR
    exact hfound p hp ((h p).2 hR.1)
  | some p =>
    rw [List.find?_eq_some_iff_append] at hfound
    obtain ⟨hp, before, after, hpoints, hbefore⟩ := hfound
    refine ⟨rank, ⟨(h p).1 hp, rfl⟩, ?_, before, after, hpoints, ?_⟩
    · rintro q - other ⟨-, rfl⟩
      exact le_rfl
    · intro q hq hR
      have hnot := hbefore q hq
      rw [(h q).2 hR.1] at hnot
      cases hnot

/-- To look among some ways and, if that fails, among later ones is to look among all of them. -/
theorem Finds.or (later : ∀ p q rank rank', R p rank → R' q rank' → rank < rank') (h : Finds R points found)
    (h' : Finds R' points other) : Finds (fun p rank => R p rank ∨ R' p rank) points (found.or other) := by
  cases found with
  | some p =>
    obtain ⟨rank, hR, hlowest, before, after, hpoints, hbefore⟩ := h
    refine ⟨rank, .inl hR, ?_, before, after, hpoints, ?_⟩
    · rintro q hq r (hq' | hq')
      · exact hlowest q hq r hq'
      · exact (later p q rank r hR hq').le
    · rintro q hq (hq' | hq')
      · exact hbefore q hq hq'
      · exact (later p q rank rank hR hq').false
  | none =>
    cases other with
    | none =>
      rintro p hp rank (hR | hR)
      · exact h p hp rank hR
      · exact h' p hp rank hR
    | some p =>
      obtain ⟨rank, hR, hlowest, before, after, hpoints, hbefore⟩ := h'
      refine ⟨rank, .inr hR, ?_, before, after, hpoints, ?_⟩
      · rintro q hq r (hq' | hq')
        · exact absurd hq' (h q hq r)
        · exact hlowest q hq r hq'
      · rintro q hq (hq' | hq')
        · exact absurd hq' (h q (by rw [hpoints]; simp [hq]) rank)
        · exact hbefore q hq hq'

/-- Where no data point has a rank, nothing is found. -/
theorem finds_none (h : ∀ p rank, ¬ R p rank) : Finds R points none :=
  fun p _ rank => h p rank

end

/-! ## Beginnings of an id -/

/-- The beginnings of a text that end before an underscore, the shortest first. -/
def stems : List Char → List (List Char)
  | [] => []
  | c :: cs => (if c = '_' then [[]] else []) ++ (stems cs).map (c :: ·)

theorem splitOn_ne_nil (sep : Char) (cs : List Char) : Text.splitOn sep cs ≠ [] := by
  cases cs with
  | nil => simp [Text.splitOn]
  | cons c cs =>
    rw [Text.splitOn]
    split
    · simp
    · split <;> simp

/-- The segments of a text put together again, one more at a time and without the last. -/
theorem map_joinWith_take (cs : List Char) :
    (List.range ((Text.splitOn '_' cs).length - 1)).map
      (fun n => Text.joinWith ['_'] ((Text.splitOn '_' cs).take (n + 1))) = stems cs := by
  induction cs with
  | nil => rfl
  | cons c cs ih =>
    obtain ⟨piece, pieces, hpieces⟩ := List.exists_cons_of_ne_nil (splitOn_ne_nil '_' cs)
    rw [hpieces] at ih
    by_cases hc : c = '_'
    · subst hc
      simp only [Text.splitOn, if_true, hpieces, List.length_cons, Nat.add_sub_cancel, stems, ← ih,
        List.map_map, List.range_succ_eq_map, List.map_cons]
      simp [Text.joinWith]
    · have hsplit : Text.splitOn '_' (c :: cs) = (c :: piece) :: pieces := by
        rw [Text.splitOn, if_neg hc, hpieces]
      rw [hsplit, stems, if_neg hc, List.nil_append, ← ih, List.map_map]
      refine List.map_congr_left fun n _ => ?_
      cases hrest : pieces.take n with
      | nil => simp [hrest, Text.joinWith]
      | cons next rest => simp [hrest, Text.joinWith]

theorem shortened_eq (id : String) : shortened id = (stems id.toList).reverse.map String.ofList := by
  rw [shortened, ← map_joinWith_take, ← List.map_reverse, List.map_map]
  rfl

namespace Store

variable {s : Store} {id : String}

theorem finds_get? (s : Store) (id : String) (rank : Rank) :
    Finds (fun p r => p.id = id ∧ r = rank) s.points (s.get? id) :=
  finds_find? (fun _ => beq_iff_eq) rank s.points

/-- Of the beginnings of a text that follow `start` the longest that is an id is found. -/
theorem finds_stems (s : Store) (start cs : List Char) :
    Finds (fun p r => ∃ stem rest, cs = stem ++ '_' :: rest ∧ p.id.toList = start ++ stem ∧
        r = toLex (4, rest.length)) s.points
      ((stems cs).reverse.findSome? fun stem => s.get? (String.ofList (start ++ stem))) := by
  induction cs generalizing start with
  | nil =>
    refine finds_none ?_
    rintro p r ⟨stem, rest, hnil, -⟩
    simp at hnil
  | cons c cs ih =>
    have hlonger := ih (start ++ [c])
    have hstep : ((stems (c :: cs)).reverse.findSome? fun stem => s.get? (String.ofList (start ++ stem))) =
        ((stems cs).reverse.findSome? fun stem => s.get? (String.ofList (start ++ [c] ++ stem))).or
          (if c = '_' then s.get? (String.ofList start) else none) := by
      rw [stems, List.reverse_append, List.findSome?_append, ← List.map_reverse, List.findSome?_map]
      by_cases hc : c = '_' <;> simp [hc, Function.comp_def]
    have hshortest : Finds (fun p r => (c = '_' ∧ p.id.toList = start) ∧ r = toLex (4, cs.length)) s.points
        (if c = '_' then s.get? (String.ofList start) else none) := by
      by_cases hc : c = '_'
      · rw [if_pos hc]
        refine (s.finds_get? (String.ofList start) (toLex (4, cs.length))).congr fun p r => ?_
        rw [← String.toList_inj, String.toList_ofList]
        simp [hc]
      · rw [if_neg hc]
        exact finds_none fun p r h => hc h.1.1
    rw [hstep]
    refine (hlonger.or ?_ hshortest).congr fun p r => ?_
    · rintro p q rank rank' ⟨stem, rest, hcs, -, rfl⟩ ⟨-, rfl⟩
      have hlength := congrArg List.length hcs
      rw [List.length_append, List.length_cons] at hlength
      exact Rank.lt_of_eq_of_lt 4 (by omega)
    · constructor
      · rintro (⟨stem, rest, rfl, hid, rfl⟩ | ⟨⟨rfl, hid⟩, rfl⟩)
        · exact ⟨c :: stem, rest, rfl, by simpa using hid, rfl⟩
        · exact ⟨[], cs, rfl, by simpa using hid, rfl⟩
      · rintro ⟨stem, rest, hcs, hid, rfl⟩
        cases stem with
        | nil =>
          obtain ⟨rfl, rfl⟩ := List.cons.inj hcs
          exact .inr ⟨⟨rfl, by simpa using hid⟩, rfl⟩
        | cons d stem =>
          obtain ⟨rfl, rfl⟩ := List.cons.inj hcs
          exact .inl ⟨stem, rest, rfl, by simpa using hid, rfl⟩

/-- What an output's id with a number after it stands for. -/
theorem finds_findOutput? (s : Store) (id : String) :
    Finds (fun p r => (∃ stamp, Stamped id p.id stamp ∧ "_output".toList <:+ p.id.toList) ∧ r = toLex (1, 0))
      s.points (s.findOutput? id) := by
  rw [findOutput?]
  cases hsplit : splitStamp? id with
  | none =>
    refine finds_none ?_
    rintro p r ⟨⟨stamp, hstamped, -⟩, -⟩
    exact not_stamped hsplit hstamped
  | some parts =>
    obtain ⟨base, stamp⟩ := parts
    have hbase : Stamped id base stamp := splitStamp?_eq_some_iff.1 hsplit
    have hmarked : (Text.stripSuffix? "_output".toList base.toList).isSome = true ↔
        "_output".toList <:+ base.toList := by
      rw [Option.isSome_iff_exists]
      constructor
      · rintro ⟨rest, hrest⟩
        exact ⟨rest, (Text.stripSuffix?_eq_some_iff.1 hrest).symm⟩
      · rintro ⟨rest, hrest⟩
        exact ⟨rest, Text.stripSuffix?_eq_some_iff.2 hrest.symm⟩
    simp only [hmarked]
    by_cases houtput : "_output".toList <:+ base.toList
    · rw [if_pos houtput]
      refine (s.finds_get? base _).congr fun p r => and_congr_left fun _ => ?_
      constructor
      · rintro rfl
        exact ⟨stamp, hbase, houtput⟩
      · rintro ⟨stamp', hstamped, -⟩
        exact (hstamped.eq hbase).1
    · rw [if_neg houtput]
      refine finds_none ?_
      rintro p r ⟨⟨stamp', hstamped, hp⟩, -⟩
      rw [(hstamped.eq hbase).1] at hp
      exact houtput hp

/-- What an id with a time stamp after it stands for. -/
theorem finds_findStamped? (s : Store) (id : String) :
    Finds (fun p r => ∃ base stamp, Stamped id base stamp ∧ minStampDigits ≤ stamp.length ∧
        ((p.id = base ∧ r = toLex (2, 0)) ∨ (p.source = base ∧ r = toLex (3, 0)) ∨
          ∃ stem rest, base.toList = stem ++ '_' :: rest ∧ p.id.toList = [] ++ stem ∧ r = toLex (4, rest.length)))
      s.points (s.findStamped? id) := by
  rw [findStamped?]
  cases hsplit : splitStamp? id with
  | none =>
    refine finds_none ?_
    rintro p r ⟨base, stamp, hstamped, -⟩
    exact not_stamped hsplit hstamped
  | some parts =>
    obtain ⟨base, stamp⟩ := parts
    have hbase : Stamped id base stamp := splitStamp?_eq_some_iff.1 hsplit
    by_cases hlong : stamp.length < minStampDigits
    · simp only [if_pos hlong]
      refine finds_none ?_
      rintro p r ⟨base', stamp', hstamped, hlong', -⟩
      rw [(hstamped.eq hbase).2] at hlong'
      exact absurd hlong (Nat.not_lt.2 hlong')
    · simp only [if_neg hlong, shortened_eq, List.findSome?_map]
      have hsource : Finds (fun p r => p.source = base ∧ r = toLex (3, 0)) s.points (s.findBySource? base) :=
        finds_find? (fun _ => beq_iff_eq) _ s.points
      have hstages := (s.finds_get? base (toLex (2, 0))).or ?_ (hsource.or ?_ (s.finds_stems [] base.toList))
      · refine Finds.congr (fun p r => ?_) hstages
        constructor
        · intro h
          exact ⟨base, stamp, hbase, Nat.not_lt.1 hlong, h⟩
        · rintro ⟨base', stamp', hstamped, -, h⟩
          rwa [(hstamped.eq hbase).1] at h
      · rintro p q rank rank' ⟨-, rfl⟩ (⟨-, rfl⟩ | ⟨stem, rest, -, -, rfl⟩)
        · exact Rank.lt_of_lt (by decide) _ _
        · exact Rank.lt_of_lt (by decide) _ _
      · rintro p q rank rank' ⟨-, rfl⟩ ⟨stem, rest, -, -, rfl⟩
        exact Rank.lt_of_lt (by decide) _ _

/-- What the id of a knowledge entry stands for, counting from `k` on how often `kb_` is taken away. -/
theorem finds_knowledgeIds (s : Store) (k : Nat) (cs : List Char) :
    Finds (fun p r => ∃ n entry, EntryId cs n entry ∧
        ((p.id.toList = entry ∧ r = toLex (5, 2 * (k + n))) ∨
          (entry ++ ['_'] <+: p.id.toList ∧ r = toLex (5, 2 * (k + n) + 1)))) s.points
      ((knowledgeIds cs).findSome? fun candidate =>
        (s.get? (String.ofList candidate)).or (s.findByPrefix? (String.ofList (candidate ++ ['_'])))) := by
  induction cs using knowledgeIds.induct generalizing k with
  | case1 rest ih =>
    have hwhole : Finds (fun p r => p.id.toList = "kb_".toList ++ rest ∧ r = toLex (5, 2 * k)) s.points
        (s.get? (String.ofList ('k' :: 'b' :: '_' :: rest))) := by
      refine (s.finds_get? _ (toLex (5, 2 * k))).congr fun p r => ?_
      rw [← String.toList_inj, String.toList_ofList]
      rfl
    have hlonger : Finds (fun p r => "kb_".toList ++ rest ++ ['_'] <+: p.id.toList ∧ r = toLex (5, 2 * k + 1))
        s.points (s.findByPrefix? (String.ofList ('k' :: 'b' :: '_' :: rest ++ ['_']))) := by
      refine finds_find? (fun p => ?_) _ s.points
      rw [List.isPrefixOf_iff_prefix, String.toList_ofList]
      rfl
    have hstep {f : List Char → Option DataPoint} (candidate : List Char) (others : List (List Char)) :
        (candidate :: others).findSome? f = (f candidate).or (others.findSome? f) := by
      rw [List.findSome?_cons]
      cases f candidate <;> rfl
    rw [knowledgeIds, hstep, Option.or_assoc]
    refine (hwhole.or ?_ (hlonger.or ?_ (ih (k + 1)))).congr fun p r => ?_
    · rintro p q rank rank' ⟨-, rfl⟩ (⟨-, rfl⟩ | ⟨n, entry, -, ⟨-, rfl⟩ | ⟨-, rfl⟩⟩) <;>
        exact Rank.lt_of_eq_of_lt 5 (by omega)
    · rintro p q rank rank' ⟨-, rfl⟩ ⟨n, entry, -, ⟨-, rfl⟩ | ⟨-, rfl⟩⟩ <;>
        exact Rank.lt_of_eq_of_lt 5 (by omega)
    · constructor
      · rintro (⟨hid, rfl⟩ | ⟨hid, rfl⟩ | ⟨n, entry, hentry, h⟩)
        · exact ⟨0, _, .whole (List.prefix_append _ _), .inl ⟨hid, rfl⟩⟩
        · exact ⟨0, _, .whole (List.prefix_append _ _), .inr ⟨hid, rfl⟩⟩
        · refine ⟨n + 1, entry, .strip hentry, ?_⟩
          rwa [← Nat.add_assoc, Nat.add_right_comm]
      · rintro ⟨n, entry, hentry, h⟩
        cases hentry with
        | whole _ =>
          rcases h with h | h
          · exact .inl h
          · exact .inr (.inl h)
        | strip hrest =>
          refine .inr (.inr ⟨_, entry, hrest, ?_⟩)
          rwa [Nat.add_right_comm, Nat.add_assoc]
  | case2 cs hnot =>
    have hnone : knowledgeIds cs = [] := by rw [knowledgeIds]; exact hnot
    rw [hnone]
    refine finds_none ?_
    rintro p r ⟨n, entry, hentry, -⟩
    have hstart : "kb_".toList <+: cs := by
      cases hentry with
      | whole h => exact h
      | strip h => exact List.prefix_append _ _
    obtain ⟨rest, hrest⟩ := hstart
    exact hnot rest hrest.symm

theorem finds_lookup (s : Store) (id : String) : Finds (StandsFor id) s.points (s.lookup id) := by
  have hentry := s.finds_knowledgeIds 0 id.toList
  simp only [Nat.zero_add] at hentry
  have hstages := (s.finds_get? id (toLex (0, 0))).or ?_
    ((s.finds_findOutput? id).or ?_ ((s.finds_findStamped? id).or ?_ hentry))
  · rw [lookup]
    refine Finds.congr (fun p r => ?_) hstages
    constructor
    · rintro (⟨h, rfl⟩ | ⟨⟨stamp, hstamped, hmarked⟩, rfl⟩ | ⟨base, stamp, hstamped, hlong, h⟩ | ⟨n, entry, hentry, h⟩)
      · exact .same h
      · exact .output hstamped hmarked
      · rcases h with ⟨rfl, rfl⟩ | ⟨rfl, rfl⟩ | ⟨stem, rest, hbase, hid, rfl⟩
        · exact .base hstamped hlong
        · exact .provider hstamped hlong
        · rw [List.nil_append] at hid
          exact .beginning hstamped hlong (hid ▸ hbase)
      · rcases h with ⟨rfl, rfl⟩ | ⟨h, rfl⟩
        · exact .entry hentry
        · exact .extension hentry h
    · intro h
      cases h with
      | same h => exact .inl ⟨h, rfl⟩
      | output hstamped hmarked => exact .inr (.inl ⟨⟨_, hstamped, hmarked⟩, rfl⟩)
      | base hstamped hlong => exact .inr (.inr (.inl ⟨_, _, hstamped, hlong, .inl ⟨rfl, rfl⟩⟩))
      | provider hstamped hlong => exact .inr (.inr (.inl ⟨_, _, hstamped, hlong, .inr (.inl ⟨rfl, rfl⟩)⟩))
      | beginning hstamped hlong hbase =>
        exact .inr (.inr (.inl ⟨_, _, hstamped, hlong, .inr (.inr ⟨_, _, hbase, rfl, rfl⟩)⟩))
      | entry hentry => exact .inr (.inr (.inr ⟨_, _, hentry, .inl ⟨rfl, rfl⟩⟩))
      | extension hentry h => exact .inr (.inr (.inr ⟨_, _, hentry, .inr ⟨h, rfl⟩⟩))
  · rintro p q rank rank' ⟨-, rfl⟩ (⟨-, rfl⟩ | ⟨base, stamp, -, -, ⟨-, rfl⟩ | ⟨-, rfl⟩ | ⟨stem, rest, -, -, rfl⟩⟩ |
      ⟨n, entry, -, ⟨-, rfl⟩ | ⟨-, rfl⟩⟩) <;> exact Rank.lt_of_lt (by decide) _ _
  · rintro p q rank rank' ⟨-, rfl⟩ (⟨base, stamp, -, -, ⟨-, rfl⟩ | ⟨-, rfl⟩ | ⟨stem, rest, -, -, rfl⟩⟩ |
      ⟨n, entry, -, ⟨-, rfl⟩ | ⟨-, rfl⟩⟩) <;> exact Rank.lt_of_lt (by decide) _ _
  · rintro p q rank rank' ⟨base, stamp, -, -, ⟨-, rfl⟩ | ⟨-, rfl⟩ | ⟨stem, rest, -, -, rfl⟩⟩
      ⟨n, entry, -, ⟨-, rfl⟩ | ⟨-, rfl⟩⟩ <;> exact Rank.lt_of_lt (by decide) _ _

/-- **Looking up an id finds what it stands for**: of the data points that it can stand for the one of the lowest rank,
the first to arrive of those with the same, and nothing exactly if there are none. -/
theorem lookup_stands (s : Store) (id : String) :
    (∀ p, s.lookup id = some p ↔ StandsBest (StandsFor id) s.points p) ∧
      (s.lookup id = none ↔ ∀ p ∈ s.points, ∀ rank, ¬ StandsFor id p rank) :=
  ⟨fun _ => (s.finds_lookup id).eq_some_iff, (s.finds_lookup id).eq_none_iff⟩

theorem mem_of_lookup {s : Store} {id : String} {p : DataPoint} (h : s.lookup id = some p) : p ∈ s.points := by
  obtain ⟨rank, -, -, before, after, hpoints, -⟩ := (s.finds_lookup id).eq_some_iff.1 h
  rw [hpoints]
  simp

/-- Digits with nothing but an underscore before them are no time stamp, and do not stand for a data point whose source
is the empty text. -/
theorem lookup_unnamed_source :
    "_1234567890".toList = "".toList ++ '_' :: "1234567890".toList ∧
      Text.isDigits "1234567890".toList = true ∧ minStampDigits ≤ "1234567890".toList.length ∧
      ∃ p ∈ (empty.add { id := "sel", timestamp := 1 }).points, p.source = "" ∧
        (empty.add { id := "sel", timestamp := 1 }).lookup "_1234567890" = none :=
  ⟨by decide, by decide, by decide, _, List.mem_singleton_self _, rfl, by decide +kernel⟩

variable {s : Store} {id : String} {p : DataPoint}

/-- **What the id of a knowledge entry stands for** is that entry, or a data point whose id goes on after it, with some
`kb_` taken away. There is one exception: if no data point has the id and it ends in a number, then that number is taken
for a time stamp first, and what stands before it for the id of an output, the id of any data point or the beginning of
one, or the name of a source. -/
theorem lookup_entry (hkb : "kb_".toList <+: id.toList) (h : s.lookup id = some p) :
    (∃ n entry, EntryId id.toList n entry ∧ (p.id.toList = entry ∨ entry ++ ['_'] <+: p.id.toList)) ∨
      ((∀ q ∈ s.points, q.id ≠ id) ∧ ∃ base stamp, Stamped id base stamp ∧
        (("_output".toList <:+ base.toList ∧ p.id = base) ∨
          (minStampDigits ≤ stamp.length ∧
            (p.id = base ∨ p.source = base ∨ ∃ rest, base.toList = p.id.toList ++ '_' :: rest)))) := by
  obtain ⟨rank, hstands, hlowest, -⟩ := (s.lookup_stands id).1 p |>.1 h
  have hfree {a b : Nat} (hrank : rank = toLex (a + 1, b)) : ∀ q ∈ s.points, q.id ≠ id := by
    intro q hq hid
    have hle := hlowest q hq _ (.same hid)
    rw [hrank] at hle
    exact absurd (Rank.lt_of_lt (Nat.succ_pos a) 0 b) (not_lt_of_ge hle)
  cases hstands with
  | same hid => exact .inl ⟨0, _, .whole hkb, .inl (congrArg String.toList hid)⟩
  | output hstamped hmarked => exact .inr ⟨hfree rfl, _, _, hstamped, .inl ⟨hmarked, rfl⟩⟩
  | base hstamped hlong => exact .inr ⟨hfree rfl, _, _, hstamped, .inr ⟨hlong, .inl rfl⟩⟩
  | provider hstamped hlong => exact .inr ⟨hfree rfl, _, _, hstamped, .inr ⟨hlong, .inr (.inl rfl)⟩⟩
  | beginning hstamped hlong hbase =>
    exact .inr ⟨hfree rfl, _, _, hstamped, .inr ⟨hlong, .inr (.inr ⟨_, hbase⟩)⟩⟩
  | entry hentry => exact .inl ⟨_, _, hentry, .inl rfl⟩
  | extension hentry hgoesOn => exact .inl ⟨_, _, hentry, .inr hgoesOn⟩

/-- An id with `kb_` written twice stands for an entry of several pages. -/
theorem lookup_entry_page :
    let page : DataPoint := { id := "kb_abc_1", source := "kb", timestamp := 1 }
    ("kb_".toList <+: "kb_kb_abc".toList ∧ (empty.add page).lookup "kb_kb_abc" = some page) ∧
      (EntryId "kb_kb_abc".toList 1 "kb_abc".toList ∧ "kb_abc".toList ++ ['_'] <+: page.id.toList) ∧
      ((∃ n entry, EntryId "kb_kb_abc".toList n entry ∧
          (page.id.toList = entry ∨ entry ++ ['_'] <+: page.id.toList)) ∨
        ((∀ q ∈ (empty.add page).points, q.id ≠ "kb_kb_abc") ∧ ∃ base stamp, Stamped "kb_kb_abc" base stamp ∧
          (("_output".toList <:+ base.toList ∧ page.id = base) ∨
            (minStampDigits ≤ stamp.length ∧
              (page.id = base ∨ page.source = base ∨ ∃ rest, base.toList = page.id.toList ++ '_' :: rest))))) := by
  intro page
  have hkb : "kb_".toList <+: "kb_kb_abc".toList := by decide
  have hids : knowledgeIds "kb_kb_abc".toList = ["kb_kb_abc".toList, "kb_abc".toList] := rfl
  have hfound : (empty.add page).lookup "kb_kb_abc" = some page := by
    rw [lookup, findKnowledge?, hids]
    simp only [page]
    rfl
  refine ⟨⟨hkb, hfound⟩, ⟨?_, by decide⟩, lookup_entry hkb hfound⟩
  exact .strip (.whole (by decide))

/-- An entry whose id is made of digits is taken for a time stamp after the name of the source of all entries. -/
theorem lookup_entry_digits :
    let notes : DataPoint := { id := "kb_notes", source := "kb", timestamp := 1 }
    (empty.add notes).lookup "kb_1712345678901" = some notes ∧
      ∀ n entry, EntryId "kb_1712345678901".toList n entry →
        notes.id.toList ≠ entry ∧ ¬ entry ++ ['_'] <+: notes.id.toList := by
  intro notes
  refine ⟨by rfl, fun n entry hentry => ?_⟩
  generalize hid : "kb_1712345678901".toList = id at hentry
  cases hentry with
  | whole h =>
    subst hid
    exact ⟨by decide, by decide⟩
  | strip hrest =>
    obtain rfl := List.append_cancel_left (hid.symm.trans (rfl : _ = "kb_".toList ++ "1712345678901".toList))
    cases hrest with
    | whole h => exact absurd h (by decide)

end Store

end Runbook
