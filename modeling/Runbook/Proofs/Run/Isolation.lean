import Runbook.Proofs.Run.Exclusion
import Runbook.Proofs.Run.Sequential

/-!
# Runs do not touch each other

* `Job.alone` — how the run of a job goes when there is no other.
* `Job.Solo` — after so many turns a run among others is where it would be alone: it has made the same
  requests, and what is left of it comes to the same. A turn of its own takes it one request further
  (`solo_turn`), and moves of other runs leave it where it is.
* `play_isolated` — so a run among others makes the requests that it makes alone, comes to the same result,
  and gets there within as many turns.
-/

namespace Runbook.Run

namespace Event

theorem requests_append (events events' : List Event) :
    requests (events ++ events') = requests events ++ requests events' := by
  induction events with
  | nil => rfl
  | cons event rest ih =>
    cases event with
    | entered id accepted => exact ih
    | left id outcome => exact ih
    | asked request => exact congrArg (request :: ·) ih

@[simp] theorem requests_map_asked (asked : List Request) :
    requests (asked.map Event.asked) = asked := by
  induction asked with
  | nil => rfl
  | cons request rest ih => exact congrArg (request :: ·) ih

end Event

namespace Job

variable (job : Job) (answer : (request : Request) → request.Answer)

/-- How the run of a job goes alone, before a host that answers a request always in the same way. -/
def alone : Performance (Except TransitionError Result) :=
  job.process.perform (Host.steady answer) Registry.empty []

/-- The registry while the run of a job is alone in it. -/
def ownRegistry : Registry :=
  (Registry.empty.tryBegin job.id).2

/-- After `n` turns a run is where it would be alone. -/
inductive Solo (n : Nat) : Strand (Except TransitionError Result) → Prop where
  | ready (first : n = 0) : Solo n ⟨.ready job.process, []⟩
  | inFlight {request : Request} {next : request.Answer → Process (Except TransitionError Result)}
      (asked : List Request) (count : asked.length = n)
      (within : ∀ answer, (next answer).Within job.id)
      (rest : (next (answer request)).perform (Host.steady answer) job.ownRegistry asked =
        job.alone answer) :
      Solo n ⟨.waiting request [job.id] next, .entered job.id true :: asked.map Event.asked⟩
  | ended {s : Strand (Except TransitionError Result)}
      (value : s.phase = .ended (job.alone answer).value)
      (requests : s.requests = (job.alone answer).requests) : Solo n s

end Job

/-! ## One move -/

section

variable {job : Job} {answer : (request : Request) → request.Answer}
  {s : Strand (Except TransitionError Result)} {registry : Registry} {n : Nat}

theorem solo_continued {p : Process (Except TransitionError Result)} (hp : p.Within job.id)
    (asked : List Request) (phase : Phase (Except TransitionError Result))
    (hrest : p.perform (Host.steady answer) job.ownRegistry asked = job.alone answer)
    (hmem : job.id ∈ registry.running) :
    job.Solo answer (asked.length + 1)
      ((⟨phase, .entered job.id true :: asked.map Event.asked⟩ : Strand _).continued p registry).1 := by
  have hown : job.id ∈ job.ownRegistry.running := Registry.mem_tryBegin List.not_mem_nil
  rcases Process.within_cases hp with ⟨request, next, hnext, hp⟩ | ⟨result, state, hp⟩
  · rw [(hp job.ownRegistry).2] at hrest
    rw [Strand.continued, (hp registry).1]
    show job.Solo answer _
      ⟨_, .entered job.id true :: (asked.map Event.asked ++ [request].map Event.asked)⟩
    rw [← List.map_append]
    exact .inFlight (asked ++ [request]) (by simp) hnext hrest
  · rw [(hp _ hown).2] at hrest
    rw [Strand.continued, (hp registry hmem).1]
    refine .ended ?_ ?_
    · rw [← hrest]
    · rw [← hrest]
      show Event.requests (asked.map Event.asked ++ [.left job.id (.ok state)]) = asked
      rw [Event.requests_append, Event.requests_map_asked]
      exact List.append_nil asked

/-- Another turn takes a run as far as it takes it alone. -/
theorem solo_turn (h : job.Solo answer n s)
    (hfree : s.phase = .ready job.process → job.id ∉ registry.running)
    (hmem : s.phase.isWaiting = true → job.id ∈ registry.running) :
    job.Solo answer (n + 1) (s.turn answer registry).1 := by
  cases h with
  | ready first =>
    obtain ⟨next, hprocess, hwithin, -⟩ := job.process_eq
    have hown : (Registry.empty.tryBegin job.id).1 = true :=
      (Registry.tryBegin_of_notMem List.not_mem_nil).1
    have hrest : (next true).perform (Host.steady answer) job.ownRegistry [] = job.alone answer := by
      rw [Job.alone, hprocess, Process.perform_enter, hown, Job.ownRegistry]
    rw [turn_of_free hprocess (hfree rfl), first]
    exact solo_continued hwithin [] _ hrest (Registry.mem_tryBegin (hfree rfl))
  | inFlight asked count within rest =>
    rw [← count]
    exact solo_continued (within _) asked _ rest (hmem rfl)
  | ended value requests =>
    have hturn : s.turn answer registry = (s, registry) := by
      rw [Strand.turn, value]
    rw [hturn]
    exact .ended value requests

/-- What can be seen of a run that is where it would be alone. -/
theorem outcome_of_solo (h : job.Solo answer n s) :
    s.requests <+: (job.alone answer).requests ∧
      (∀ value, s.phase = .ended value →
        value = (job.alone answer).value ∧ s.requests = (job.alone answer).requests) ∧
      ((job.alone answer).requests.length < n → s.phase = .ended (job.alone answer).value) := by
  cases h with
  | ready first =>
    refine ⟨List.nil_prefix, fun value h => ?_, fun h => ?_⟩
    · cases h
    · omega
  | inFlight asked count within rest =>
    have hprefix : asked <+: (job.alone answer).requests := by
      rw [← rest]
      exact Process.prefix_perform _ _ _ asked
    refine ⟨?_, fun value h => ?_, fun h => ?_⟩
    · show Event.requests (asked.map Event.asked) <+: _
      rw [Event.requests_map_asked]
      exact hprefix
    · cases h
    · have := hprefix.length_le
      omega
  | ended value requests =>
    refine ⟨?_, fun value' h => ?_, fun _ => value⟩
    · exact requests ▸ List.prefix_rfl
    · rw [value] at h
      cases h
      exact ⟨rfl, requests⟩

end

/-! ## Any moves -/

namespace World

variable {ι : Type} {jobs : ι → Job} {world : World ι}

/-- Where ids are distinct, the id of a run that has not begun is free. -/
theorem free_of_ready (h : Consistent jobs world) (distinct : Function.Injective fun i => (jobs i).id)
    {i : ι} (hready : (world.strands i).phase = .ready (jobs i).process) :
    (jobs i).id ∉ world.registry.running := by
  rw [h.registers.mem_running]
  rintro ⟨j, hj, hid⟩
  obtain rfl : j = i := distinct hid
  rw [isFlying, hready] at hj
  cases hj

variable [DecidableEq ι]

theorem strands_move_of_ne {i : ι} {m : Move ι} (h : m.run ≠ i) :
    (world.move m).strands i = world.strands i := by
  cases m with
  | turn j answer => exact strands_set_of_ne (Ne.symm h) world _
  | cancel j => exact strands_set_of_ne (Ne.symm h) world _

theorem solo_play (distinct : Function.Injective fun i => (jobs i).id) {i : ι}
    {answer : (request : Request) → request.Answer} {n : Nat} (h : Consistent jobs world)
    (hsolo : (jobs i).Solo answer n (world.strands i)) (moves : List (Move ι))
    (own : ∀ m ∈ moves, m.run = i → m = .turn i answer) :
    (jobs i).Solo answer (n + (moves.map Move.run).count i) ((world.play moves).strands i) := by
  induction moves generalizing world n with
  | nil => exact hsolo
  | cons m moves ih =>
    have hown : ∀ m ∈ moves, m.run = i → m = .turn i answer :=
      fun m hm => own m (List.mem_cons_of_mem _ hm)
    rw [List.map_cons, List.count_cons]
    by_cases hm : m.run = i
    · obtain rfl := own m List.mem_cons_self hm
      have hturn : (jobs i).Solo answer (n + 1) ((world.move (.turn i answer)).strands i) := by
        rw [move, strands_set_self]
        exact solo_turn hsolo (free_of_ready h distinct) h.mem_running
      have hplay := ih (consistent_move h _) hturn hown
      rw [if_pos (by simp [Move.run]), Nat.add_comm _ 1, ← Nat.add_assoc]
      exact hplay
    · rw [if_neg (by simpa using hm)]
      refine ih (consistent_move h m) ?_ hown
      rw [strands_move_of_ne hm]
      exact hsolo

/-- **A run among others goes as it goes alone**, if its host answers a request always in the same way:
whatever the others do, how often they get a turn, what they are answered and whether they are
cancelled. -/
theorem play_isolated (jobs : ι → Job) (distinct : Function.Injective fun i => (jobs i).id) (i : ι)
    (answer : (request : Request) → request.Answer) (moves : List (Move ι))
    (own : ∀ m ∈ moves, m.run = i → m = .turn i answer) :
    let alone := (jobs i).process.perform (Host.steady answer) Registry.empty []
    let strand := ((initial jobs).play moves).strands i
    strand.requests <+: alone.requests ∧
      (∀ value, strand.phase = .ended value →
        value = alone.value ∧ strand.requests = alone.requests) ∧
      (alone.requests.length < (moves.map Move.run).count i → strand.phase = .ended alone.value) := by
  have hsolo := solo_play distinct consistent_initial (.ready rfl) moves own
  rw [Nat.zero_add] at hsolo
  exact outcome_of_solo hsolo

/-- Of two runs in turns the second is cancelled after its first request; the first ends as if there were no
other. -/
theorem play_isolated_cancelled :
    let answer : (request : Request) → request.Answer := fun
      | .context => .ok (.items [])
      | .knowledge => .ok []
      | .sleep _ => ()
      | .dispatch _ _ _ _ => .ok (.ready { success := true })
    let job (id : String) : Job :=
      { runner := { now := 0 }
        workflow :=
          { id := some id, name := "", steps := [{ id := "a", kind := .task, taskId := some "t" }],
            createdAt := 0, updatedAt := 0 } }
    let jobs : Bool → Job := fun first => job (if first then "x" else "y")
    let moves : List (Move Bool) :=
      [.turn true answer, .turn false answer, .turn true answer, .cancel false, .turn true answer,
        .turn true answer]
    (Function.Injective fun i => (jobs i).id) ∧
      (∀ m ∈ moves, m.run = true → m = .turn true answer) ∧
      ∃ result, (((initial jobs).play moves).strands true).phase = .ended (.ok result) ∧
        result.success = true := by
  intro answer job jobs moves
  have distinct : Function.Injective fun i => (jobs i).id := by
    intro i j h
    cases i <;> cases j <;> first | rfl | exact absurd h (by decide)
  have own : ∀ m ∈ moves, m.run = true → m = .turn true answer := by
    intro m hm h
    simp only [moves, List.mem_cons, List.not_mem_nil, or_false] at hm
    rcases hm with rfl | rfl | rfl | rfl | rfl | rfl <;> first | rfl | cases h
  have hfree : (jobs true).id ∉ Registry.empty.running := List.not_mem_nil
  have halone : (jobs true).process.perform (Host.steady answer) Registry.empty [] = _ :=
    Runner.perform_run (jobs true).runner (Host.steady answer) hfree
  obtain ⟨-, -, hended⟩ := play_isolated jobs distinct true answer moves own
  rw [halone] at hended
  exact ⟨distinct, own, _, hended (by decide), rfl⟩

end World

end Runbook.Run
