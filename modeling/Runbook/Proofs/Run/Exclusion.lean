import Runbook.Proofs.Run.Holding

/-!
# One run of a workflow at a time

* `Job.Course` — where a run can have come to: it has not begun, was rejected, is in flight, ended, or was
  cancelled before or after its start.
* `Shift` — what one move of a run does to the registry; `course_turn` and `course_cancel` say that a turn
  and a cancellation keep a run on its course and do no more than that.
* `World.Consistent` — the registry holds the ids of the runs in flight, no two of which are equal. Every
  move keeps it (`consistent_move`), and so it holds after any moves (`consistent_play`).
* `World.Exclusive` — what a host is promised of the runs that share a registry; `play_exclusive` says that
  it is kept, in whatever order the runs take their turns and whichever of them are cancelled.
-/

namespace Runbook.Run

namespace Job

/-- The result of a job that is not accepted. -/
def rejection (job : Job) : Result :=
  Runner.rejection job.id

/-- The run of a job asks the registry first. -/
theorem process_eq (job : Job) :
    ∃ next, job.process = .enter job.id next ∧ (next true).Within job.id ∧
      ∃ record, next false = .tell record (.done (.ok job.rejection)) :=
  job.runner.run_eq job.workflow

/-- Where the run of a job can have come to, and what could be seen of it on the way. -/
inductive Course (job : Job) : Strand (Except TransitionError Result) → Prop where
  | ready : Course job ⟨.ready job.process, []⟩
  | rejected : Course job ⟨.ended (.ok job.rejection), [.entered job.id false]⟩
  | inFlight {request : Request} {next : request.Answer → Process (Except TransitionError Result)}
      (asked : List Request) (within : ∀ answer, (next answer).Within job.id) :
      Course job
        ⟨.waiting request [job.id] next, .entered job.id true :: asked.map Event.asked⟩
  | ended (result : Result) (asked : List Request) (state : State) :
      Course job
        ⟨.ended (.ok result),
          .entered job.id true :: asked.map Event.asked ++ [.left job.id (.ok state)]⟩
  | withdrawn : Course job ⟨.cancelled, []⟩
  | cancelled (asked : List Request) (state : State) :
      Course job
        ⟨.cancelled, .entered job.id true :: asked.map Event.asked ++ [.left job.id (.ok state)]⟩

end Job

/-- What a move of the run with this id does to the registry: nothing, unless the run comes to be in flight
or was in flight before. -/
inductive Shift (id : String) : (before after : Bool) → (registry registry' : Registry) → Prop where
  | stay (flying : Bool) (registry : Registry) : Shift id flying flying registry registry
  | start {registry registry' : Registry} (free : id ∉ registry.running)
      (running : registry'.running = registry.running ++ [id]) : Shift id false true registry registry'
  | stop (registry : Registry) : Shift id true false registry (registry.forget id)

/-! ## One move of one run -/

section

variable {job : Job} {s : Strand (Except TransitionError Result)}
  {registry registry' : Registry}

/-- An answer takes a run on, or to its end. -/
theorem course_continued {p : Process (Except TransitionError Result)} (hp : p.Within job.id)
    (asked : List Request) (phase : Phase (Except TransitionError Result))
    (hmem : job.id ∈ registry.running) :
    let s : Strand (Except TransitionError Result) :=
      ⟨phase, .entered job.id true :: asked.map Event.asked⟩
    job.Course (s.continued p registry).1 ∧
      Shift job.id true (s.continued p registry).1.phase.isWaiting registry
        (s.continued p registry).2 := by
  intro s
  rcases Process.within_cases hp with ⟨request, next, hnext, hp⟩ | ⟨result, state, hp⟩
  · rw [Strand.continued, (hp registry).1]
    refine ⟨?_, .stay true registry⟩
    show job.Course ⟨_, .entered job.id true :: (asked.map Event.asked ++ [request].map Event.asked)⟩
    rw [← List.map_append]
    exact .inFlight (asked ++ [request]) hnext
  · rw [Strand.continued, (hp registry hmem).1]
    exact ⟨.ended result asked state, .stop registry⟩

/-- A run whose id is taken is rejected at its first turn, and leaves the registry as it is. -/
theorem turn_of_taken (hmem : job.id ∈ registry.running)
    (answer : (request : Request) → request.Answer) :
    (⟨.ready job.process, []⟩ : Strand _).turn answer registry =
      (⟨.ended (.ok job.rejection), [.entered job.id false]⟩, registry) := by
  obtain ⟨next, hprocess, -, record, hrejected⟩ := job.process_eq
  simp only [Strand.turn, Strand.continued, hprocess, Process.proceed,
    Registry.tryBegin_of_mem hmem, hrejected, List.nil_append]

/-- A run whose id is free is accepted at its first turn, and goes on from there. -/
theorem turn_of_free {next : Bool → Process (Except TransitionError Result)}
    (hprocess : job.process = .enter job.id next) (hfree : job.id ∉ registry.running)
    (answer : (request : Request) → request.Answer) :
    (⟨.ready job.process, []⟩ : Strand _).turn answer registry =
      (⟨.ready job.process, [.entered job.id true]⟩ : Strand _).continued (next true)
        (registry.tryBegin job.id).2 := by
  obtain ⟨haccepted, -⟩ := Registry.tryBegin_of_notMem hfree
  simp only [Strand.turn, Strand.continued, hprocess, Process.proceed, haccepted, List.nil_append,
    List.singleton_append]

/-- A run that is accepted is in flight unless it is over at once. -/
theorem shift_of_free {after : Bool} (hfree : job.id ∉ registry.running)
    (h : Shift job.id true after (registry.tryBegin job.id).2 registry') :
    Shift job.id false after registry registry' := by
  cases h with
  | stay => exact .start hfree (Registry.tryBegin_of_notMem hfree).2
  | stop =>
    rw [Registry.forget_tryBegin hfree]
    exact .stay false registry

/-- A turn keeps a run on its course. -/
theorem course_turn (h : job.Course s) (hmem : s.phase.isWaiting = true → job.id ∈ registry.running)
    (answer : (request : Request) → request.Answer) :
    job.Course (s.turn answer registry).1 ∧
      Shift job.id s.phase.isWaiting (s.turn answer registry).1.phase.isWaiting registry
        (s.turn answer registry).2 := by
  cases h with
  | ready =>
    by_cases hid : job.id ∈ registry.running
    · rw [turn_of_taken hid]
      exact ⟨.rejected, .stay false registry⟩
    · obtain ⟨next, hprocess, hwithin, -⟩ := job.process_eq
      have hmem := Registry.mem_tryBegin hid
      obtain ⟨hcourse, hshift⟩ := course_continued hwithin [] (.ready job.process) hmem
      rw [turn_of_free hprocess hid]
      exact ⟨hcourse, shift_of_free hid hshift⟩
  | inFlight asked within => exact course_continued (within _) asked _ (hmem rfl)
  | rejected => exact ⟨.rejected, .stay _ _⟩
  | ended result asked state => exact ⟨.ended result asked state, .stay _ _⟩
  | withdrawn => exact ⟨.withdrawn, .stay _ _⟩
  | cancelled asked state => exact ⟨.cancelled asked state, .stay _ _⟩

/-- A cancellation keeps a run on its course. -/
theorem course_cancel (h : job.Course s)
    (hmem : s.phase.isWaiting = true → job.id ∈ registry.running) :
    job.Course (s.cancel registry).1 ∧
      Shift job.id s.phase.isWaiting (s.cancel registry).1.phase.isWaiting registry
        (s.cancel registry).2 := by
  cases h with
  | ready => exact ⟨.withdrawn, .stay _ _⟩
  | inFlight asked within =>
    have hfinish : registry.finishAll [job.id] = ([.ok .failed], registry.forget job.id) := by
      simp only [Registry.finishAll, Registry.finish_of_mem false (hmem rfl)]
      rfl
    simp only [Strand.cancel, hfinish]
    exact ⟨.cancelled asked .failed, .stop registry⟩
  | rejected => exact ⟨.rejected, .stay _ _⟩
  | ended result asked state => exact ⟨.ended result asked state, .stay _ _⟩
  | withdrawn => exact ⟨.withdrawn, .stay _ _⟩
  | cancelled asked state => exact ⟨.cancelled asked state, .stay _ _⟩

/-! What is so wherever a run has come to. -/

theorem requests_eq_nil_of_rejected (h : job.Course s)
    (hrejected : Event.entered job.id false ∈ s.events) : s.requests = [] := by
  cases h with
  | ready => rfl
  | rejected => rfl
  | inFlight asked within => simp at hrejected
  | ended result asked state => simp at hrejected
  | withdrawn => rfl
  | cancelled asked state => simp at hrejected

theorem not_left_error (h : job.Course s) (id : String) (error : TransitionError) :
    Event.left id (.error error) ∉ s.events := by
  cases h <;> simp

theorem not_ended_error (h : job.Course s) (error : TransitionError) :
    s.phase ≠ .ended (.error error) := by
  cases h <;> simp

theorem strand_of_ready (h : job.Course s) (hready : s.phase = .ready job.process) :
    s = ⟨.ready job.process, []⟩ := by
  cases h <;> first | rfl | cases hready

end

/-! ## The registry and the runs in flight -/

section

variable {ι : Type} {ids : ι → String} {flying : ι → Bool} {registry registry' : Registry} {i : ι}

/-- A registry holds the ids of the runs in flight, no two of which are equal. -/
structure Registry.Registers (ids : ι → String) (flying : ι → Bool) (registry : Registry) : Prop where
  mem_running : ∀ id, id ∈ registry.running ↔ ∃ i, flying i = true ∧ ids i = id
  unique : ∀ i j, flying i = true → flying j = true → ids i = ids j → i = j

variable [DecidableEq ι]

theorem registers_start (h : registry.Registers ids flying) (free : ids i ∉ registry.running)
    (running : registry'.running = registry.running ++ [ids i]) :
    registry'.Registers ids (Function.update flying i true) := by
  have hflies (j : ι) : Function.update flying i true j = true ↔ j = i ∨ flying j = true := by
    by_cases hj : j = i <;> simp [hj]
  have hnone (j : ι) (hj : flying j = true) : ids j ≠ ids i :=
    fun hid => free ((h.mem_running _).2 ⟨j, hj, hid⟩)
  refine ⟨fun id => ?_, fun j k hj hk hid => ?_⟩
  · rw [running, List.mem_append, List.mem_singleton, h.mem_running]
    constructor
    · rintro (⟨j, hj, hid⟩ | rfl)
      · exact ⟨j, (hflies j).2 (.inr hj), hid⟩
      · exact ⟨i, (hflies i).2 (.inl rfl), rfl⟩
    · rintro ⟨j, hj, hid⟩
      rcases (hflies j).1 hj with rfl | hj
      · exact .inr hid.symm
      · exact .inl ⟨j, hj, hid⟩
  · rcases (hflies j).1 hj with rfl | hj' <;> rcases (hflies k).1 hk with rfl | hk'
    · rfl
    · exact absurd hid.symm (hnone k hk')
    · exact absurd hid (hnone j hj')
    · exact h.unique j k hj' hk' hid

theorem registers_stop (h : registry.Registers ids flying) (hi : flying i = true) :
    (registry.forget (ids i)).Registers ids (Function.update flying i false) := by
  have hflies (j : ι) : Function.update flying i false j = true ↔ j ≠ i ∧ flying j = true := by
    by_cases hj : j = i <;> simp [hj]
  refine ⟨fun id => ?_, fun j k hj hk hid => ?_⟩
  · rw [Registry.mem_forget, h.mem_running]
    constructor
    · rintro ⟨⟨j, hj, hid⟩, hne⟩
      refine ⟨j, (hflies j).2 ⟨?_, hj⟩, hid⟩
      rintro rfl
      exact hne hid.symm
    · rintro ⟨j, hj, hid⟩
      obtain ⟨hji, hj⟩ := (hflies j).1 hj
      refine ⟨⟨j, hj, hid⟩, ?_⟩
      rintro rfl
      exact hji (h.unique j i hj hi hid)
  · exact h.unique j k ((hflies j).1 hj).2 ((hflies k).1 hk).2 hid

/-- The registry keeps up with the runs in flight. -/
theorem registers_shift (h : registry.Registers ids flying) {after : Bool}
    (hshift : Shift (ids i) (flying i) after registry registry') :
    registry'.Registers ids (Function.update flying i after) := by
  generalize hbefore : flying i = before at hshift
  cases hshift with
  | stay =>
    rw [← hbefore, Function.update_eq_self]
    exact h
  | start free running => exact registers_start h free running
  | stop => exact registers_stop h hbefore

end

/-! ## Any moves of any runs -/

namespace World

variable {ι : Type} {jobs : ι → Job} {world : World ι}

/-- Is a run in flight? It has begun, was not rejected, and has not come to an end. -/
def isFlying (world : World ι) (i : ι) : Bool :=
  (world.strands i).phase.isWaiting

/-- All runs are on their course, and the registry knows which of them are in flight. -/
structure Consistent (jobs : ι → Job) (world : World ι) : Prop where
  course : ∀ i, (jobs i).Course (world.strands i)
  registers : world.registry.Registers (fun i => (jobs i).id) world.isFlying

theorem consistent_initial : Consistent jobs (initial jobs) := by
  refine ⟨fun _ => .ready, fun id => ⟨fun h => ?_, ?_⟩, fun i j h => ?_⟩
  · cases h
  · rintro ⟨i, h, -⟩
    cases h
  · cases h

theorem Consistent.mem_running (h : Consistent jobs world) {i : ι} (hi : world.isFlying i = true) :
    (jobs i).id ∈ world.registry.running :=
  (h.registers.mem_running _).2 ⟨i, hi, rfl⟩

/-- Has the registry accepted a run that has neither ended nor been cancelled since? -/
def InFlight (jobs : ι → Job) (world : World ι) (i : ι) : Prop :=
  Event.entered (jobs i).id true ∈ (world.strands i).events ∧ (world.strands i).phase.isOver = false

/-- To be in flight is to be waiting. -/
theorem inFlight_iff (h : Consistent jobs world) (i : ι) :
    world.InFlight jobs i ↔ world.isFlying i = true := by
  rw [InFlight, isFlying]
  have hcourse := h.course i
  generalize world.strands i = s at hcourse ⊢
  cases hcourse with
  | ready => simp [Phase.isWaiting]
  | rejected => simp [Phase.isWaiting]
  | inFlight asked within => simp [Phase.isWaiting, Phase.isOver]
  | ended result asked state => simp [Phase.isWaiting, Phase.isOver]
  | withdrawn => simp [Phase.isWaiting]
  | cancelled asked state => simp [Phase.isWaiting, Phase.isOver]

variable [DecidableEq ι]

theorem isFlying_set (world : World ι) (i : ι) (s : Strand (Except TransitionError Result) × Registry) :
    (world.set i s).isFlying = Function.update world.isFlying i s.1.phase.isWaiting := by
  funext j
  by_cases hj : j = i
  · subst hj
    rw [isFlying, strands_set_self, Function.update_self]
  · rw [isFlying, strands_set_of_ne hj, Function.update_of_ne hj, isFlying]

/-- A strand is put in the place of another, with what that does to the registry. -/
theorem consistent_set (h : Consistent jobs world) {i : ι}
    {s : Strand (Except TransitionError Result) × Registry} (hcourse : (jobs i).Course s.1)
    (hshift : Shift (jobs i).id (world.isFlying i) s.1.phase.isWaiting world.registry s.2) :
    Consistent jobs (world.set i s) := by
  refine ⟨fun j => ?_, ?_⟩
  · by_cases hj : j = i
    · subst hj
      rw [strands_set_self]
      exact hcourse
    · rw [strands_set_of_ne hj]
      exact h.course j
  · rw [isFlying_set, registry_set]
    exact registers_shift h.registers hshift

theorem consistent_move (h : Consistent jobs world) (m : Move ι) :
    Consistent jobs (world.move m) := by
  cases m with
  | turn i answer =>
    obtain ⟨hcourse, hshift⟩ := course_turn (h.course i) h.mem_running answer
    exact consistent_set h hcourse hshift
  | cancel i =>
    obtain ⟨hcourse, hshift⟩ := course_cancel (h.course i) h.mem_running
    exact consistent_set h hcourse hshift

theorem consistent_play (h : Consistent jobs world) (moves : List (Move ι)) :
    Consistent jobs (world.play moves) := by
  induction moves generalizing world with
  | nil => exact h
  | cons m moves ih => exact ih (consistent_move h m)

/-! ## What a host is promised -/

/-- What a host is promised of runs that share a registry. -/
structure Exclusive (jobs : ι → Job) (world : World ι) : Prop where
  /-- There is at most one run in flight with an id. -/
  unique : ∀ i j, world.InFlight jobs i → world.InFlight jobs j → (jobs i).id = (jobs j).id → i = j
  /-- The registry tells which ids these are. -/
  mem_runningIds : ∀ id, id ∈ world.registry.runningIds ↔
    ∃ i, world.InFlight jobs i ∧ (jobs i).id = id
  nodup_runningIds : world.registry.runningIds.Nodup
  /-- A run that begins while its id is in flight is over at once, and changes nothing else. -/
  rejects : ∀ i j answer, world.InFlight jobs j → (jobs j).id = (jobs i).id →
    (world.strands i).phase = .ready (jobs i).process →
    world.move (.turn i answer) =
      { registry := world.registry
        strands := Function.update world.strands i
          ⟨.ended (.ok
            { workflowId := (jobs i).id
              success := false
              error := some s!"Workflow already running: {(jobs i).id}" }),
            [.entered (jobs i).id false]⟩ }
  /-- A run that begins while its id is not in flight is accepted. -/
  accepts : ∀ i answer, (∀ j, world.InFlight jobs j → (jobs j).id ≠ (jobs i).id) →
    (world.strands i).phase = .ready (jobs i).process →
    Event.entered (jobs i).id true ∈ ((world.move (.turn i answer)).strands i).events
  /-- A run that was rejected never asks for anything. -/
  quiet : ∀ i, Event.entered (jobs i).id false ∈ (world.strands i).events →
    (world.strands i).requests = []
  /-- Every run that leaves the registry was in it. -/
  leaves : ∀ i id error, Event.left id (.error error) ∉ (world.strands i).events
  succeeds : ∀ i error, (world.strands i).phase ≠ .ended (.error error)
  /-- After the last run in flight the registry is empty. -/
  empties : (∀ i, ¬ world.InFlight jobs i) → world.registry.runningIds = []

theorem exclusive_of_consistent (h : Consistent jobs world) : Exclusive jobs world where
  unique := fun i j hi hj hid =>
    h.registers.unique i j ((inFlight_iff h i).1 hi) ((inFlight_iff h j).1 hj) hid
  mem_runningIds := by
    intro id
    simp only [Registry.mem_runningIds, h.registers.mem_running, inFlight_iff h]
  nodup_runningIds := (List.mergeSort_perm _ _).nodup_iff.2 world.registry.nodup
  rejects := by
    intro i j answer hj hid hready
    have hmem : (jobs i).id ∈ world.registry.running := by
      rw [← hid]
      exact h.mem_running ((inFlight_iff h j).1 hj)
    rw [move, strand_of_ready (h.course i) hready, turn_of_taken hmem]
    rfl
  accepts := by
    intro i answer hnone hready
    have hfree : (jobs i).id ∉ world.registry.running := by
      rw [h.registers.mem_running]
      rintro ⟨j, hj, hid⟩
      exact hnone j ((inFlight_iff h j).2 hj) hid
    rw [move, strands_set_self, strand_of_ready (h.course i) hready]
    obtain ⟨next, hprocess, -⟩ := (jobs i).process_eq
    rw [turn_of_free hprocess hfree]
    exact List.mem_cons_self
  quiet := fun i => requests_eq_nil_of_rejected (h.course i)
  leaves := fun i => not_left_error (h.course i)
  succeeds := fun i => not_ended_error (h.course i)
  empties := by
    intro hnone
    refine List.eq_nil_iff_forall_not_mem.2 fun id hid => ?_
    rw [Registry.mem_runningIds, h.registers.mem_running] at hid
    obtain ⟨i, hi, -⟩ := hid
    exact hnone i ((inFlight_iff h i).2 hi)

/-- **Runs of one workflow never overlap**, whatever the order of their turns, the answers of their hosts and
the cancellations. -/
theorem play_exclusive (jobs : ι → Job) (moves : List (Move ι)) :
    Exclusive jobs ((initial jobs).play moves) :=
  exclusive_of_consistent (consistent_play consistent_initial moves)

end World

end Runbook.Run
