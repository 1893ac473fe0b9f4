import Runbook.Proofs.Run.Attempts

/-!
# Dispatching a step until it succeeds

* `Retry.backoff` — how long to wait after a failed attempt; `Retry.rounds` — what is asked for the attempts before a
  given one: for each the call, and then the wait, if there is any.
* `Concludes` — what comes of the answer to an attempt, case by case; `concludes_judge` — the runner judges by it;
  `Concludes.error_ne_empty` — what is told to be wrong is never empty.
* `Sequential.Tried` — how the attempts from a given one on end; `Sequential.tried_of_attempted` — they do, by
  induction on them.
* `Runner.dispatch_exact` — the dispatch of a step, before every host.
-/

namespace Runbook

/-! ## Waits -/

namespace Retry

variable (retry : Retry) (call : Run.Request) {n k : Nat}

/-- The seconds to wait after the `n`th attempt failed. -/
def backoff (n : Nat) : Float :=
  retry.delay * Float.pow retry.backoffMultiplier (Float.ofInt ((n : Int) - 1))

/-- The wait after the `n`th attempt, which is no request if it is not positive. -/
def pause (n : Nat) : List Run.Request :=
  if 0.0 < retry.backoff n then [.sleep (retry.backoff n)] else []

/-- What is asked for the attempts from the `n`th on that come before the `k`th: for each of them the call, and the
wait after it. -/
def rounds (n k : Nat) : List Run.Request :=
  (List.range' n (k - n)).flatMap fun m => call :: retry.pause m

theorem rounds_self (n : Nat) : retry.rounds call n n = [] := by
  rw [rounds, Nat.sub_self]
  rfl

theorem rounds_of_lt (h : n < k) :
    retry.rounds call n k = call :: (retry.pause n ++ retry.rounds call (n + 1) k) := by
  obtain ⟨m, rfl⟩ := Nat.exists_eq_add_of_lt h
  have hsub : n + m + 1 - n = m + 1 := by omega
  have hsub' : n + m + 1 - (n + 1) = m := by omega
  rw [rounds, rounds, hsub, hsub', List.range'_succ, List.flatMap_cons]
  rfl

theorem isDispatch_pause {request : Run.Request} (h : request ∈ retry.pause n) : request.isDispatch = false := by
  unfold pause at h
  split at h
  · rw [List.mem_singleton] at h
    rw [h]
    rfl
  · cases h

/-- For each attempt there is one call. -/
theorem filter_rounds (hcall : call.isDispatch = true) (n k : Nat) :
    (retry.rounds call n k).filter Run.Request.isDispatch = List.replicate (k - n) call := by
  have hpause (n : Nat) : (retry.pause n).filter Run.Request.isDispatch = [] :=
    List.filter_eq_nil_iff.2 fun request h => by simp [retry.isDispatch_pause h]
  rw [rounds, List.filter_flatMap]
  simp only [List.filter_cons_of_pos hcall, hpause]
  rw [← List.map_eq_flatMap, List.map_const', List.length_range']

end Retry

namespace Run

/-! ## What comes of an answer -/

/-- Is this the answer to an attempt that succeeded? -/
def Succeeds (answer : Except Fault Reply) : Prop :=
  ∃ reply response, answer = .ok reply ∧ reply.response = .ok response ∧ response.success = true

/-- What comes of the answer to an attempt: the response, if there is one, and the words for what was wrong. -/
inductive Concludes (r : Runner) (kind : Step.Kind) (target : String) :
    Except Fault Reply → Option Response → Option String → Prop where
  | succeeded {reply : Reply} {response : Response} (read : reply.response = .ok response)
      (success : response.success = true) : Concludes r kind target (.ok reply) (some response) none
  /-- The host said why it failed. -/
  | reported {reply : Reply} {response : Response} {text : String} (read : reply.response = .ok response)
      (failure : response.success = false) (explained : response.error = some text) (words : text ≠ "") :
      Concludes r kind target (.ok reply) (some response) (some text)
  /-- The host did not say why. -/
  | unexplained {reply : Reply} {response : Response} (read : reply.response = .ok response)
      (failure : response.success = false) (noWords : response.error = none ∨ response.error = some "") :
      Concludes r kind target (.ok reply) (some response) (some s!"{kind.name} {target} reported failure")
  | malformed {reply : Reply} {error : Response.ReplyError} (unread : reply.response = .error error) :
      Concludes r kind target (.ok reply) none (some error.message)
  /-- The host raised a fault: its words, or else its kind. -/
  | raised {fault : Fault} (inTime : fault.isTimeout = false ∨ r.timeout = none) :
      Concludes r kind target (.error fault) none (some (if fault.text = "" then fault.kind else fault.text))
  | timedOut {fault : Fault} {seconds : Float} (late : fault.isTimeout = true) (limit : r.timeout = some seconds) :
      Concludes r kind target (.error fault) none
        (some s!"{kind.name} {target} timed out after {Decimal.Style.brief.write seconds}s")

variable {r : Runner} {host : Host} {retry : Retry} {kind : Step.Kind} {target : String} {input : Json}

/-- The runner judges an answer by what comes of it. -/
theorem concludes_judge (r : Runner) (kind : Step.Kind) (target : String) (answer : Except Fault Reply) :
    Concludes r kind target answer (r.judge kind target answer).1
      ((r.judge kind target answer).2.map AttemptError.message) := by
  cases answer with
  | error fault =>
    have hraised : (AttemptError.fault fault).message = if fault.text = "" then fault.kind else fault.text := by
      simp [AttemptError.message, Fault.message]
    cases hlate : fault.isTimeout with
    | false =>
      simp only [Runner.judge, hlate]
      rw [Option.map_some, hraised]
      exact .raised (.inl hlate)
    | true =>
      cases hlimit : r.timeout with
      | none =>
        simp only [Runner.judge, hlate, hlimit]
        rw [Option.map_some, hraised]
        exact .raised (.inr hlimit)
      | some seconds =>
        simp only [Runner.judge, hlate, hlimit]
        exact .timedOut hlate hlimit
  | ok reply =>
    cases hread : reply.response with
    | error error =>
      simp only [Runner.judge, hread]
      exact .malformed hread
    | ok response =>
      cases hsuccess : response.success with
      | true =>
        simp only [Runner.judge, hread, hsuccess, if_true]
        exact .succeeded hread hsuccess
      | false =>
        simp only [Runner.judge, hread, hsuccess, Bool.false_eq_true, if_false, Option.map_some]
        cases herror : response.error with
        | none => exact .unexplained hread hsuccess (.inl herror)
        | some text =>
          by_cases hwords : text = ""
          · subst hwords
            exact .unexplained hread hsuccess (.inr herror)
          · have hmessage : (AttemptError.reported kind target (some text)).message = text := by
              simp [AttemptError.message, Option.filter, hwords]
            rw [hmessage]
            exact .reported hread hsuccess herror hwords

variable {answer : Except Fault Reply} {response : Option Response} {error : Option String}

/-- Nothing was wrong exactly if the attempt succeeded. -/
theorem Concludes.error_eq_none_iff (h : Concludes r kind target answer response error) :
    error = none ↔ Succeeds answer := by
  have hfailed {reply : Reply} {response : Response} (read : reply.response = .ok response)
      (failure : response.success = false) : ¬ Succeeds (.ok reply) := by
    rintro ⟨_, _, hreply, hread, hsuccess⟩
    cases hreply
    cases read.symm.trans hread
    cases failure.symm.trans hsuccess
  cases h with
  | succeeded read success => exact ⟨fun _ => ⟨_, _, rfl, read, success⟩, fun _ => rfl⟩
  | reported read failure => exact ⟨nofun, fun h => absurd h (hfailed read failure)⟩
  | unexplained read failure => exact ⟨nofun, fun h => absurd h (hfailed read failure)⟩
  | malformed unread =>
    refine ⟨nofun, ?_⟩
    rintro ⟨_, _, hreply, hread, -⟩
    cases hreply
    cases unread.symm.trans hread
  | raised inTime => exact ⟨nofun, nofun⟩
  | timedOut late limit => exact ⟨nofun, nofun⟩

theorem append_ne_empty {s t : String} (h : t ≠ "") : s ++ t ≠ "" :=
  fun happend => h (String.append_eq_empty_iff.1 happend).2

theorem message_replyError_ne_empty (error : Response.ReplyError) : error.message ≠ "" := by
  cases error with
  | notRecord kind => exact append_ne_empty (by decide)
  | rejected rejection =>
    intro h
    exact append_ne_empty (by decide : toString " for " ≠ "") (String.append_eq_empty_iff.1 h).1

/-- What is told to be wrong is never empty, if every kind of fault has a name. -/
theorem Concludes.error_ne_empty (h : Concludes r kind target answer response error)
    (named : ∀ fault, answer = .error fault → fault.kind ≠ "") : error ≠ some "" := by
  cases h with
  | succeeded => exact nofun
  | reported _ _ _ words => exact fun h => words (Option.some.inj h)
  | unexplained => exact fun h => append_ne_empty (by decide) (Option.some.inj h)
  | malformed => exact fun h => message_replyError_ne_empty _ (Option.some.inj h)
  | @raised fault =>
    rw [Ne, Option.some.injEq]
    split
    · exact named fault rfl
    · assumption
  | timedOut => exact fun h => append_ne_empty (by decide) (Option.some.inj h)

/-! ## The attempts -/

namespace Sequential

/-- The wait before the `n`th attempt. -/
def pauseBefore (retry : Retry) (n : Nat) : List Request :=
  if n ≤ 1 then [] else retry.pause (n - 1)

theorem pauseBefore_succ {n : Nat} (hn : 1 ≤ n) : pauseBefore retry (n + 1) = retry.pause n := by
  rw [pauseBefore, if_neg (by omega), Nat.add_sub_cancel]

theorem wait_of_told (told : Retry.IsTold retry) {n : Nat} (hn : (n : Int) ≤ retry.maxAttempts) :
    wait retry n = .ok (pauseBefore retry n) := by
  rw [wait, pauseBefore]
  by_cases hfirst : n ≤ 1
  · rw [if_pos hfirst, if_pos hfirst]
  · rw [if_neg hfirst, if_neg hfirst]
    obtain ⟨seconds, hseconds⟩ := told n (by omega) hn
    have hbackoff : seconds = retry.backoff (n - 1) := by
      have hexponent : ((n - 1 : Nat) : Int) - 1 = (n : Int) - 2 := by omega
      rw [Retry.backoff, hexponent]
      unfold Retry.waitBefore at hseconds
      dsimp only at hseconds
      split at hseconds
      · cases hseconds
      · exact (Except.ok.inj hseconds).symm
    rw [hseconds, hbackoff]
    rfl

section

variable (r : Runner) (host : Host) (retry : Retry) (kind : Step.Kind) (target : String) (input : Json)

/-- The answer to the `m`th attempt, if those from the `n`th on are made after the past requests. -/
def answerTo (n : Nat) (past : List Request) (m : Nat) : Except Fault Reply :=
  host (past ++ pauseBefore retry n ++ retry.rounds (.dispatch kind target input r.timeout) n m)
    (.dispatch kind target input r.timeout)

theorem answerTo_self (n : Nat) (past : List Request) :
    answerTo r host retry kind target input n past n =
      host (past ++ pauseBefore retry n) (.dispatch kind target input r.timeout) := by
  rw [answerTo, Retry.rounds_self, List.append_nil]

/-- A later attempt gets the same answer if it is told after one more. -/
theorem answerTo_of_lt {n m : Nat} (hn : 1 ≤ n) (past : List Request) (hm : n < m) :
    answerTo r host retry kind target input n past m =
      answerTo r host retry kind target input (n + 1)
        (past ++ pauseBefore retry n ++ [.dispatch kind target input r.timeout]) m := by
  rw [answerTo, answerTo, Retry.rounds_of_lt retry _ hm, pauseBefore_succ hn]
  simp only [List.append_assoc, List.singleton_append]
  rfl

/-- How the attempts from the `n`th on end: with the first one that succeeds, or else with the last one. -/
structure Tried (last n : Nat) (past requests : List Request) (d : Dispatched) : Prop where
  within : n ≤ d.attempts ∧ d.attempts ≤ last
  requests : requests = pauseBefore retry n ++
    retry.rounds (.dispatch kind target input r.timeout) n d.attempts ++ [.dispatch kind target input r.timeout]
  judged : r.judge kind target (answerTo r host retry kind target input n past d.attempts) = (d.response, d.error)
  failed : ∀ m, n ≤ m → m < d.attempts →
    (r.judge kind target (answerTo r host retry kind target input n past m)).2 ≠ none
  final : d.error = none ∨ d.attempts = last

variable {r host retry kind target input} {left n : Nat} {past : List Request}
  {made : List Request × Except StepError Dispatched}

/-- **Attempts are made until one succeeds.** By induction on them; each further one finds one more request of the
rounds in the past. -/
theorem tried_of_attempted (told : Retry.IsTold retry)
    (h : Attempted r host retry kind target input left n past made) (hn : 1 ≤ n)
    (hlast : ((n + left : Nat) : Int) ≤ retry.maxAttempts) :
    ∃ d, made.2 = .ok d ∧ Tried r host retry kind target input (n + left) n past made.1 d := by
  have hwait {n left : Nat} (hlast : ((n + left : Nat) : Int) ≤ retry.maxAttempts) :
      wait retry n = .ok (pauseBefore retry n) :=
    wait_of_told told (by omega)
  induction h with
  | withheld unknown => cases unknown.symm.trans (hwait hlast)
  | @last left n past pause response error waited judged final =>
    obtain rfl := Except.ok.inj (waited.symm.trans (hwait hlast))
    refine ⟨_, rfl, ⟨⟨Nat.le_refl _, Nat.le_add_right _ _⟩, ?_, ?_, fun m hm hm' => absurd hm (Nat.not_le.2 hm'), ?_⟩⟩
    · rw [Retry.rounds_self, List.append_nil]
    · rw [answerTo_self]
      exact judged
    · exact final.imp_right fun hleft => by simp [hleft]
  | @more left n past pause response error rest waited judged later ih =>
    obtain rfl := Except.ok.inj (waited.symm.trans (hwait hlast))
    obtain ⟨d, hd, htried⟩ := ih (by omega) (by omega)
    have hlt : n < d.attempts := htried.within.1
    refine ⟨d, hd, ⟨⟨by omega, by have := htried.within.2; omega⟩, ?_, ?_, fun m hm hm' => ?_, ?_⟩⟩
    · rw [htried.requests, Retry.rounds_of_lt retry _ hlt, pauseBefore_succ hn]
      simp
    · rw [answerTo_of_lt r host retry kind target input hn past hlt]
      exact htried.judged
    · rcases Nat.eq_or_lt_of_le hm with rfl | hlater
      · rw [answerTo_self, judged]
        exact Option.some_ne_none error
      · rw [answerTo_of_lt r host retry kind target input hn past hlater]
        exact htried.failed m hlater hm'
    · exact htried.final.imp_right fun h => by omega

end

end Sequential

/-! ## The dispatch of a step -/

/-- **A step is dispatched until it succeeds**, or as often as its retry rule allows, before every host. The rule is
one that is accepted, and its waits are numbers. There are `k` calls, all of them the same, and after each but the
last the wait that is due, if there is any; what is told is what came of the last answer. -/
theorem Runner.dispatch_exact (r : Runner) (host : Host) (registry : Registry) (past : List Request) {retry : Retry}
    (accepted : ∃ json, Retry.decode json = .accepted retry) (told : Retry.IsTold retry) (fields : Fields)
    (kind : Step.Kind) (target : String) (input : Json) :
    let call : Request := .dispatch kind target input r.timeout
    let answer (n : Nat) : Except Fault Reply :=
      host (past ++ retry.rounds call 1 n) (.dispatch kind target input r.timeout)
    ∃ (k : Nat) (d : Dispatched),
      Process.performT host (r.dispatch retry fields kind target input) registry past =
          ⟨.ok d, registry, past ++ retry.rounds call 1 k ++ [call]⟩ ∧
        (1 ≤ k ∧ (k : Int) ≤ retry.maxAttempts) ∧ d.attempts = k ∧
        (retry.rounds call 1 k ++ [call]).filter Request.isDispatch = List.replicate k call ∧
        (∀ n, 1 ≤ n → n < k → ¬ Succeeds (answer n)) ∧
        (Succeeds (answer k) ∨ (k : Int) = retry.maxAttempts) ∧
        Concludes r kind target (answer k) d.response (d.error.map AttemptError.message) ∧
        ((∀ fault, answer k = .error fault → fault.kind ≠ "") →
          d.error.map AttemptError.message ≠ some "") := by
  intro call answer
  obtain ⟨json, hjson⟩ := accepted
  have hallowed : 1 ≤ retry.maxAttempts := (Retry.allowed_of_decode hjson).maxAttempts
  have hmade := Sequential.attempted r host retry kind target input (retry.maxAttempts - 1).toNat 1 past
  obtain ⟨d, hd, htried⟩ := Sequential.tried_of_attempted told hmade (Nat.le_refl 1) (by omega)
  have hanswer (n : Nat) : Sequential.answerTo r host retry kind target input 1 past n = answer n := by
    rw [Sequential.answerTo, Sequential.pauseBefore, if_pos (Nat.le_refl 1), List.append_nil]
  have hconcludes (n : Nat) := concludes_judge r kind target (answer n)
  have hjudged := htried.judged
  rw [hanswer] at hjudged
  have hlast := hconcludes d.attempts
  rw [hjudged] at hlast
  refine ⟨d.attempts, d, ?_, ⟨htried.within.1, ?_⟩, rfl, ?_, fun n hn hk => ?_, ?_, hlast, hlast.error_ne_empty⟩
  · rw [dispatch, perform_dispatchFrom]
    dsimp only
    rw [hd, htried.requests, Sequential.pauseBefore, if_pos (Nat.le_refl 1), List.nil_append, List.append_assoc]
  · have := htried.within.2
    omega
  · have hpos := htried.within.1
    rw [List.filter_append, Retry.filter_rounds retry call rfl, List.filter_singleton]
    show _ ++ [call] = _
    rw [← List.replicate_succ', Nat.sub_add_cancel hpos]
  · rw [← (hconcludes n).error_eq_none_iff, Option.map_eq_none_iff, ← hanswer]
    exact htried.failed n hn hk
  · rw [← hlast.error_eq_none_iff, Option.map_eq_none_iff]
    exact htried.final.imp_right fun h => by omega

/-- A step that fails, then is answered with what is no response, and then succeeds. No power of an infinite
multiplier counts as too large. -/
theorem Runner.dispatch_exact_third :
    let reply : Nat → Except Fault Reply := fun
      | 0 => .error ⟨"Down", "", false⟩
      | 1 => .ok (.raw .null)
      | _ => .ok (.ready { success := true, data := .str "done" })
    let host : Host := fun past request =>
      match request with
      | .context => .ok (.items [])
      | .knowledge => .ok []
      | .sleep _ => ()
      | .dispatch _ _ _ _ => reply (past.filter Request.isDispatch).length
    let retry : Retry := { maxAttempts := 4, delay := 0.5, backoffMultiplier := 1.0 / 0.0 }
    let call : Request := .dispatch .task "mail" (.record []) none
    (∃ json, Retry.decode json = .accepted retry) ∧ Retry.IsTold retry ∧
      ∃ d, Process.performT host (({ now := 0 } : Runner).dispatch retry [] .task "mail" (.record [])) .empty [] =
          ⟨.ok d, .empty, [call] ++ retry.pause 1 ++ [call] ++ retry.pause 2 ++ [call]⟩ ∧
        d.attempts = 3 ∧ d.error.map AttemptError.message = none := by
  intro reply host retry call
  have accepted : ∃ json, Retry.decode json = .accepted retry :=
    ⟨.record [("maxAttempts", .int 4), ("delay", .float 0.5), ("backoffMultiplier", .float (1.0 / 0.0))], rfl⟩
  have told : Retry.IsTold retry := fun n _ _ => by
    have hfinite : retry.backoffMultiplier.isFinite = false := by decide
    rw [Retry.waitBefore, hfinite, Bool.and_false, if_neg Bool.false_ne_true]
    exact ⟨_, rfl⟩
  have hsucceeds (n : Nat) : Succeeds (reply n) ↔ 2 ≤ n := by
    match n with
    | 0 => exact ⟨nofun, nofun⟩
    | 1 =>
      refine ⟨?_, nofun⟩
      rintro ⟨_, _, hreply, hread, -⟩
      cases hreply
      cases hread
    | n + 2 => exact ⟨fun _ => Nat.le_add_left 2 n, fun _ => ⟨_, _, rfl, rfl, rfl⟩⟩
  have hanswer (n : Nat) :
      Succeeds (host ([] ++ retry.rounds call 1 n) (.dispatch .task "mail" (.record []) none)) ↔ 2 ≤ n - 1 := by
    show Succeeds (reply _) ↔ _
    rw [List.nil_append, Retry.filter_rounds retry call rfl, List.length_replicate]
    exact hsucceeds (n - 1)
  obtain ⟨k, d, hperform, ⟨hpos, hmax⟩, hattempts, -, hfailed, hlast, hconcludes, -⟩ :=
    Runner.dispatch_exact { now := 0 } host .empty [] accepted told [] .task "mail" (.record [])
  have hk : k = 3 := by
    have hlast : 2 ≤ k - 1 ∨ (k : Int) = 4 := hlast.imp_left (hanswer k).1
    have hfailed (h : 3 < k) : ¬ 2 ≤ 3 - 1 := fun hthird => hfailed 3 (by decide) h ((hanswer 3).2 hthird)
    omega
  subst hk
  have hrounds : [] ++ retry.rounds call 1 3 ++ [call] =
      [call] ++ retry.pause 1 ++ [call] ++ retry.pause 2 ++ [call] := by
    rw [Retry.rounds_of_lt retry call (by decide), Retry.rounds_of_lt retry call (by decide), Retry.rounds_self]
    simp
  refine ⟨accepted, told, d, hrounds ▸ hperform, hattempts, ?_⟩
  exact hconcludes.error_eq_none_iff.2 ((hanswer 3).2 (Nat.le_refl 2))

end Run

end Runbook
