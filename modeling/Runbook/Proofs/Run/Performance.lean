import Runbook.Run.Process

/-!
# How processes go before a host

A process that is put together from parts goes as its parts go, one after the other, with the registry and
the requests handed on: `perform_bind`, and `performT_bind` for processes that may fail. Records leave no
trace (`perform_ofLogged`), and neither does holding a run (`perform_holding`).
-/

namespace Runbook.Run.Process

variable {α β ε : Type} (host : Host)

@[simp] theorem perform_done (a : α) (registry : Registry) (past : List Request) :
    (done a).perform host registry past = ⟨a, registry, past⟩ := rfl

@[simp] theorem perform_pure (a : α) (registry : Registry) (past : List Request) :
    (pure a : Process α).perform host registry past = ⟨a, registry, past⟩ := rfl

@[simp] theorem perform_tell (record : Log.Record) (next : Process α) (registry : Registry)
    (past : List Request) :
    (tell record next).perform host registry past = next.perform host registry past := rfl

@[simp] theorem perform_enter (id : String) (next : Bool → Process α) (registry : Registry)
    (past : List Request) :
    (enter id next).perform host registry past =
      (next (registry.tryBegin id).1).perform host (registry.tryBegin id).2 past := rfl

@[simp] theorem perform_leave (id : String) (success : Bool)
    (next : Except TransitionError State → Process α) (registry : Registry) (past : List Request) :
    (leave id success next).perform host registry past =
      (next (registry.finish id success).1).perform host (registry.finish id success).2 past := rfl

@[simp] theorem perform_ask (request : Request) (held : List String)
    (next : request.Answer → Process α) (registry : Registry) (past : List Request) :
    (ask request held next).perform host registry past =
      (next (host past request)).perform host registry (past ++ [request]) := rfl

@[simp] theorem perform_note (record : Log.Record) (registry : Registry) (past : List Request) :
    (note record).perform host registry past = ⟨(), registry, past⟩ := rfl

@[simp] theorem perform_gather (registry : Registry) (past : List Request) :
    gather.perform host registry past = ⟨host past .context, registry, past ++ [.context]⟩ := rfl

@[simp] theorem perform_listKnowledge (registry : Registry) (past : List Request) :
    listKnowledge.perform host registry past =
      ⟨host past .knowledge, registry, past ++ [.knowledge]⟩ := rfl

@[simp] theorem perform_sleep (seconds : Float) (registry : Registry) (past : List Request) :
    (sleep seconds).perform host registry past = ⟨(), registry, past ++ [.sleep seconds]⟩ := rfl

@[simp] theorem perform_dispatch (kind : Step.Kind) (target : String) (input : Json)
    (timeout : Option Float) (registry : Registry) (past : List Request) :
    (dispatch kind target input timeout).perform host registry past =
      ⟨host past (.dispatch kind target input timeout), registry,
        past ++ [.dispatch kind target input timeout]⟩ := rfl

/-- A process goes on where the one before it came to. -/
@[simp] theorem perform_bind (p : Process α) (f : α → Process β) (registry : Registry)
    (past : List Request) :
    (p >>= f).perform host registry past =
      (f (p.perform host registry past).value).perform host (p.perform host registry past).registry
        (p.perform host registry past).requests := by
  show (p.bind f).perform host registry past = _
  induction p generalizing registry past with
  | done a => rfl
  | tell record next ih => exact ih registry past
  | enter id next ih => exact ih _ _ past
  | leave id success next ih => exact ih _ _ past
  | ask request held next ih => exact ih _ registry _

/-- Carries a process out that may fail. -/
def performT (x : ExceptT ε Process α) (registry : Registry) (past : List Request) :
    Performance (Except ε α) :=
  x.run.perform host registry past

@[simp] theorem performT_pure (a : α) (registry : Registry) (past : List Request) :
    performT host (pure a : ExceptT ε Process α) registry past = ⟨.ok a, registry, past⟩ := rfl

@[simp] theorem performT_throw (e : ε) (registry : Registry) (past : List Request) :
    performT host (throw e : ExceptT ε Process α) registry past = ⟨.error e, registry, past⟩ := rfl

/-- A process that may fail goes on if the one before it did not. -/
@[simp] theorem performT_bind (x : ExceptT ε Process α) (f : α → ExceptT ε Process β)
    (registry : Registry) (past : List Request) :
    performT host (x >>= f) registry past =
      match performT host x registry past with
      | ⟨.ok a, registry, past⟩ => performT host (f a) registry past
      | ⟨.error e, registry, past⟩ => ⟨.error e, registry, past⟩ := by
  show (x.run >>= ExceptT.bindCont f : Process (Except ε β)).perform host registry past = _
  rw [perform_bind, performT]
  rcases x.run.perform host registry past with ⟨e | a, registry, past⟩ <;> rfl

@[simp] theorem performT_lift (p : Process α) (registry : Registry) (past : List Request) :
    performT host (liftM p : ExceptT ε Process α) registry past =
      ⟨.ok (p.perform host registry past).value, (p.perform host registry past).registry,
        (p.perform host registry past).requests⟩ := by
  show (p >>= fun a => pure (.ok a) : Process (Except ε α)).perform host registry past = _
  rw [perform_bind, perform_pure]

@[simp] theorem perform_holding (id : String) (p : Process α) (registry : Registry) (past : List Request) :
    (p.holding id).perform host registry past = p.perform host registry past := by
  induction p generalizing registry past with
  | done a => rfl
  | tell record next ih => exact ih registry past
  | enter id next ih => exact ih _ _ past
  | leave id success next ih => exact ih _ _ past
  | ask request held next ih => exact ih _ registry _

/-- Requests are made after those in the past. -/
theorem prefix_perform (p : Process α) (registry : Registry) (past : List Request) :
    past <+: (p.perform host registry past).requests := by
  induction p generalizing registry past with
  | done a => exact List.prefix_refl past
  | tell record next ih => exact ih registry past
  | enter id next ih => exact ih _ _ past
  | leave id success next ih => exact ih _ _ past
  | ask request held next ih => exact (List.prefix_append past [request]).trans (ih _ registry _)

@[simp] theorem perform_tellAll (records : List Log.Record) (registry : Registry) (past : List Request) :
    (tellAll records).perform host registry past = ⟨(), registry, past⟩ := by
  induction records with
  | nil => rfl
  | cons record records ih => exact ih

@[simp] theorem perform_ofLogged (x : Logged α) (registry : Registry) (past : List Request) :
    (ofLogged x).perform host registry past = ⟨x.value, registry, past⟩ := by
  show (tellAll x.records >>= fun _ => done x.value).perform host registry past = _
  rw [perform_bind, perform_tellAll]
  rfl

end Runbook.Run.Process
