import Brokerage.Proofs.Effects
import Brokerage.Proofs.Keeping
import Brokerage.Proofs.Operations

/-! # Runs of procedures put together

How a run of several procedures goes on from the runs of its parts, and what a run that only asks
for quiet effects leaves as it was.
-/

namespace Brokerage

namespace State

variable {α β : Type} {w : Schedule} {hazard : Hazard} {s t u : State}

section

variable {p : Procedure α} {f : α → Procedure β} {cleanUp : Procedure Unit} {a : α}
  {failure : Failure} {e : Error} {r : Except Failure Unit}

theorem runUnder_bind (w : Schedule) (p : Procedure α) (f : α → Procedure β) (s : State) :
    s.runUnder w (p >>= f) = match s.runUnder w p with
      | (.ok a, t) => t.runUnder w (f a)
      | (.error failure, t) => (.error failure, t) := by
  change ((ExceptT.run p).bind _).run (performUnder w) s = _
  rw [Dialogue.run_bind]
  change _ = match (ExceptT.run p).run (performUnder w) s with
    | (.ok a, t) => t.runUnder w (f a)
    | (.error failure, t) => (.error failure, t)
  rcases (ExceptT.run p).run (performUnder w) s with ⟨_ | _, t⟩ <;> rfl

theorem runUnder_bind_ok (h : s.runUnder w p = (.ok a, t)) :
    s.runUnder w (p >>= f) = t.runUnder w (f a) := by
  rw [runUnder_bind, h]

theorem runUnder_bind_error (h : s.runUnder w p = (.error failure, t)) :
    s.runUnder w (p >>= f) = (.error failure, t) := by
  rw [runUnder_bind, h]

theorem runUnder_outcome (w : Schedule) (p : Procedure α) (s : State) :
    s.runUnder w p.outcome = (.ok (s.runUnder w p).1, (s.runUnder w p).2) := by
  change ((ExceptT.run p).bind _).run (performUnder w) s = _
  rw [Dialogue.run_bind]
  rfl

theorem runUnder_onError_ok (h : s.runUnder w p = (.ok a, t)) :
    s.runUnder w (p.onError cleanUp) = (.ok a, t) := by
  rw [Procedure.onError, runUnder_bind_ok (runUnder_outcome w p s), h]
  rfl

theorem runUnder_onError_error (h : s.runUnder w p = (.error (.error e), t))
    (cleaned : t.runUnder w cleanUp = (.ok (), u)) :
    s.runUnder w (p.onError cleanUp) = (.error (.error e), u) := by
  rw [Procedure.onError, runUnder_bind_ok (runUnder_outcome w p s), h]
  exact runUnder_bind_ok cleaned

theorem runUnder_onError_panic {message : String} (h : s.runUnder w p = (.error (.panic message), t)) :
    s.runUnder w (p.onError cleanUp) = (.error (.panic message), t) := by
  rw [Procedure.onError, runUnder_bind_ok (runUnder_outcome w p s), h]
  rfl

theorem runUnder_onFailure_ok (h : s.runUnder w p = (.ok a, t)) :
    s.runUnder w (p.onFailure cleanUp) = (.ok a, t) := by
  rw [Procedure.onFailure, runUnder_bind_ok (runUnder_outcome w p s), h]
  rfl

theorem runUnder_onFailure_error (h : s.runUnder w p = (.error failure, t))
    (cleaned : t.runUnder w cleanUp = (.ok (), u)) :
    s.runUnder w (p.onFailure cleanUp) = (.error failure, u) := by
  rw [Procedure.onFailure, runUnder_bind_ok (runUnder_outcome w p s), h]
  exact runUnder_bind_ok cleaned

theorem runUnder_ignoreError (safe : ∀ message, (s.runUnder w p).1 ≠ .error (.panic message)) :
    s.runUnder w p.ignoreError = (.ok (), (s.runUnder w p).2) := by
  rw [Procedure.ignoreError, runUnder_bind_ok (runUnder_outcome w p s)]
  cases result : (s.runUnder w p).1 with
  | ok a => rfl
  | error failure =>
      cases failure with
      | error e => rfl
      | panic message => exact absurd result (safe message)

end

theorem runUnder_step (hw : w.Within hazard) {e : Effect} {o : e.Outcome}
    (h : s.runUnder w (Procedure.perform e) = (o, t)) : Step hazard e s o t := by
  have step := hw.moves e s
  rw [show s.performUnder w e = (o, t) from h] at step
  exact step

end State

namespace Effect

def isRelease : Effect → Bool
  | release .. => true
  | _ => false

/-- The calls of the policy. -/
def isPolicy : Effect → Bool
  | acquire .. | release .. => true
  | _ => false

end Effect

/-- The effect that an event tells of. -/
def Event.effect : Event → Effect
  | .asked e => e
  | .answered e _ => e

namespace State

variable {w : Schedule} {hazard : Hazard} {s t u : State} {kinds wider : Effect → Bool}

theorem Step.journal_eq {e : Effect} {o : e.Outcome} (step : Step hazard e s o t) :
    t.journal = s.journal ++ [.asked e, .answered e o] := by
  cases step with
  | happened faults => simp [recorded, answer_journal]
  | struck faults => rfl

/-- From one state to another only effects of a kind are asked for. -/
def AsksOnly (kinds : Effect → Bool) (s t : State) : Prop :=
  ∃ events, t.journal = s.journal ++ events ∧ ∀ event ∈ events, kinds event.effect = true

namespace AsksOnly

theorem refl (s : State) : AsksOnly kinds s s :=
  ⟨[], (List.append_nil _).symm, fun _ member => absurd member List.not_mem_nil⟩

theorem trans (h : AsksOnly kinds s t) (h' : AsksOnly kinds t u) : AsksOnly kinds s u := by
  obtain ⟨events, journal, all⟩ := h
  obtain ⟨more, further, others⟩ := h'
  refine ⟨events ++ more, by rw [further, journal, List.append_assoc], ?_⟩
  intro event member
  exact (List.mem_append.1 member).elim (all event) (others event)

theorem mono (h : AsksOnly kinds s t) (wide : ∀ e, kinds e = true → wider e = true) :
    AsksOnly wider s t :=
  let ⟨events, journal, all⟩ := h
  ⟨events, journal, fun event member => wide _ (all event member)⟩

theorem of_step {e : Effect} {o : e.Outcome} (step : Step hazard e s o t) (kind : kinds e = true) :
    AsksOnly kinds s t := by
  refine ⟨_, step.journal_eq, ?_⟩
  intro event member
  rcases List.mem_pair.1 member with rfl | rfl <;> exact kind

end AsksOnly

/-- From one state to another nothing happens to the policy and the store. -/
structure Quietly (s t : State) : Prop where
  policy : t.policy = s.policy
  store : t.store = s.store
  now : t.now = s.now
  asks : AsksOnly Effect.isQuiet s t

namespace Quietly

theorem refl (s : State) : Quietly s s := ⟨rfl, rfl, rfl, .refl s⟩

theorem trans (h : Quietly s t) (h' : Quietly t u) : Quietly s u :=
  ⟨h'.policy.trans h.policy, h'.store.trans h.store, h'.now.trans h.now, h.asks.trans h'.asks⟩

theorem unreleased (h : Quietly s t) : AsksOnly (fun e => !e.isRelease) s t := by
  refine h.asks.mono fun e quiet => ?_
  cases e with
  | release => cases quiet
  | acquire | store | backend | count | readCounters => rfl

theorem unasked (h : Quietly s t) : AsksOnly (fun e => !e.isPolicy) s t := by
  refine h.asks.mono fun e quiet => ?_
  cases e with
  | acquire | release => cases quiet
  | store | backend | count | readCounters => rfl

end Quietly

theorem Step.quietly {e : Effect} {o : e.Outcome} (step : Step hazard e s o t)
    (quiet : e.isQuiet = true) : Quietly s t := by
  have asks : AsksOnly Effect.isQuiet s t := .of_step step quiet
  cases e with
  | acquire | release => cases quiet
  | count event =>
      obtain ⟨faults, rfl, rfl⟩ := step.count
      exact ⟨rfl, rfl, rfl, asks⟩
  | readCounters => cases step <;> exact ⟨rfl, rfl, rfl, asks⟩
  | store op =>
      have kept := Effect.ledger_of_isQuiet quiet s.now s.store.ledger
      rcases step.store with ⟨faults, rfl, rfl⟩ | ⟨failure, faults, rfl, rfl, _⟩
      · refine ⟨rfl, ?_, rfl, asks⟩
        simp only [recorded, withLedger, kept]
      · exact ⟨rfl, rfl, rfl, asks⟩
  | backend descriptor call ctx =>
      rcases step.backend with ⟨b, faults, _, rfl, rfl⟩ | ⟨failure, faults, rfl, rfl, _⟩ <;>
        exact ⟨rfl, rfl, rfl, asks⟩

theorem keeps_quietly {α : Type} {p : Procedure α} {ends : Except Failure α → Prop}
    (quiet : p.Within (·.isQuiet) ends) (s : State) :
    p.Keeps (Step hazard) (fun _ => True) s fun r t => Quietly s t ∧ ends r :=
  have kept : p.Keeps (Step hazard) (Quietly s) s fun r _ => ends r :=
    .of_within quiet (.refl s) fun _ _ _ _ asks held step => held.trans (step.quietly asks)
  kept.widen fun _ _ => trivial

/-- A run of a quiet procedure leaves the policy and the store as they are. -/
theorem quiet_run {α : Type} (hw : w.Within hazard) {p : Procedure α}
    {ends : Except Failure α → Prop} (quiet : p.Within (·.isQuiet) ends) {r : Except Failure α}
    (h : s.runUnder w p = (r, t)) : Quietly s t ∧ ends r := by
  have ended := (keeps_quietly quiet s).end_of_run hw.moves
  rwa [h] at ended

theorem count_run (hw : w.Within hazard) (event : Counters.Event) (s : State) :
    ∃ t, s.runUnder w (.count event) = (.ok (), t) ∧ Quietly s t ∧
      t.journal = s.journal ++ [.asked (.count event), .answered (.count event) (.ok ())] := by
  cases ran : s.runUnder w (.count event) with
  | mk o t =>
      have step := runUnder_step hw ran
      obtain ⟨faults, rfl, _⟩ := step.count
      exact ⟨t, rfl, step.quietly rfl, step.journal_eq⟩

/-! ## Effects on the books -/

theorem Step.steady {e : Effect} {o : e.Outcome} (step : Step .steady e s o t)
    (books : ∀ descriptor call ctx, e ≠ .backend descriptor call ctx) :
    ∀ message, o ≠ .error (.panic message) := by
  intro message
  refine step.sober fun fault hits => ?_
  cases e with
  | backend descriptor call ctx => exact absurd rfl (books descriptor call ctx)
  | acquire | release | store | count | readCounters => exact hits

/-- Recording a binding adds a row, or the table stays as it is; only a row that cannot be read again
stays behind a failure. -/
theorem add_run (hw : w.Within .steady) {a : Assignment} {o : Effect.Outcome (.store (.add a))}
    (h : s.runUnder w (.addBinding a) = (o, t)) :
    t.policy = s.policy ∧ AsksOnly (fun e => !e.isRelease) s t ∧
      ((∃ failure, o = .error failure) ∧ t.store = s.store ∨
        t.store = { s.store with ledger := s.store.ledger.append (s.store.ledger.newRow a s.now) } ∧
          o = (s.store.ledger.newRow a s.now).toBinding.mapError .error) := by
  have step := runUnder_step hw h
  have asks : AsksOnly (fun e => !e.isRelease) s t := .of_step step rfl
  rcases step.add with ⟨faults, _, answer, rfl⟩ | ⟨failure, faults, rfl, rfl, _⟩
  · exact ⟨rfl, asks, .inr ⟨rfl, answer⟩⟩
  · exact ⟨rfl, asks, .inl ⟨⟨failure, rfl⟩, rfl⟩⟩

end State
end Brokerage
