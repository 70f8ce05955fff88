import Brokerage.State

/-! # Runs under hazards

A schedule decides, in the light of everything that happened before, which faults wait at the next
effect. What is shown of every step that a hazard allows holds under every schedule that lets only
faults of that hazard through: of each state passed on the way, and of the end.
-/

namespace Brokerage

namespace Dialogue

variable {Q : Type} {A : Q → Type} {α β σ : Type}

/-- The states that a run passes through, the first and the last one included. -/
def trail (answer : (q : Q) → σ → A q × σ) : Dialogue Q A α → σ → List σ
  | done _, s => [s]
  | ask question next, s =>
    s :: (next (answer question s).1).trail answer (answer question s).2

/-- Only questions of one kind are asked, and only ends of one kind are come to. -/
def Within (asks : Q → Prop) (ends : α → Prop) : Dialogue Q A α → Prop
  | done value => ends value
  | ask question next => asks question ∧ ∀ reply, (next reply).Within asks ends

theorem Within.mono {asks : Q → Prop} {ends more : α → Prop} {d : Dialogue Q A α}
    (h : d.Within asks ends) (wide : ∀ value, ends value → more value) : d.Within asks more := by
  induction d with
  | done value => exact wide value h
  | ask question next ih => exact ⟨h.1, fun reply => ih reply (h.2 reply)⟩

theorem Within.bind {asks : Q → Prop} {ends : β → Prop} {d : Dialogue Q A α}
    {f : α → Dialogue Q A β} (h : d.Within asks fun value => (f value).Within asks ends) :
    (d.bind f).Within asks ends := by
  induction d with
  | done value => exact h
  | ask question next ih => exact ⟨h.1, fun reply => ih reply (h.2 reply)⟩

end Dialogue

/-- How a fault ends the effect that it hits; a delay ends nothing. -/
def Fault.failure? : Fault → Option Failure
  | .fail cause => some (.error cause)
  | .panic message => some (.panic message)
  | .delay _ => none

/-- Which faults may hit which effects. -/
abbrev Hazard := Effect → Fault → Prop

namespace Hazard

/-- Nothing goes wrong. -/
def none : Hazard := fun _ _ => False

/-- Effects fail or are late, but nothing panics. -/
def errors : Hazard := fun _ fault => ∀ message, fault ≠ .panic message

/-- Only calls of backends may panic; all other effects fail or are late. -/
def steady : Hazard
  | .backend .., _ => True
  | _, fault => ∀ message, fault ≠ .panic message

/-- As steady, and bindings can always be looked up. -/
def readable : Hazard := fun e fault => steady e fault ∧ ∀ objectId, e ≠ .store (.get objectId)

def any : Hazard := fun _ _ => True

end Hazard

/-- Which faults wait at the next effect, chosen in the light of all that happened before. -/
abbrev Schedule := State → Faults

namespace Schedule

def calm : Schedule := fun _ => ∅

/-- Only faults of a hazard hit. -/
def Within (w : Schedule) (hazard : Hazard) : Prop :=
  ∀ (s : State) e fault, (State.meet { s with faults := w s } e).1 = some fault → hazard e fault

theorem Within.mono {w : Schedule} {hazard wider : Hazard} (h : w.Within hazard)
    (wide : ∀ e fault, hazard e fault → wider e fault) : w.Within wider :=
  fun s e fault hits => wide e fault (h s e fault hits)

theorem calm_within (hazard : Hazard) : calm.Within hazard := by
  intro s e fault hits
  unfold State.meet at hits
  split at hits <;> cases hits

/-- A schedule keeps to a hazard if every fault that waits at a point may hit what passes there. -/
theorem within_points {w : Schedule} {hazard : Hazard}
    (h : ∀ s e point fault times, e.point? = some point →
      (w s).get? point = some (fault, times) → hazard e fault) : w.Within hazard := by
  intro s e fault hits
  unfold State.meet at hits
  cases passed : e.point? with
  | none => simp [passed] at hits
  | some point =>
      simp only [passed, State.note, Faults.strike] at hits
      split at hits
      · rename_i waiting
        cases hits
        exact h s e point _ _ passed waiting
      · cases hits

theorem within_errors {w : Schedule}
    (h : ∀ s point fault times, (w s).get? point = some (fault, times) →
      ∀ message, fault ≠ .panic message) : w.Within .errors :=
  within_points fun s _ point fault times _ => h s point fault times

end Schedule

namespace State

variable {α : Type}

/-- Answer an effect while the faults of a schedule wait. -/
def performUnder (w : Schedule) (e : Effect) (s : State) : e.Outcome × State :=
  perform e { s with faults := w s }

/-- Run a procedure to its end under a schedule. -/
def runUnder (w : Schedule) (p : Procedure α) (s : State) : Except Failure α × State :=
  (ExceptT.run p).run (performUnder w) s

/-- The states that a procedure passes through under a schedule. -/
def trailUnder (w : Schedule) (p : Procedure α) (s : State) : List State :=
  (ExceptT.run p).trail (performUnder w) s

theorem run_eq_runUnder (p : Procedure α) (s : State) : s.run p = s.runUnder (·.faults) p := rfl

theorem runUnder_keeps {w : Schedule} {inv : State → Prop}
    (step : ∀ e s, inv s → inv (performUnder w e s).2) (p : Procedure α) {s : State} (h : inv s) :
    inv (s.runUnder w p).2 := by
  unfold runUnder
  generalize ExceptT.run p = d
  induction d generalizing s with
  | done value => exact h
  | ask e next ih => exact ih _ (step e s h)

/-- The state after an effect, with the faults that are left and both events in the journal. -/
def recorded (s : State) (faults : Faults) (e : Effect) (outcome : e.Outcome) : State :=
  { s with faults, journal := s.journal ++ [.asked e, .answered e outcome] }

/-- What may come of an effect: it happens, or a fault of the hazard hits it. -/
inductive Step (hazard : Hazard) (e : Effect) (s : State) : e.Outcome → State → Prop where
  | happened (faults : Faults) :
    Step hazard e s ((s.answer e).1.mapError .error)
      ((s.answer e).2.recorded faults e ((s.answer e).1.mapError .error))
  | struck (faults : Faults) (fault : Fault) (failure : Failure) (point : e.point?.isSome)
      (hits : hazard e fault) (ends : fault.failure? = some failure) :
    Step hazard e s (.error failure) (s.recorded faults e (.error failure))

/-- Which outcome and which state may follow when an effect is asked for. -/
abbrev Moves := (e : Effect) → State → e.Outcome → State → Prop

/-- The moves into states of one kind. -/
def Moves.into (moves : Moves) (good : State → Prop) : Moves :=
  fun e s o t => moves e s o t ∧ good t

/-- Answering an effect touches neither the journal nor the faults. -/
theorem answer_recorded (s : State) (e : Effect) (faults : Faults) (journal : List Event) :
    ({ s with faults, journal } : State).answer e =
      ((s.answer e).1, { (s.answer e).2 with faults, journal }) := by
  cases e with
  | acquire | release | store | count | readCounters => rfl
  | backend descriptor call ctx =>
      simp only [answer]
      cases s.backends.get? descriptor <;> rfl

theorem answer_journal (s : State) (e : Effect) : (s.answer e).2.journal = s.journal := by
  cases e with
  | acquire | release | store | count | readCounters => rfl
  | backend descriptor call ctx =>
      simp only [answer]
      cases s.backends.get? descriptor <;> rfl

/-- Meeting an effect only notes that it was asked for, and spends a fault at its point. -/
theorem meet_cases (s : State) (e : Effect) :
    (∃ faults, (s.meet e).2 = { s with faults, journal := s.journal ++ [.asked e] }) ∧
      ((s.meet e).1.isSome → e.point?.isSome) := by
  unfold meet
  cases e.point? with
  | none => exact ⟨⟨s.faults, rfl⟩, by simp⟩
  | some point => exact ⟨⟨_, rfl⟩, by simp⟩

theorem settle_step {hazard : Hazard} {s : State} {e : Effect} {hit : Option Fault}
    (faults : Faults) (allowed : ∀ fault, hit = some fault → hazard e fault)
    (point : hit.isSome → e.point?.isSome) :
    let asked : State := { s with faults, journal := s.journal ++ [.asked e] }
    Step hazard e s (asked.settle e hit).1 (asked.settle e hit).2 := by
  intro asked
  have happened : Step hazard e s (asked.settle e none).1 (asked.settle e none).2 := by
    simpa [asked, settle, answer_recorded, note, recorded, answer_journal] using
      (.happened faults : Step hazard e s _ _)
  cases hit with
  | none => exact happened
  | some fault =>
      have hits := allowed fault rfl
      cases fault with
      | delay milliseconds => exact happened
      | fail cause =>
          simpa [asked, settle, note, recorded] using
            Step.struck (s := s) faults _ (.error cause) (point rfl) hits rfl
      | panic message =>
          simpa [asked, settle, note, recorded] using
            Step.struck (s := s) faults _ (.panic message) (point rfl) hits rfl

end State

namespace Schedule

/-- Every effect makes such a move under the schedule. -/
def Moves (w : Schedule) (moves : State.Moves) : Prop :=
  ∀ e (s : State), moves e s (s.performUnder w e).1 (s.performUnder w e).2

theorem Within.moves {w : Schedule} {hazard : Hazard} (hw : w.Within hazard) :
    w.Moves (State.Step hazard) := by
  intro e s
  obtain ⟨⟨faults, hmeet⟩, point⟩ := State.meet_cases { s with faults := w s } e
  have step := State.settle_step (s := s) faults (hw s e) point
  simp only [State.performUnder, State.perform, hmeet]
  exact step

end Schedule
end Brokerage
