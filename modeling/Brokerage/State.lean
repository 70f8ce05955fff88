import Brokerage.Faults
import Brokerage.Policy

/-! # The state of a broker

Everything that effects read and change, the faults that wait for them, and a journal of what was
asked and answered. Running a procedure answers its effects one after the other.
-/

namespace Brokerage

/-- What the journal records. -/
inductive Event where
  | asked (effect : Effect)
  | answered (effect : Effect) (outcome : effect.Outcome)

structure State where
  policy : Policy
  store : Store
  counters : Counters
  backends : Dict Backend
  ids : IdSupply
  faults : Faults
  now : Timestamp
  /-- What happened, oldest first. -/
  journal : List Event

namespace State

def initial (policy : Policy) (store : Store) (backends : Dict Backend) (ids : IdSupply) : State :=
  ⟨policy, store, .zero, backends, ids, ∅, default, []⟩

def note (s : State) (event : Event) : State := { s with journal := s.journal ++ [event] }

/-- What an effect answers when it happens. -/
def answer (s : State) : (e : Effect) → Except Error e.Answer × State
  | .acquire _ resourceType =>
    let (result, policy) := s.policy.acquire resourceType
    (result, { s with policy })
  | .release _ resourceId =>
    let (result, policy) := s.policy.release resourceId
    (result, { s with policy })
  | .store op =>
    let (result, store) := s.store.run s.now op
    (result, { s with store })
  | .backend descriptor call _ =>
    match s.backends.get? descriptor with
    | some backend =>
      let (result, backend, ids) := backend.answer s.ids call
      (result, { s with backends := s.backends.insert descriptor backend, ids })
    | none => (.error (.unknownDescriptor descriptor), s)
  | .count event => (.ok (), { s with counters := s.counters.record event })
  | .readCounters => (.ok s.counters, s)

/-- An effect is asked for and meets the fault at its point, if there is one. -/
def meet (s : State) (e : Effect) : Option Fault × State :=
  let s := s.note (.asked e)
  match e.point? with
  | none => (none, s)
  | some point =>
    let (fault, faults) := s.faults.strike point
    (fault, { s with faults })

/-- An effect happens, or fails instead. -/
def settle (s : State) (e : Effect) : Option Fault → e.Outcome × State
  | some (.fail cause) => (.error (.error cause), s.note (.answered e (.error (.error cause))))
  | some (.panic message) =>
    (.error (.panic message), s.note (.answered e (.error (.panic message))))
  | some (.delay _) | none =>
    let (result, s) := s.answer e
    let outcome := result.mapError .error
    (outcome, s.note (.answered e outcome))

/-- Answer an effect. A delay takes no time here. -/
def perform (e : Effect) (s : State) : e.Outcome × State :=
  let (fault, s) := s.meet e
  s.settle e fault

def run {α : Type} (p : Procedure α) (s : State) : Except Failure α × State :=
  (ExceptT.run p).run perform s

end State
end Brokerage
