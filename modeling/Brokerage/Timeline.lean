import Brokerage.State

/-! # Time

A procedure that meets a delay stands still until its time has come. Whoever waits for it may give
up before; a procedure that was detached then goes on by itself.
-/

namespace Brokerage

/-- A procedure that stands still before an effect. -/
structure Suspended (α : Type) where
  /-- When the effect happens, in milliseconds. -/
  due : Nat
  effect : Effect
  next : effect.Outcome → Dialogue Effect Effect.Outcome α

/-- A procedure whose result nobody waits for. -/
abbrev Task := Suspended Unit

structure Timeline where
  state : State
  /-- Milliseconds since the start. -/
  clock : Nat
  /-- The procedures that go on by themselves, in the order in which they were left. -/
  tasks : List Task

namespace Timeline

variable {α : Type}

def start (state : State) : Timeline := ⟨state, 0, []⟩

/-- Run a dialogue until it ends or meets a delay. -/
def proceed : Dialogue Effect Effect.Outcome α → Timeline → (α ⊕ Suspended α) × Timeline
  | .done value, t => (.inl value, t)
  | .ask effect next, t =>
    let (fault, state) := t.state.meet effect
    match fault with
    | some (.delay milliseconds) =>
      (.inr ⟨t.clock + milliseconds, effect, next⟩, { t with state })
    | fault =>
      let (outcome, state) := state.settle effect fault
      proceed (next outcome) { t with state }

/-- The effect that a suspended dialogue stands before happens, and it goes on. -/
def resume (s : Suspended α) (t : Timeline) : (α ⊕ Suspended α) × Timeline :=
  let (outcome, state) := t.state.settle s.effect none
  proceed (s.next outcome) { t with state }

/-- The task that is due first, of several the one that was left first. -/
def earliest? : List Task → Option Task
  | [] => none
  | task :: rest =>
    match earliest? rest with
    | some other => if other.due < task.due then some other else some task
    | none => some task

/-- The tasks without the first one that is due at a time. -/
def dropDue (due : Nat) : List Task → List Task
  | [] => []
  | task :: rest => if task.due = due then rest else task :: dropDue due rest

/-- Let the tasks that are due by a time go on, one effect at a time. -/
def settleTasks : Nat → Nat → Timeline → Timeline
  | 0, _, t => t
  | fuel + 1, time, t =>
    match earliest? t.tasks with
    | none => t
    | some task =>
      if time < task.due then t
      else
        let t := { t with clock := max t.clock task.due, tasks := dropDue task.due t.tasks }
        match resume task t with
        | (.inl (), t) => settleTasks fuel time t
        | (.inr again, t) => settleTasks fuel time { t with tasks := t.tasks ++ [again] }

/-- Let time pass. Every time a task stands still again it has used up a fault. -/
def advance (time : Nat) (t : Timeline) : Timeline :=
  let t := settleTasks (t.tasks.length + t.state.faults.remaining + 1) time t
  { t with clock := max t.clock time }

/-- What came of waiting for a dialogue. -/
inductive Ending (α : Type) where
  | finished (value : α)
  /-- The waiting was given up. -/
  | left (rest : Suspended α)

/-- Wait for a dialogue, at most until a deadline. The first argument bounds how often it may stand
still. -/
def await (deadline : Option Nat) : Nat → α ⊕ Suspended α → Timeline → Ending α × Timeline
  | _, .inl value, t => (.finished value, t)
  | 0, .inr rest, t => (.left rest, t)
  | fuel + 1, .inr rest, t =>
    match deadline with
    | some time =>
      if time < rest.due then (.left rest, t.advance time)
      else
        let (step, t) := resume rest (t.advance rest.due)
        await deadline fuel step t
    | none =>
      let (step, t) := resume rest (t.advance rest.due)
      await deadline fuel step t

/-- Run a procedure, waiting for it until a deadline. Standing still uses up a fault each time. -/
def run (deadline : Option Nat) (p : Procedure α) (t : Timeline) :
    Ending (Except Failure α) × Timeline :=
  let bound := t.state.faults.remaining
  let (step, t) := proceed (ExceptT.run p) t
  await deadline bound step t

/-- Leave a suspended dialogue to itself. -/
def detach (rest : Suspended α) (t : Timeline) : Timeline :=
  { t with tasks := t.tasks ++ [⟨rest.due, rest.effect, fun outcome => do
      let _ ← rest.next outcome
      return ()⟩] }

/-- Run a procedure to its end, however long that takes. -/
def complete (p : Procedure α) (t : Timeline) : Except Failure α × Timeline :=
  match t.run none p with
  | (.finished result, t) => (result, t)
  | (.left _, t) => (.error (.panic "the procedure stood still too often"), t)

end Timeline
end Brokerage
