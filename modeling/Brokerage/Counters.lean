import Brokerage.Json.Printer

/-! # Counters

How often allocations and deallocations succeeded and failed and how many resources were handed
back. A labelled count is exported from its first use on.
-/

namespace Brokerage

/-- How an attempt ended. -/
inductive Attempt where
  | success
  | failure
  deriving DecidableEq, Repr, Inhabited

/-- The value of the label `outcome`. -/
def Attempt.name : Attempt → String
  | .success => "success"
  | .failure => "failure"

/-- The counts of both outcomes, none before its first use. -/
structure Tally where
  success : Option Nat
  failure : Option Nat
  deriving DecidableEq, Repr, Inhabited

namespace Tally

def empty : Tally := ⟨none, none⟩

/-- The count of an outcome. -/
def count (t : Tally) : Attempt → Nat
  | .success => t.success.getD 0
  | .failure => t.failure.getD 0

/-- Set the count of an outcome. -/
def set (t : Tally) (outcome : Attempt) (n : Nat) : Tally :=
  match outcome with
  | .success => { t with success := some n }
  | .failure => { t with failure := some n }

def increment (t : Tally) (outcome : Attempt) : Tally := t.set outcome (t.count outcome + 1)

/-- Use the count of an outcome without changing it. -/
def touch (t : Tally) (outcome : Attempt) : Tally := t.set outcome (t.count outcome)

@[simp]
theorem count_increment (t : Tally) (outcome other : Attempt) :
    (t.increment outcome).count other = t.count other + if other = outcome then 1 else 0 := by
  cases outcome <;> cases other <;> simp [increment, set, count]

end Tally

structure Counters where
  allocations : Tally
  deallocations : Tally
  rollbacks : Nat
  deriving DecidableEq, Repr, Inhabited

namespace Counters

/-- What is counted. -/
inductive Event where
  | allocation (outcome : Attempt)
  | deallocation (outcome : Attempt)
  | rollback
  deriving DecidableEq, Repr, Inhabited

def zero : Counters := ⟨.empty, .empty, 0⟩

/-- Count an event. -/
def record (c : Counters) : Event → Counters
  | .allocation outcome => { c with allocations := c.allocations.increment outcome }
  | .deallocation outcome => { c with deallocations := c.deallocations.increment outcome }
  | .rollback => { c with rollbacks := c.rollbacks + 1 }

/-! ## Export -/

def contentType : String := "text/plain; version=0.0.4"

def heading (name help : String) : String :=
  "# HELP " ++ name ++ " " ++ help ++ "\n# TYPE " ++ name ++ " counter\n"

def sample (name label : String) (n : Nat) : String :=
  name ++ label ++ " " ++ String.ofList (decimalDigits n) ++ "\n"

/-- A labelled family, left out while no label was used. -/
def family (name help : String) (t : Tally) : String :=
  let line (outcome : Attempt) : Option Nat → String
    | some n => sample name ("\x7boutcome=\"" ++ outcome.name ++ "\"\x7d") n
    | none => ""
  let lines := line .failure t.failure ++ line .success t.success
  if lines = "" then "" else heading name help ++ lines

/-- All counts as text, families and labels in ascending order. -/
def text (c : Counters) : String :=
  family "router_broker_allocations_total" "Allocation attempts by outcome" c.allocations ++
  family "router_broker_deallocations_total" "Deallocation attempts by outcome" c.deallocations ++
  heading "router_broker_rollbacks_total" "Resources released after a failed allocation" ++
  sample "router_broker_rollbacks_total" "" c.rollbacks

end Counters
end Brokerage
