import Brokerage.Procedure

/-! # Faults

Effects can be made to go wrong. A fault waits at a point and hits the next effects that pass
there: they fail, they panic, or they happen late.
-/

namespace Brokerage

inductive Fault where
  | fail (cause : Error)
  | panic (message : String)
  | delay (milliseconds : Nat)
  deriving DecidableEq, Repr, Inhabited

/-- The point that an effect passes; counting passes none. -/
def Effect.point? : Effect → Option String
  | .acquire .. => some "policy.acquire"
  | .release .. => some "policy.release"
  | .store (.add _) => some "store.add"
  | .store (.get _) => some "store.get"
  | .store (.update ..) => some "store.update"
  | .store (.delete _) => some "store.delete"
  | .store (.list _) => some "store.list"
  | .store .health => some "store.health"
  | .backend descriptor call _ => some ("backend." ++ descriptor ++ "." ++ call.method)
  | .count _ | .readCounters => none

/-- The fault at each point, and how many effects it is still to hit. -/
abbrev Faults := Dict (Fault × Nat)

namespace Faults

/-- Put a fault at a point in place of the one there. -/
def inject (faults : Faults) (point : String) (fault : Fault) (times : Nat) : Faults :=
  Dict.insert faults point (fault, times)

/-- The fault that hits the next effect at a point, and the faults that are left. -/
def strike (faults : Faults) (point : String) : Option Fault × Faults :=
  match faults.get? point with
  | some (fault, times + 1) => (some fault, Dict.insert faults point (fault, times))
  | _ => (none, faults)

/-- How many effects are still to be hit. -/
def remaining (faults : Faults) : Nat := faults.entries.foldl (fun count e => count + e.2.2) 0

end Faults
end Brokerage
