import Brokerage.Remote.Exchange

/-! # A scripted allocation service

A service that gives prepared replies in order and remembers what it was asked.
-/

namespace Brokerage.Remote

structure Service where
  /-- Whether a connection to the service can be made. -/
  reachable : Bool
  /-- The replies still to give. -/
  script : List Reply
  /-- The requests so far, oldest first. -/
  received : List Request
  deriving DecidableEq, Repr, Inhabited

namespace Service

/-- What a service answers that has no reply left. -/
def exhausted : Reply := .answer 500 "script exhausted"

/-- Answer a request. -/
def answer (request : Request) (s : Service) : Reply × Service :=
  if s.reachable then
    (s.script.headD exhausted,
      { s with script := s.script.tail, received := s.received ++ [request] })
  else (.lost, s)

/-- Hold an exchange with the service. -/
def serve {α : Type} (exchange : Exchange α) (s : Service) : Except Error α × Service :=
  (ExceptT.run exchange).run answer s

end Service
end Brokerage.Remote
