/-! # Deadlines

How long an execution may take. A caller may ask for a time and an action may set one; zero counts
as none in both places.
-/

namespace ActionGateway

/-- **Timeout policy**, in milliseconds. -/
structure TimeoutPolicy where
  /-- What applies when neither the caller nor the action sets a time. -/
  defaultMs : Nat
  /-- What no execution may exceed. -/
  maxMs : Nat
  deriving DecidableEq, Repr, Inhabited

namespace TimeoutPolicy

/-- The policy unless configured otherwise. -/
def standard : TimeoutPolicy := ⟨10000, 300000⟩

/-- A time that was set and is not zero. -/
def positive (timeoutMs : Option Nat) : Option Nat :=
  timeoutMs.filter (0 < ·)

/-- The deadline for a time asked for by the caller and a time set by the action. -/
def deadline (policy : TimeoutPolicy) (requestedMs actionMs : Option Nat) : Nat :=
  min (((positive requestedMs).or (positive actionMs)).getD policy.defaultMs) policy.maxMs

end TimeoutPolicy

end ActionGateway
