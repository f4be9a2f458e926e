/-!
A clock that only moves when something waits, with a moment at which the run is cancelled and a deadline.
-/

namespace TestScenario

/-- The time in milliseconds, and what ends a run early. -/
structure Clock where
  now : Nat := 0
  cancelAt : Option Nat := none
  deadline : Option Nat := none
deriving DecidableEq, Repr

namespace Clock

/-- The earlier of two moments, either of which may never come. -/
def earlier : Option Nat → Option Nat → Option Nat
  | none, b => b
  | a, none => a
  | some a, some b => some (min a b)

/-- When the run ends early. -/
def stop (c : Clock) : Option Nat := earlier c.cancelAt c.deadline

/-- Whether the run has ended early. -/
def isCancelled (c : Clock) : Bool := c.stop.any (· ≤ c.now)

/-- The run cancelled now. -/
def cancel (c : Clock) : Clock := { c with cancelAt := earlier c.cancelAt (some c.now) }

/-- The last moment that a clock knows: it counts the seconds by a signed number of 64 bits. -/
def lastMoment : Nat := 9223372036854775808 * 1000 - 1

/-- The clock with a run that ends early some milliseconds from now, if it knows that moment. -/
def limit (c : Clock) (ms : Nat) : Option Clock :=
  if c.now + ms ≤ lastMoment then some { c with deadline := some (c.now + ms) } else none

/-- The clock some time later. -/
def advance (c : Clock) (ms : Nat) : Clock := { c with now := c.now + ms }

/-- The clock after a wait that ends early with the run, and whether the wait came to its end. -/
def wait (c : Clock) (ms : Nat) : Clock × Bool :=
  match c.stop with
  | some t => if t ≤ c.now + ms then ({ c with now := max c.now t }, false) else (c.advance ms, true)
  | none => (c.advance ms, true)

end Clock
end TestScenario
