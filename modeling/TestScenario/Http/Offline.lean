import TestScenario.Engine.Rehearsal
import TestScenario.Http.Execution

/-!
Rehearsals on a computer without a network.
-/

namespace TestScenario.Http
variable {κ : Type}

/-- A transport that reaches nobody, with pauses on the clock of a rehearsal. -/
def offline : Transport (Rehearsal κ) where
  send _ r := (.error noNetwork, r)
  pause ms r := { r with clock := r.clock.advance ms }
  now r := r.clock.now

/-- The world of a rehearsal in which requests reach nobody. -/
def offlineWorld (c : Client) : World (Rehearsal κ) := Rehearsal.world fun t vars _ r => runCase c offline t vars r

end TestScenario.Http
