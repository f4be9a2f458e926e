import TestScenario.Outcome.Fault
import TestScenario.Text.Dict
import TestScenario.Text.Utf8
import TestScenario.Url.Basic

/-!
Requests, their answers, and what carries them.
-/

namespace TestScenario.Http

/-- A request that can be sent. -/
structure Request where
  method : String
  url : Url
  /-- The headers in order; a name may stand there in several spellings. -/
  headers : List (String × String)
  body : Option String := none
deriving DecidableEq, Repr

/-- The answer to a request. -/
structure Response where
  status : Nat
  /-- The headers in order, their names in lower case. -/
  headers : List (String × List UInt8)
  /-- The body as text, or why it could not be received. -/
  body : Except Fault String

/-- Whether a byte belongs to a header's text. -/
def isHeaderText (b : UInt8) : Bool := b == 0x09 || (0x20 ≤ b && b < 0x7F)

/-- The text of a header; one with other bytes than visible ones counts as empty. -/
def headerText (value : List UInt8) : String :=
  if value.all isHeaderText then Text.ofUtf8Lossy value else ""

/-- The headers as a table; of a repeated one the last counts. -/
def Response.headerTable (r : Response) : Dict String := Dict.ofList (r.headers.map fun (n, v) => (n, headerText v))

/-- What carries requests, where its state is of type `τ`. -/
structure Transport (τ : Type) where
  /-- Send a request and wait for the answer; a fault tells why there is none. -/
  send : Request → τ → Except Fault Response × τ
  /-- Wait some milliseconds. -/
  pause : Nat → τ → τ
  /-- The time in milliseconds. -/
  now : τ → Nat

/-- The causes when no network is there. -/
def noNetwork : Fault :=
  ⟨["client error (Connect)", "tcp connect error", "Network is unreachable (os error 101)"]⟩

end TestScenario.Http
