import TestScenario.Http.Execution
import TestScenario.Run.Clock

/-!
Runs that are told what happened outside.

A run is given replies to the questions that it will ask. Where they end, the first question without a reply is noted
and the run comes to its end as a cancelled one. Whoever asks for the run answers that question and lets it begin again
with one reply more, until none is left; as the run is a function of the replies, it asks the same questions each time.
-/

namespace TestScenario.Http

/-- What only the outside can do. -/
inductive Question where
  | send (request : Request)
  | pause (ms : Nat)
deriving DecidableEq, Repr

/-- What came of a question, and the time in milliseconds after it. -/
structure Reply where
  time : Nat
  answer : Except Fault Response

/-- The replies that are left, and what has become of the others. -/
structure Interview where
  now : Nat
  deadline : Option Nat := none
  replies : List Reply := []
  /-- The first question without a reply. -/
  question : Option Question := none

namespace Interview

/-- The fault of a question without a reply. -/
def unanswered : Fault := .because "no reply yet"

/-- Ask a question. -/
def ask (q : Question) (i : Interview) : Except Fault Response × Interview :=
  match i.question, i.replies with
  | none, r :: rest => (r.answer, { i with now := max i.now r.time, replies := rest })
  | none, [] => (.error unanswered, { i with question := some q })
  | some _, _ => (.error unanswered, i)

/-- The outside as what carries requests. -/
def transport : Transport Interview where
  send r i := i.ask (.send r)
  pause ms i := (i.ask (.pause ms)).2
  now i := i.now

/-- Whether the time is over. -/
def isLate (i : Interview) : Bool := i.deadline.any (· ≤ i.now)

/-- Whether nothing more is to be asked. -/
def isOver (i : Interview) : Bool := i.question.isSome || i.isLate

/-- Wait some milliseconds, but not beyond the deadline. -/
def wait (ms : Nat) (i : Interview) : Bool × Interview :=
  let left := i.deadline.map (· - i.now)
  let i := transport.pause (min ms (left.getD ms)) i
  (!i.isOver && left.all (ms ≤ ·), i)

/-- The world outside. -/
def world (c : Client) : World Interview where
  runCase t vars _ i :=
    let (ran, i) := runCase c transport t vars i
    (if i.isOver then { ran with outcome := .cancelled } else ran, i)
  eval script vars i := (Script.evaluation script vars, i)
  wait := wait
  limit ms i := if i.now + ms ≤ Clock.lastMoment then some { i with deadline := some (i.now + ms) } else none
  isCancelled i := i.isOver
  now i := i.now

end Interview
end TestScenario.Http
