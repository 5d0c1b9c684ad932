import ChangeNotice.Scenario.Respond
import ChangeNotice.Transcript

/-! # Sessions

A session runs its steps one after the other in a world that starts empty. A
panic ends only the step that it reaches. For each step the session keeps the
answer, the transcript and the state of all documents afterwards.
-/

namespace ChangeNotice

/-- The state of a document as a session shows it. -/
structure Summary where
  scope : ScopeState
  load : LoadState
  observers : List Name
  /-- The slots that the first thread holds. -/
  inFlight : Nat

structure Outcome where
  answer : Answer
  lines : List Line
  documents : List (Name × Summary)

namespace World

def summary (w : World) (doc : Document) : Summary :=
  ⟨doc.scope, doc.load, doc.registry.keys w.isAlive, doc.dispatcher.inFlight 0⟩

/-- The moments since the journal had a given length, oldest first. -/
def since (w : World) (length : Nat) : List Moment :=
  (w.past.take (w.past.length - length)).reverse

end World

namespace Session

/-- The answer of a step at the top, where panics end. -/
def answerOf : Except Unwind Answer → Answer
  | .ok a => a
  | .error (.panic message) => .failed (.panicked message)
  | .error .exhausted => .failed (.panicked "handlers are nested too deeply")

/-- Runs one step; `depth` bounds how deep handlers may be nested. -/
def step (depth : Nat) (s : Step) (w : World) : Answer × World :=
  let (result, w) := Scenario.runStep (Scenario.respond depth) .top s w
  (answerOf result, w)

def outcome (chosen : Option Level) (before : Nat) (answer : Answer) (w : World) : Outcome where
  answer := answer
  lines := Transcript.lines w chosen (w.since before)
  documents := w.documents.rows.map fun row => (row.1, w.summary row.2)

def runFrom (depth : Nat) (chosen : Option Level) (w : World) : List Step → List Outcome × World
  | [] => ([], w)
  | s :: rest =>
    let (answer, next) := step depth s w
    let (outcomes, last) := runFrom depth chosen next rest
    (outcome chosen w.past.length answer next :: outcomes, last)

/-- Runs a session from the beginning. -/
def run (depth : Nat) (chosen : Option Level) (steps : List Step) : List Outcome :=
  (runFrom depth chosen .empty steps).1

/-- Handlers of a session may be nested this deep; a session that goes deeper does not end by
itself. -/
def nestingBound : Nat := 100000

end Session

end ChangeNotice
