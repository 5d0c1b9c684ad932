import ChangeNotice.World

/-! # Transcripts

The part of the journal that a reader is shown: the calls of recording observers,
their end, the answers of nested steps, and diagnostics from a chosen level on.
-/

namespace ChangeNotice

inductive Level where
  | error
  | warn
  | info
  | debug
  | trace
deriving DecidableEq

namespace Level

def rank : Level → Nat
  | error => 1
  | warn => 2
  | info => 3
  | debug => 4
  | trace => 5

def name : Level → String
  | error => "ERROR"
  | warn => "WARN"
  | info => "INFO"
  | debug => "DEBUG"
  | trace => "TRACE"

end Level

/-- A diagnostic: a message with fields. -/
structure Diagnostic where
  level : Level
  message : String
  fields : List (String × String) := []

def Diagnostic.text (d : Diagnostic) : String :=
  " ".intercalate
    (d.level.name :: d.message :: d.fields.map fun field => field.1 ++ "=" ++ field.2)

namespace Moment

def diagnostic? : Moment → Option Diagnostic
  | refused _ _ id kind limit => some
    { level := .error, message := "dispatch depth limit exceeded, dropping event"
      fields := [("document", id.text), ("event", kind.name), ("limit", Text.decimal limit)] }
  | scopeOpened _ _ s => some
    { level := .debug, message := "update scope opened", fields := s.fields }
  | scopeMismatch _ gathered closing => some
    { level := .debug, message := "closing update type was never opened"
      fields := [("mask", gathered.inspect), ("closing", closing.inspect)] }
  | scopeClosed _ s => some
    { level := .debug, message := "update scope closed", fields := s.fields }
  | unbalanced _ id mask => some
    { level := .error, message := "EndUpdate without matching BeginUpdate"
      fields := [("document", id.text), ("mask", mask.inspect)] }
  | loadRestarted _ id => some
    { level := .warn, message := "BeginLoad while a load is in progress"
      fields := [("document", id.text)] }
  | loadNotStarted _ id state => some
    { level := .warn, message := "EndLoad without BeginLoad"
      fields := [("document", id.text), ("state", state.inspect)] }
  | passEntered p slots => some
    { level := .debug, message := "enter dispatch"
      fields := [("document", p.document.text), ("event", p.kind.name),
        ("depth", Text.decimal p.depth), ("observers", Text.decimal slots.length)] }
  | invoking _ observer => some
    { level := .trace, message := "invoking handler", fields := [("observer", observer)] }
  | skipping _ observer => some
    { level := .trace, message := "skipping observer unregistered mid-pass"
      fields := [("observer", observer)] }
  | passFinished _ r => some
    { level := .debug, message := "dispatch finished"
      fields := [("delivered", Text.decimal r.delivered), ("skipped", Text.decimal r.skipped)] }
  | passLeft _ => some { level := .debug, message := "exit dispatch" }
  | scriptBlocked _ id content => some
    { level := .debug, message := "script execution blocked"
      fields := [("document", id.text), ("content", content.inspect)] }
  | sinkFull _ id position => some
    { level := .warn, message := "event sink buffer full, discarding events"
      fields := [("document", id.text), ("position", Text.decimal position.toNat)] }
  | _ => none

end Moment

/-- One entry of a transcript. -/
inductive Line where
  | call (c : Call)
  | answered (who : Option Name) (label : Option String) (answer : Answer)
  | freed (observer : Name)
  | visited (observer : Name)
  | log (text : String)

namespace Transcript

/-- Whether diagnostics of a level are shown; without a chosen level none are. -/
def shows (chosen : Option Level) (level : Level) : Bool :=
  match chosen with
  | none => false
  | some chosen => level.rank ≤ chosen.rank

/-- What a moment shows; `recorders` tells which observers record. -/
def line? (recorders : Name → Bool) (chosen : Option Level) (m : Moment) : Option Line :=
  match m with
  | .called c => if recorders c.observer then some (.call c) else none
  | .freed o => if recorders o then some (.freed o) else none
  | .visited o => some (.visited o)
  | .answered who label answer => some (.answered who label answer)
  | m =>
    match m.diagnostic? with
    | some d => if shows chosen d.level then some (.log d.text) else none
    | none => none

/-- The transcript of some moments, oldest first. -/
def lines (w : World) (chosen : Option Level) (moments : List Moment) : List Line :=
  moments.filterMap (line? (fun o => (w.observer o).isRecorder) chosen)

end Transcript

end ChangeNotice
