import ChangeNotice.Observer

/-! # The journal

Everything that happens is written into one journal: what calls enter and leave,
what passes do, who is registered, held and freed, and what steps answer. A
transcript shows part of it; statements about whole runs are statements about
the journal.
-/

namespace ChangeNotice

/-- A registry, a dispatcher or a scope counter belongs to a document or stands by itself, under
a number of its own. -/
inductive Owner where
  | document (name : Name)
  | standalone (number : Nat)
deriving DecidableEq

/-- Why a step has no proper answer. -/
inductive Failure where
  | notify (error : NotifyError)
  | scope (error : ScopeError)
  | panicked (message : String)
  /-- The step makes no sense where it stands. -/
  | unusable
  | streamEmpty
  | streamTimeout
  | streamDisconnected
  | streamClosed
deriving DecidableEq

inductive Answer where
  | nothing
  | ok
  | truth (b : Bool)
  | key (name : Name)
  | documentCreated (id : DocumentId) (config : Config)
  | documentState (scope : ScopeState) (load : LoadState) (observers inFlight : Nat) (text : String)
  | scope (state : ScopeState)
  | report (r : Report)
  | verdict (v : Verdict)
  | keys (length : Nat) (isEmpty : Bool) (keys : List Name)
  | dispatcher (inFlight maxDepth : Nat) (removal : Removal)
  | depth (n : Nat)
  | tracker (state : ScopeState)
  | sink (dropped : UInt64) (filter : Filter)
  | streamLength (n : Nat)
  | recorded (r : Recorded)
  | drained (rs : List Recorded)
  | text (s : String)
  | wouldBlock
  | failed (f : Failure)
deriving DecidableEq

/-- A pass is known by its number: how many passes had been started before it. -/
structure PassInfo where
  serial : Nat
  thread : Thread
  dispatcher : Owner
  registry : Owner
  document : DocumentId
  kind : Kind
  depth : Nat
  removal : Removal
deriving DecidableEq

/-- A handler is called: with what, for which document, and what the document looked like. -/
structure Call where
  observer : Name
  notice : Notice
  thread : Thread
  document : Name
  id : DocumentId
  scope : ScopeState
  inFlight : Nat
deriving DecidableEq

inductive Moment where
  /-- A step acts on the document. -/
  | targeted (document : Name)
  /-- A notification of the document has taken its slot. -/
  | admitted (document : Name) (thread : Thread) (notice : Notice)
  /-- A notification of the document has given its slot back. -/
  | released (document : Name) (thread : Thread)
  /-- No slot was left. -/
  | refused (owner : Owner) (thread : Thread) (id : DocumentId) (kind : Kind) (limit : Nat)
  | scopeOpened (owner : Owner) (mask : UpdateMask) (state : ScopeState)
  | scopeMismatch (owner : Owner) (gathered closing : UpdateMask)
  | scopeClosed (owner : Owner) (state : ScopeState)
  | unbalanced (document : Name) (id : DocumentId) (mask : UpdateMask)
  | loadRestarted (document : Name) (id : DocumentId)
  | loadNotStarted (document : Name) (id : DocumentId) (state : LoadState)
  | registered (owner : Owner) (key : Name)
  | unregistered (owner : Owner) (key : Name)
  | passEntered (pass : PassInfo) (slots : List Name)
  /-- The turn of an observer that is alive. -/
  | invoking (pass : PassInfo) (observer : Name)
  /-- The turn of an observer whose entry no longer stands. -/
  | skipping (pass : PassInfo) (observer : Name)
  /-- The turn of an observer that is dead. -/
  | missing (pass : PassInfo) (observer : Name)
  | passFinished (pass : PassInfo) (report : Report)
  | passLeft (pass : PassInfo)
  | visited (observer : Name)
  | called (call : Call)
  /-- The handler has returned. -/
  | handled (call : Call) (verdict : Verdict)
  | scriptBlocked (document : Name) (id : DocumentId) (content : ContentId)
  | sinkMade (sink : Name) (config : SinkConfig)
  /-- An event was offered to a sink, and this became of it. -/
  | offered (sink : Name) (id : DocumentId) (event : Event) (outcome : Offered)
  | sinkFull (sink : Name) (id : DocumentId) (position : UInt64)
  /-- Somebody has taken these events from the stream of a sink. -/
  | taken (sink : Name) (events : List Recorded)
  /-- A pass or a delivery holds the observer. -/
  | held (observer : Name)
  | unheld (observer : Name)
  /-- The owner has let go of the observer. -/
  | disowned (observer : Name)
  | freed (observer : Name)
  /-- A nested step has answered. -/
  | answered (who : Option Name) (label : Option String) (answer : Answer)
deriving DecidableEq

end ChangeNotice
