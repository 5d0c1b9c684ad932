import ChangeNotice.Document
import ChangeNotice.Sink

/-! # Steps of a scenario

A scenario is a list of steps. Most steps perform one operation; the others run
steps of their own, on the same thread, on a new one, repeatedly or with panics
caught. An observer that records its calls carries rules, and each rule has steps
that run when one of its handlers is called.
-/

namespace ChangeNotice

/-- Where a registry is found: by its own name, or in a document. A document that is not named is
the one whose call is being handled. -/
inductive Place where
  | registry (name : Name)
  | document (name : Option Name)

/-- What a pass by hand does with each observer. -/
inductive Visit where
  | deliver (event : Event) (document : Name)
  | answer (supported : Bool)

/-- How to wait for an event of a stream. -/
inductive Wait where
  | never
  | briefly
  | forever
deriving DecidableEq

inductive Operation where
  | createDocument (name : Name) (config : Config)
  | documentState (document : Option Name)
  | beginUpdate (document : Option Name) (mask : UpdateMask)
  | endUpdate (document : Option Name) (mask : UpdateMask)
  | raise (document : Option Name) (event : Event)
  | notify (document : Option Name) (event : Event)
  | queryScript (document : Option Name) (content : ContentId) (parser : ParserId)
  | createQuiet (name : Name) (binding : Bool)
  | drop (observer : Name)
  | register (place : Place) (observer : Name)
  | unregister (place : Place) (observer : Name)
  | isRegistered (place : Place) (observer : Name)
  | listKeys (place : Place)
  | deliver (document : Option Name) (observer : Name) (event : Event)
  | hasBinding (observer : Name)
  | createRegistry (name : Name)
  | takeSnapshot (place : Place) (name : Name)
  | snapshotState (name : Name)
  | createDispatcher (name : Name) (document : DocumentId) (maxDepth : Nat) (removal : Removal)
  | dispatcherState (name : Name)
  | enter (dispatcher : Name) (kind : Kind) (guard : Name)
  | releaseGuard (guard : Name)
  | pass (place : Place) (dispatcher guard : Name) (kind : Kind) (visit : Visit)
  | createTracker (name : Name)
  | trackerBegin (name : Name) (mask : UpdateMask)
  | trackerEnd (name : Name) (mask : UpdateMask)
  | trackerCheck (name : Name) (mask : UpdateMask)
  | trackerState (name : Name)
  | createSink (name : Name) (config : SinkConfig) (attach : Option (Option Name))
  | detach (document : Option Name) (sink : Name)
  | sinkState (sink : Name)
  | streamLength (sink : Name)
  | drain (sink : Name)
  | jsonLines (sink : Name)
  | receive (sink : Name) (wait : Wait)
  | dropStream (sink : Name)
  | panic (message : String)

/-- Steps that run when a handler is called: at most `limit` times, and only on the given payload if
there is one. -/
structure Rule (σ : Type) where
  kind : Kind
  payload : Option Payload
  limit : Option Nat
  steps : List σ
  /-- How often the rule has fired. -/
  fired : Nat := 0
deriving Inhabited

/-- A step carries the label under which its answer is reported. -/
inductive Step where
  | perform (label : Option String) (operation : Operation)
  | createRecorder (label : Option String) (name : Name) (binding : Bool) (verdict : Verdict)
      (rules : List (Rule Step))
  | attempt (label : Option String) (steps : List Step)
  | spawn (label : Option String) (steps : List Step)
  | iterate (label : Option String) (count : Nat) (steps : List Step)
  | unusable (label : Option String)

namespace Step

instance : Inhabited Step := ⟨unusable none⟩

def label : Step → Option String
  | perform l _ => l
  | createRecorder l _ _ _ _ => l
  | attempt l _ => l
  | spawn l _ => l
  | iterate l _ _ => l
  | unusable l => l

end Step

/-- Whether a rule fires on a notice. -/
def Rule.fires {σ : Type} (r : Rule σ) (n : Notice) : Bool :=
  r.kind == n.kind && r.payload.all (· == n.payload) && r.limit.all (r.fired < ·)

end ChangeNotice
