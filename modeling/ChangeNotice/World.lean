import ChangeNotice.Catalog
import ChangeNotice.Journal

/-! # The world

All that a run can change: documents, observers, the registries, snapshots,
dispatchers, guards and scope counters that stand by themselves, and the journal.
-/

namespace ChangeNotice

structure World where
  documents : Table Name Document
  observers : Table Name Observer
  registries : Catalog Registry
  snapshots : Table Name Snapshot
  dispatchers : Catalog Dispatcher
  guards : Catalog Guard
  trackers : Catalog ScopeState
  /-- How many threads have been started beside the first. -/
  threads : Nat
  /-- How many passes have been started. -/
  passes : Nat
  /-- The journal, newest moment first. -/
  past : List Moment

namespace World

def empty : World := ⟨.empty, .empty, .empty, .empty, .empty, .empty, .empty, 0, 0, []⟩

instance : Inhabited World := ⟨empty⟩

def record (w : World) (m : Moment) : World := { w with past := m :: w.past }

def document (w : World) (d : Name) : Document := w.documents.get d

def updateDocument (w : World) (d : Name) (f : Document → Document) : World :=
  { w with documents := w.documents.update d f }

@[simp]
theorem document_updateDocument (w : World) (d other : Name) (f : Document → Document) :
    (w.updateDocument d f).document other =
      if other = d then f (w.document d) else w.document other :=
  Table.get_update w.documents d other f

@[simp]
theorem document_record (w : World) (m : Moment) (d : Name) :
    (w.record m).document d = w.document d := rfl

/-! ## Life of observers -/

def observer (w : World) (o : Name) : Observer := w.observers.get o

def updateObserver (w : World) (o : Name) (f : Observer → Observer) : World :=
  { w with observers := w.observers.update o f }

@[simp]
theorem observer_updateObserver (w : World) (o other : Name) (f : Observer → Observer) :
    (w.updateObserver o f).observer other =
      if other = o then f (w.observer o) else w.observer other :=
  Table.get_update w.observers o other f

@[simp]
theorem observer_record (w : World) (m : Moment) (o : Name) :
    (w.record m).observer o = w.observer o := rfl

def isAlive (w : World) (o : Name) : Bool := (w.observer o).isAlive

def isOwned (w : World) (o : Name) : Bool := (w.observer o).owned

def hold (w : World) (o : Name) : World :=
  (w.updateObserver o fun a => { a with holds := a.holds + 1 }).record (.held o)

/-- Records the end of an observer that nobody keeps any more. -/
def freeIfDead (w : World) (o : Name) : World := if w.isAlive o then w else w.record (.freed o)

def unhold (w : World) (o : Name) : World :=
  ((w.updateObserver o fun a => { a with holds := a.holds - 1 }).record (.unheld o)).freeIfDead o

/-- The owner lets go. -/
def disown (w : World) (o : Name) : World :=
  ((w.updateObserver o fun a => { a with owned := false }).record (.disowned o)).freeIfDead o

/-- A sink changes; other observers are no sinks and stay as they are. -/
def updateSink (w : World) (o : Name) (f : Sink → Sink) : World :=
  match (w.observer o).role with
  | .sink s => w.updateObserver o fun a => { a with role := .sink (f s) }
  | _ => w

/-- Events are taken from a stream, which leaves the sink like this. -/
def readStream (w : World) (sink : Name) (s : Sink) (events : List Recorded) : World :=
  (w.updateSink sink fun _ => s).record (.taken sink events)

/-- A recorder keeps something in mind. -/
def updateRecorder (w : World) (o : Name) (f : Recorder → Recorder) : World :=
  match (w.observer o).role with
  | .recorder r => w.updateObserver o fun a => { a with role := .recorder (f r) }
  | _ => w

/-! ## Registries -/

def registry (w : World) : Owner → Registry
  | .document d => (w.document d).registry
  | .standalone number => w.registries.get number

def updateRegistry (w : World) (owner : Owner) (f : Registry → Registry) : World :=
  match owner with
  | .document d => w.updateDocument d fun doc => { doc with registry := f doc.registry }
  | .standalone number => { w with registries := w.registries.update number f }

def keys (w : World) (owner : Owner) : List Name := (w.registry owner).keys w.isAlive

def register (w : World) (owner : Owner) (key : Name) : World :=
  let standing := ((w.registry owner).prune w.isAlive).hasKey key
  let w := w.updateRegistry owner (·.insert w.isAlive key)
  if standing then w else w.record (.registered owner key)

def unregister (w : World) (owner : Owner) (key : Name) : World :=
  if (w.registry owner).hasKey key then
    (w.updateRegistry owner (·.remove key)).record (.unregistered owner key)
  else w

/-- Prunes the registry, as every snapshot does. -/
def prune (w : World) (owner : Owner) : World := w.updateRegistry owner (·.prune w.isAlive)

def resolve (w : World) (owner : Owner) (removal : Removal) (e : Entry) : Resolved :=
  (w.registry owner).resolve w.isAlive removal.honoured e

/-! ## Guards -/

/-- A slot has been taken, which leaves this dispatcher, and is kept under a name. -/
def makeGuard (w : World) (name : Name) (dispatcher : Nat) (left : Dispatcher) (t : Thread)
    (depth : Nat) : World :=
  { w with
    dispatchers := w.dispatchers.update dispatcher fun _ => left
    guards := w.guards.make name ⟨dispatcher, t, depth, 1⟩ }

def keepGuard (w : World) (guard : Nat) : World :=
  { w with guards := w.guards.update guard fun g => { g with keepers := g.keepers + 1 } }

/-- Gives back the slot of a guard that nobody keeps. -/
def releaseIfFree (w : World) (guard : Nat) : World :=
  let g := w.guards.get guard
  if g.keepers = 0 then
    { w with dispatchers := w.dispatchers.update g.dispatcher (·.release g.thread) }
  else w

/-- One of those who keep the guard lets go. -/
def leaveGuard (w : World) (guard : Nat) : World :=
  releaseIfFree
    { w with guards := w.guards.update guard fun g => { g with keepers := g.keepers - 1 } } guard

def forgetGuard (w : World) (name : Name) : World := { w with guards := w.guards.forget name }

/-! ## Scope counters -/

def scope (w : World) : Owner → ScopeState
  | .document d => (w.document d).scope
  | .standalone number => w.trackers.get number

def setScope (w : World) (owner : Owner) (s : ScopeState) : World :=
  match owner with
  | .document d => w.updateDocument d fun doc => { doc with scope := s }
  | .standalone number => { w with trackers := w.trackers.update number fun _ => s }

def openScope (w : World) (owner : Owner) (m : UpdateMask) : World :=
  let s := (w.scope owner).enter m
  (w.setScope owner s).record (.scopeOpened owner m s)

/-- Closes a scope that `s` is the state after; a mask that was never opened is worth a remark. -/
def closeScope (w : World) (owner : Owner) (m : UpdateMask) (s : ScopeState) : World :=
  let gathered := (w.scope owner).mask
  let w := if gathered.contains m then w else w.record (.scopeMismatch owner gathered m)
  (w.setScope owner s).record (.scopeClosed owner s)

end World

end ChangeNotice
