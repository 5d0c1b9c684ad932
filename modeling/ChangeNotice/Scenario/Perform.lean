import ChangeNotice.Notify

/-! # Performing operations

What one operation does where it stands. An operation that names something
unknown, or a name that is already taken, is unusable and changes nothing.
-/

namespace ChangeNotice

/-- Where a step runs: on a thread, and inside a handler for a document or outside of any. -/
structure Context where
  thread : Thread
  observer : Option Name
  document : Option Name

namespace Context

def top : Context := ⟨0, none, none⟩

/-- The document that a step means. -/
def documentName (c : Context) (d : Option Name) : Name := (d.or c.document).getD "d"

end Context

namespace Scenario

def unusable : Answer := .failed .unusable

/-- The proper answer of a notification, or its error. -/
def answerOf {α : Type} (f : α → Answer) : Except NotifyError α → Answer
  | .ok a => f a
  | .error e => .failed (.notify e)

/-- Runs only if the condition holds. -/
def given (condition : World → Bool) (run : Run Answer) : Run Answer := do
  if ← Run.read condition then run else pure unusable

def onDocument (c : Context) (d : Option Name) (run : Name → Run Answer) : Run Answer :=
  given (·.documents.contains (c.documentName d)) do
    Run.note (.targeted (c.documentName d))
    run (c.documentName d)

/-- Runs on the value that a name means now. -/
def onNamed (number? : World → Option Nat) (run : Nat → Run Answer) : Run Answer := do
  match ← Run.read number? with
  | some number => run number
  | none => pure unusable

def onDispatcher (name : Name) (run : Nat → Run Answer) : Run Answer :=
  onNamed (·.dispatchers.number? name) run

def onGuard (name : Name) (run : Nat → Run Answer) : Run Answer :=
  onNamed (·.guards.number? name) run

def onTracker (name : Name) (run : Owner → Run Answer) : Run Answer :=
  onNamed (·.trackers.number? name) fun number => run (.standalone number)

def onPlace (c : Context) (place : Place) (run : Owner → Run Answer) : Run Answer :=
  match place with
  | .registry r => onNamed (·.registries.number? r) fun number => run (.standalone number)
  | .document d => onDocument c d fun d => run (.document d)

/-- Runs on a sink whose stream can be read. -/
def onStream (sink : Name) (run : Sink → Run Answer) : Run Answer := do
  match (← Run.read (·.observer sink)).sink? with
  | some s => if s.connected then run s else pure unusable
  | none => pure unusable

def isOwnedSink (sink : Name) (w : World) : Bool :=
  w.isOwned sink && (w.observer sink).sink?.isSome

def createDocument (name : Name) (config : Config) : Run Answer :=
  given (fun w => !w.documents.contains name) do
    let id ← Run.read fun w => (⟨UInt64.ofNat (w.documents.rows.length + 1)⟩ : DocumentId)
    Run.change fun w => { w with documents := w.documents.set name (.new id config) }
    pure (.documentCreated id config)

def documentState (c : Context) (d : Name) : Run Answer :=
  Run.read fun w =>
    let doc := w.document d
    .documentState doc.scope doc.load (doc.registry.length w.isAlive)
      (doc.dispatcher.inFlight c.thread) (doc.inspect w.isAlive)

def createObserver (name : Name) (role : Role) : Run Answer :=
  given (fun w => !w.observers.contains name) do
    Run.change fun w => { w with observers := w.observers.set name (.new role) }
    pure .nothing

def drop (observer : Name) : Run Answer := do
  if ← Run.read (·.isOwned observer) then
    Run.change (·.disown observer)
    pure (.truth true)
  else pure (.truth false)

def register (owner : Owner) (observer : Name) : Run Answer :=
  given (·.isOwned observer) do
    Run.change (·.register owner observer)
    pure (.key observer)

def unregister (owner : Owner) (observer : Name) : Run Answer := do
  let found ← Run.read fun w => (w.registry owner).hasKey observer
  Run.change (·.unregister owner observer)
  pure (.truth found)

def listKeys (owner : Owner) : Run Answer :=
  Run.read fun w =>
    let r := w.registry owner
    .keys (r.length w.isAlive) (r.isEmpty w.isAlive) (r.keys w.isAlive)

def snapshotAnswer (s : Snapshot) : Answer := .keys s.length s.isEmpty (s.map (·.key))

def takeSnapshot (owner : Owner) (name : Name) : Run Answer := do
  Run.change (·.prune owner)
  let s ← Run.read fun w => (w.registry owner).entries
  Run.change fun w => { w with snapshots := w.snapshots.set name s }
  pure (snapshotAnswer s)

def dispatcherState (c : Context) (dispatcher : Nat) : Run Answer :=
  Run.read fun w =>
    let d := w.dispatchers.get dispatcher
    .dispatcher (d.inFlight c.thread) d.maxDepth d.removal

def enter (c : Context) (dispatcher : Nat) (kind : Kind) (guard : Name) : Run Answer :=
  given (fun w => (w.guards.number? guard).isNone) do
    let d ← Run.read (·.dispatchers.get dispatcher)
    match d.enter? c.thread with
    | none =>
      Run.note (.refused (.standalone dispatcher) c.thread d.document kind d.maxDepth)
      pure (.failed (.notify (.depthExceeded d.document kind d.maxDepth)))
    | some (depth, left) =>
      Run.change (·.makeGuard guard dispatcher left c.thread depth)
      pure (.depth depth)

/-- The guard loses its name; its slot is given back unless a pass keeps it. -/
def releaseGuard (name : Name) (guard : Nat) : Run Answer := do
  let depth ← Run.read fun w => (w.guards.get guard).depth
  Run.change fun w => (w.forgetGuard name).leaveGuard guard
  pure (.depth depth)

/-- What a pass by hand does with an observer. -/
def visit (handle : Handlers) (c : Context) (v : Visit) (o : Name) : Run (Option Verdict) := do
  Run.note (.visited o)
  match v with
  | .deliver e d =>
    Run.note (.targeted d)
    Notify.deliver handle c.thread d (.event e) o
  | .answer supported => pure (if supported then some .proceed else none)

def canVisit (v : Visit) (w : World) : Bool :=
  match v with
  | .deliver _ d => w.documents.contains d
  | .answer _ => true

/-- A pass by hand keeps its guard until it ends. -/
def pass (handle : Handlers) (c : Context) (owner : Owner) (dispatcher guard : Nat)
    (kind : Kind) (v : Visit) : Run Answer :=
  given (canVisit v) do
    let d ← Run.read (·.dispatchers.get dispatcher)
    let g ← Run.read (·.guards.get guard)
    let (r, _) ← Run.keeping guard <|
      Pass.start owner (.standalone dispatcher) c.thread d kind g.depth (visit handle c v)
    pure (.report r)

def trackerEnd (tracker : Owner) (m : UpdateMask) : Run Answer := do
  match (← Run.read (·.scope tracker)).leave m with
  | .error e => pure (.failed (.scope e))
  | .ok s =>
    Run.change (·.closeScope tracker m s)
    pure (.scope s)

def trackerBegin (tracker : Owner) (m : UpdateMask) : Run Answer := do
  Run.change (·.openScope tracker m)
  Run.read fun w => .scope (w.scope tracker)

def trackerCheck (tracker : Owner) (m : UpdateMask) : Run Answer := do
  match (← Run.read (·.scope tracker)).check m with
  | .error e => pure (.failed (.scope e))
  | .ok () => pure .ok

/-- Makes a sink, unless its buffer cannot be laid out. -/
def makeSink (name : Name) (config : SinkConfig) : Run Answer :=
  given (fun w => !w.observers.contains name) do
    match config.bufferFault? with
    | some fault => Run.panic fault.message
    | none =>
      Run.note (.sinkMade name config)
      createObserver name (.sink (.new config))

def createSink (c : Context) (name : Name) (config : SinkConfig) (attach : Option (Option Name)) :
    Run Answer :=
  match attach with
  | none => makeSink name config
  | some d => onDocument c d fun d =>
    given (fun w => !w.observers.contains name) do
      let answer ← makeSink name config
      Run.change (·.register (.document d) name)
      pure answer

/-- The answer on an empty stream, whose sink may still live. -/
def emptyAnswer (live : Bool) : Wait → Answer
  | .never => .failed (if live then .streamEmpty else .streamDisconnected)
  | .briefly => .failed (if live then .streamTimeout else .streamDisconnected)
  | .forever => if live then .wouldBlock else .failed .streamClosed

def receive (sink : Name) (wait : Wait) (s : Sink) : Run Answer :=
  match s.take? with
  | some (r, s) => do
    Run.change (·.readStream sink s [r])
    pure (.recorded r)
  | none => Run.read fun w => emptyAnswer (w.isAlive sink) wait

def dropStream (sink : Name) : Run Answer := do
  match (← Run.read (·.observer sink)).sink? with
  | some s =>
    Run.change (·.updateSink sink Sink.disconnect)
    pure (.truth s.connected)
  | none => pure unusable

def perform (handle : Handlers) (c : Context) : Operation → Run Answer
  | .createDocument name config => createDocument name config
  | .documentState d => onDocument c d (documentState c)
  | .beginUpdate d m => onDocument c d fun d => do
    return answerOf .scope (← Notify.beginUpdate handle c.thread d m)
  | .endUpdate d m => onDocument c d fun d => do
    return answerOf .scope (← Notify.endUpdate handle c.thread d m)
  | .raise d e => onDocument c d fun d => do
    return answerOf raised (← Notify.raise handle c.thread d e)
  | .notify d e => onDocument c d fun d => do
    return answerOf .report (← Notify.notify handle c.thread d e)
  | .queryScript d content parser => onDocument c d fun d => do
    return answerOf .verdict (← Notify.queryScript handle c.thread d content parser)
  | .createQuiet name binding => createObserver name (.quiet binding)
  | .drop o => drop o
  | .register place o => onPlace c place fun owner => register owner o
  | .unregister place o => onPlace c place fun owner =>
    given (·.observers.contains o) (unregister owner o)
  | .isRegistered place o => onPlace c place fun owner =>
    given (·.observers.contains o) <| Run.read fun w =>
      .truth ((w.registry owner).contains w.isAlive o)
  | .listKeys place => onPlace c place listKeys
  | .deliver d o e => onDocument c d fun d =>
    given (·.isOwned o) do
      let answer ← Run.holding o (Notify.deliver handle c.thread d (.event e) o)
      pure (.truth answer.isSome)
  | .hasBinding o => given (·.isOwned o) <| Run.read fun w => .truth (w.observer o).hasBinding
  | .createRegistry name => do
    Run.change fun w => { w with registries := w.registries.make name .empty }
    pure .nothing
  | .takeSnapshot place name => onPlace c place fun owner => takeSnapshot owner name
  | .snapshotState name => given (·.snapshots.contains name) <|
    Run.read fun w => snapshotAnswer (w.snapshots.get name)
  | .createDispatcher name document maxDepth removal => do
    Run.change fun w =>
      { w with dispatchers := w.dispatchers.make name ⟨document, maxDepth, removal, .empty⟩ }
    onDispatcher name (dispatcherState c)
  | .dispatcherState name => onDispatcher name (dispatcherState c)
  | .enter dispatcher kind guard => onDispatcher dispatcher fun number => enter c number kind guard
  | .releaseGuard guard => onGuard guard (releaseGuard guard)
  | .pass place dispatcher guard kind v => onPlace c place fun owner =>
    onDispatcher dispatcher fun dispatcher =>
      onGuard guard fun guard => pass handle c owner dispatcher guard kind v
  | .createTracker name => do
    Run.change fun w => { w with trackers := w.trackers.make name .idle }
    pure .nothing
  | .trackerBegin name m => onTracker name (trackerBegin · m)
  | .trackerEnd name m => onTracker name (trackerEnd · m)
  | .trackerCheck name m => onTracker name (trackerCheck · m)
  | .trackerState name => onTracker name fun tracker =>
    Run.read fun w => .tracker (w.scope tracker)
  | .createSink name config attach => createSink c name config attach
  | .detach d sink => onDocument c d fun d =>
    given (isOwnedSink sink) (unregister (.document d) sink)
  | .sinkState sink => given (isOwnedSink sink) <| Run.read fun w =>
    match (w.observer sink).sink? with
    | some s => .sink s.dropped s.filter
    | none => unusable
  | .streamLength sink => onStream sink fun s => pure (.streamLength s.buffer.length)
  | .drain sink => onStream sink fun s => do
    Run.change (·.readStream sink s.drain.2 s.drain.1)
    pure (.drained s.drain.1)
  | .jsonLines sink => onStream sink fun s => do
    Run.change (·.readStream sink s.drain.2 s.drain.1)
    pure (.text s.jsonLines)
  | .receive sink wait => onStream sink (receive sink wait)
  | .dropStream sink => dropStream sink
  | .panic message => Run.panic message
where
  raised : Raised → Answer
    | .scope s => .scope s
    | .report r => .report r

end Scenario

end ChangeNotice
