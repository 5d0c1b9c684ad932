import ChangeNotice.Handlers
import ChangeNotice.Pass

/-! # Notifications of a document

Every notification takes a slot of the document before it changes anything and
gives it back however it ends. Opening a scope counts before the observers hear
of it, closing one counts after; loads change state before. What the handlers do
is a parameter of all these runs.
-/

namespace ChangeNotice

/-- What a notification by its own method returns. -/
inductive Raised where
  | scope (state : ScopeState)
  | report (r : Report)

namespace World

/-- A notification has taken a slot, which leaves this dispatcher. -/
def takeSlot (w : World) (d : Name) (t : Thread) (n : Notice) (left : Dispatcher) : World :=
  (w.updateDocument d fun doc => { doc with dispatcher := left }).record (.admitted d t n)

def releaseSlot (w : World) (d : Name) (t : Thread) : World :=
  (w.updateDocument d fun doc => { doc with dispatcher := doc.dispatcher.release t }).record
    (.released d t)

def setLoad (w : World) (d : Name) (l : LoadState) : World :=
  w.updateDocument d fun doc => { doc with load := l }

/-- The journal entry of a call that is about to happen. -/
def callOf (w : World) (t : Thread) (d o : Name) (n : Notice) : Call where
  observer := o
  notice := n
  thread := t
  document := d
  id := (w.document d).id
  scope := (w.document d).scope
  inFlight := (w.document d).dispatcher.inFlight t

end World

namespace Notify

variable {α : Type} (handle : Handlers) (t : Thread) (d : Name)

/-- The call of a handler is written down, and that it has returned. -/
def calling (n : Notice) (o : Name) (verdict : α → Verdict) (run : Run α) : Run α := do
  let call ← Run.read (·.callOf t d o n)
  Run.note (.called call)
  let a ← run
  Run.note (.handled call (verdict a))
  pure a

/-- Handlers that write down which of them are called, and with what. -/
def journaled (o : Name) (h : ObserverHandlers) : ObserverHandlers :=
  h.around (fun d e => calling t d (.event e) o fun _ => .proceed)
    fun d c p => calling t d (.script c p) o id

/-- Calls the handler for the notice, if the observer has one. -/
def deliver (n : Notice) (o : Name) : Run (Option Verdict) := do
  let h ← Run.read fun w => journaled t o (handle.of t o (w.observer o).role)
  match n with
  | .event e => return if ← e.deliver d o h then some .proceed else none
  | .script c p =>
    match ← h.asContentBinding o with
    | some b => return some (← b.attemptToExecuteScript d c p)
    | none => return none

/-- An observer that supports the notice has its handler called, and the call is written down. -/
theorem deliver_eq (n : Notice) (o : Name) :
    deliver handle t d n o = (do
      if ← Run.read fun w => (w.observer o).supports n.kind then
        let call ← Run.read (·.callOf t d o n)
        Run.note (.called call)
        let v ← handle t d o n
        Run.note (.handled call v)
        pure (some v)
      else pure none) := by
  funext w
  cases n with
  | event e =>
      simp only [deliver, Notice.kind, Run.bind_apply, Run.read_apply, Event.deliver_apply]
      cases (w.observer o).supports e.kind with
      | false => simp
      | true =>
          simp only [journaled, ObserverHandlers.onEvent_around, calling, Handlers.on,
            ObserverHandlers.on, Run.note, Run.bind_apply, Run.read_apply, Run.change_apply,
            World.observer_record, if_true]
          cases (handle.of t o (w.observer o).role).onEvent d e
            (w.record (.called (w.callOf t d o (.event e)))) with
          | mk result u => cases result <;> rfl
  | script c p =>
      have hkind :
          (w.observer o).supports .attemptToExecuteScript = (w.observer o).hasBinding := rfl
      simp only [deliver, Notice.kind, Run.bind_apply, Run.read_apply,
        ObserverHandlers.asContentBinding, hkind]
      cases (w.observer o).hasBinding with
      | false => rfl
      | true =>
          simp only [journaled, ObserverHandlers.around, calling, Handlers.on, ObserverHandlers.on,
            Run.note, Run.bind_apply, Run.read_apply, Run.change_apply, World.observer_record,
            if_true]
          cases (handle.of t o (w.observer o).role).binding.attemptToExecuteScript d c p
            (w.record (.called (w.callOf t d o (.script c p)))) with
          | mk result u => cases result <;> rfl

/-- A pass of the document over its own observers. -/
def announce (n : Notice) (depth : Nat) : Run (Report × List Verdict) := do
  let doc ← Run.read (·.document d)
  Pass.start (.document d) (.document d) t doc.dispatcher n.kind depth (deliver handle t d n)

/-- Runs the body in a slot of the document, or refuses if none is left. -/
def withSlot (n : Notice) (body : Nat → Run (Except NotifyError α)) :
    Run (Except NotifyError α) := do
  let doc ← Run.read (·.document d)
  match doc.dispatcher.enter? t with
  | none =>
    Run.note (.refused (.document d) t doc.id n.kind doc.dispatcher.maxDepth)
    pure (.error (.depthExceeded doc.id n.kind doc.dispatcher.maxDepth))
  | some (depth, left) =>
    Run.change (·.takeSlot d t n left)
    Run.ensuring (body depth) (·.releaseSlot d t)

/-- A scope was closed that nobody had opened. -/
def violation (m : UpdateMask) : Run (Except NotifyError α) := do
  let doc ← Run.read (·.document d)
  Run.note (.unbalanced d doc.id m)
  match doc.violation with
  | .panic =>
    Run.panic ("document " ++ doc.id.text ++ ": " ++ (ScopeError.unbalanced m).message)
  | .clamp => pure (.error (.unbalanced doc.id m))

def openScope (m : UpdateMask) : Run (Except NotifyError (ScopeState × Report)) :=
  withSlot t d (.event (.beginUpdate m)) fun depth => do
    Run.change (·.openScope (.document d) m)
    let s ← Run.read (·.scope (.document d))
    let (r, _) ← announce handle t d (.event (.beginUpdate m)) depth
    pure (.ok (s, r))

def closeScope (m : UpdateMask) : Run (Except NotifyError (ScopeState × Report)) :=
  withSlot t d (.event (.endUpdate m)) fun depth => do
    match (← Run.read (·.scope (.document d))).check m with
    | .error _ => violation d m
    | .ok () =>
      let (r, _) ← announce handle t d (.event (.endUpdate m)) depth
      match (← Run.read (·.scope (.document d))).leave m with
      | .error _ => violation d m
      | .ok s =>
        Run.change (·.closeScope (.document d) m s)
        pure (.ok (s, r))

def startLoad : Run (Except NotifyError Report) :=
  withSlot t d (.event .beginLoad) fun depth => do
    let doc ← Run.read (·.document d)
    if doc.load = .loading then Run.note (.loadRestarted d doc.id)
    Run.change (·.setLoad d .loading)
    let (r, _) ← announce handle t d (.event .beginLoad) depth
    pure (.ok r)

def finishLoad : Run (Except NotifyError Report) :=
  withSlot t d (.event .endLoad) fun depth => do
    let doc ← Run.read (·.document d)
    if doc.load ≠ .loading then Run.note (.loadNotStarted d doc.id doc.load)
    Run.change (·.setLoad d .loaded)
    let (r, _) ← announce handle t d (.event .endLoad) depth
    pure (.ok r)

/-- Announces an event that changes nothing in the document itself. -/
def broadcast (e : Event) : Run (Except NotifyError Report) :=
  withSlot t d (.event e) fun depth => do
    let (r, _) ← announce handle t d (.event e) depth
    pure (.ok r)

/-- Asks all observers that can answer whether a script may run; one block suffices. -/
def queryScript (content : ContentId) (parser : ParserId) : Run (Except NotifyError Verdict) :=
  withSlot t d (.script content parser) fun depth => do
    let (_, answers) ← announce handle t d (.script content parser) depth
    let v := Verdict.ofAnswers answers
    if v.isBlocked then
      Run.change fun w => w.record (.scriptBlocked d (w.document d).id content)
    pure (.ok v)

def beginUpdate (m : UpdateMask) : Run (Except NotifyError ScopeState) := do
  return (← openScope handle t d m).map (·.1)

def endUpdate (m : UpdateMask) : Run (Except NotifyError ScopeState) := do
  return (← closeScope handle t d m).map (·.1)

/-- Raises any event and reports on its pass. -/
def notify : Event → Run (Except NotifyError Report)
  | .beginUpdate m => do return (← openScope handle t d m).map (·.2)
  | .endUpdate m => do return (← closeScope handle t d m).map (·.2)
  | .beginLoad => startLoad handle t d
  | .endLoad => finishLoad handle t d
  | e => broadcast handle t d e

def contentStateChanged (content : ContentId) (changed : StateMask) :
    Run (Except NotifyError Report) :=
  notify handle t d (.contentStateChanged content changed)

def documentStatesChanged (changed : StateMask) : Run (Except NotifyError Report) :=
  notify handle t d (.documentStatesChanged changed)

def styleSheetAdded (sheet : SheetRef) : Run (Except NotifyError Report) :=
  notify handle t d (.styleSheetAdded sheet)

def styleSheetRemoved (sheet : SheetRef) : Run (Except NotifyError Report) :=
  notify handle t d (.styleSheetRemoved sheet)

def styleSheetApplicableStateChanged (sheet : SheetRef) : Run (Except NotifyError Report) :=
  notify handle t d (.styleSheetApplicableStateChanged sheet)

def styleRuleChanged (sheet : SheetRef) : Run (Except NotifyError Report) :=
  notify handle t d (.styleRuleChanged sheet)

def styleRuleAdded (sheet : SheetRef) : Run (Except NotifyError Report) :=
  notify handle t d (.styleRuleAdded sheet)

def styleRuleRemoved (sheet : SheetRef) : Run (Except NotifyError Report) :=
  notify handle t d (.styleRuleRemoved sheet)

def bindToDocument (content : ContentId) : Run (Except NotifyError Report) :=
  notify handle t d (.bindToDocument content)

/-- Raises an event by the method of its own. -/
def raise : Event → Run (Except NotifyError Raised)
  | .beginUpdate m => do return (← beginUpdate handle t d m).map .scope
  | .endUpdate m => do return (← endUpdate handle t d m).map .scope
  | .beginLoad => do return (← startLoad handle t d).map .report
  | .endLoad => do return (← finishLoad handle t d).map .report
  | .contentStateChanged c s => do return (← contentStateChanged handle t d c s).map .report
  | .documentStatesChanged s => do return (← documentStatesChanged handle t d s).map .report
  | .styleSheetAdded s => do return (← styleSheetAdded handle t d s).map .report
  | .styleSheetRemoved s => do return (← styleSheetRemoved handle t d s).map .report
  | .styleSheetApplicableStateChanged s => do
    return (← styleSheetApplicableStateChanged handle t d s).map .report
  | .styleRuleChanged s => do return (← styleRuleChanged handle t d s).map .report
  | .styleRuleAdded s => do return (← styleRuleAdded handle t d s).map .report
  | .styleRuleRemoved s => do return (← styleRuleRemoved handle t d s).map .report
  | .bindToDocument c => do return (← bindToDocument handle t d c).map .report

end Notify

end ChangeNotice
