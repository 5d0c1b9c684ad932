import ChangeNotice.Run

/-! # Handlers

Each kind of notice has a handler of its own, and each handler is given the document.
Those that concern bindings and scripts belong to an extension that an observer may
lack. A handler that an observer does not define does nothing.
-/

namespace ChangeNotice

/-- The handlers of the extension. -/
structure BindingHandlers where
  bindToDocument : Name → ContentId → Run Unit := fun _ _ => pure ()
  attemptToExecuteScript : Name → ContentId → ParserId → Run Verdict := fun _ _ _ => pure .proceed

structure ObserverHandlers where
  beginUpdate : Name → UpdateMask → Run Unit := fun _ _ => pure ()
  endUpdate : Name → UpdateMask → Run Unit := fun _ _ => pure ()
  beginLoad : Name → Run Unit := fun _ => pure ()
  endLoad : Name → Run Unit := fun _ => pure ()
  contentStateChanged : Name → ContentId → StateMask → Run Unit := fun _ _ _ => pure ()
  documentStatesChanged : Name → StateMask → Run Unit := fun _ _ => pure ()
  styleSheetAdded : Name → SheetRef → Run Unit := fun _ _ => pure ()
  styleSheetRemoved : Name → SheetRef → Run Unit := fun _ _ => pure ()
  styleSheetApplicableStateChanged : Name → SheetRef → Run Unit := fun _ _ => pure ()
  styleRuleChanged : Name → SheetRef → Run Unit := fun _ _ => pure ()
  styleRuleAdded : Name → SheetRef → Run Unit := fun _ _ => pure ()
  styleRuleRemoved : Name → SheetRef → Run Unit := fun _ _ => pure ()
  binding : BindingHandlers := {}

namespace ObserverHandlers

/-- The extension of the handlers, if the observer behind them has it. -/
def asContentBinding (h : ObserverHandlers) (o : Name) : Run (Option BindingHandlers) :=
  Run.read fun w => if (w.observer o).hasBinding then some h.binding else none

/-- Something is done around each handler, which is told what the handler is given. -/
def around (h : ObserverHandlers) (event : Name → Event → Run Unit → Run Unit)
    (script : Name → ContentId → ParserId → Run Verdict → Run Verdict) : ObserverHandlers where
  beginUpdate d m := event d (.beginUpdate m) (h.beginUpdate d m)
  endUpdate d m := event d (.endUpdate m) (h.endUpdate d m)
  beginLoad d := event d .beginLoad (h.beginLoad d)
  endLoad d := event d .endLoad (h.endLoad d)
  contentStateChanged d c s := event d (.contentStateChanged c s) (h.contentStateChanged d c s)
  documentStatesChanged d s := event d (.documentStatesChanged s) (h.documentStatesChanged d s)
  styleSheetAdded d s := event d (.styleSheetAdded s) (h.styleSheetAdded d s)
  styleSheetRemoved d s := event d (.styleSheetRemoved s) (h.styleSheetRemoved d s)
  styleSheetApplicableStateChanged d s :=
    event d (.styleSheetApplicableStateChanged s) (h.styleSheetApplicableStateChanged d s)
  styleRuleChanged d s := event d (.styleRuleChanged s) (h.styleRuleChanged d s)
  styleRuleAdded d s := event d (.styleRuleAdded s) (h.styleRuleAdded d s)
  styleRuleRemoved d s := event d (.styleRuleRemoved s) (h.styleRuleRemoved d s)
  binding :=
    { bindToDocument := fun d c => event d (.bindToDocument c) (h.binding.bindToDocument d c)
      attemptToExecuteScript := fun d c p =>
        script d c p (h.binding.attemptToExecuteScript d c p) }

/-- Handlers that all do the same with what they are given. -/
def uniform (event : Name → Event → Run Unit)
    (script : Name → ContentId → ParserId → Run Verdict) : ObserverHandlers :=
  around {} (fun d e _ => event d e) fun d c p _ => script d c p

/-- The handler for an event. -/
def onEvent (h : ObserverHandlers) (d : Name) : Event → Run Unit
  | .beginUpdate m => h.beginUpdate d m
  | .endUpdate m => h.endUpdate d m
  | .beginLoad => h.beginLoad d
  | .endLoad => h.endLoad d
  | .contentStateChanged c s => h.contentStateChanged d c s
  | .documentStatesChanged s => h.documentStatesChanged d s
  | .styleSheetAdded s => h.styleSheetAdded d s
  | .styleSheetRemoved s => h.styleSheetRemoved d s
  | .styleSheetApplicableStateChanged s => h.styleSheetApplicableStateChanged d s
  | .styleRuleChanged s => h.styleRuleChanged d s
  | .styleRuleAdded s => h.styleRuleAdded d s
  | .styleRuleRemoved s => h.styleRuleRemoved d s
  | .bindToDocument c => h.binding.bindToDocument d c

/-- The handler for a notice; handlers of events have nothing to answer. -/
def on (h : ObserverHandlers) (d : Name) : Notice → Run Verdict
  | .event e => do
    h.onEvent d e
    pure .proceed
  | .script c p => h.binding.attemptToExecuteScript d c p

theorem onEvent_around (h : ObserverHandlers) (event : Name → Event → Run Unit → Run Unit)
    (script : Name → ContentId → ParserId → Run Verdict → Run Verdict) (d : Name) (e : Event) :
    (h.around event script).onEvent d e = event d e (h.onEvent d e) := by
  cases e <;> rfl

theorem onEvent_uniform (event : Name → Event → Run Unit)
    (script : Name → ContentId → ParserId → Run Verdict) (d : Name) (e : Event) :
    (uniform event script).onEvent d e = event d e :=
  onEvent_around {} _ _ d e

/-- Handlers that are chosen by the world in which they are called. -/
def choosing {α : Type} (choose : World → α) (h : α → ObserverHandlers) : ObserverHandlers :=
  uniform (fun d e => do (h (← Run.read choose)).onEvent d e)
    fun d c p => do (h (← Run.read choose)).binding.attemptToExecuteScript d c p

theorem on_choosing {α : Type} (choose : World → α) (h : α → ObserverHandlers) (d : Name)
    (n : Notice) (w : World) : (choosing choose h).on d n w = (h (choose w)).on d n w := by
  cases n with
  | event e => simp only [choosing, on, onEvent_uniform, Run.bind_apply, Run.read_apply]
  | script c p => rfl

/-- The handlers of an observer that defines none do nothing. -/
theorem on_default (d : Name) (n : Notice) : on {} d n = pure .proceed := by
  cases n with
  | event e => cases e <;> rfl
  | script c p => rfl

end ObserverHandlers

/-- Calls the handler for the event; tells whether the observer has one. -/
def Event.deliver (e : Event) (d o : Name) (h : ObserverHandlers) : Run Bool := do
  match e with
  | .beginUpdate m => h.beginUpdate d m
  | .endUpdate m => h.endUpdate d m
  | .beginLoad => h.beginLoad d
  | .endLoad => h.endLoad d
  | .contentStateChanged c s => h.contentStateChanged d c s
  | .documentStatesChanged s => h.documentStatesChanged d s
  | .styleSheetAdded s => h.styleSheetAdded d s
  | .styleSheetRemoved s => h.styleSheetRemoved d s
  | .styleSheetApplicableStateChanged s => h.styleSheetApplicableStateChanged d s
  | .styleRuleChanged s => h.styleRuleChanged d s
  | .styleRuleAdded s => h.styleRuleAdded d s
  | .styleRuleRemoved s => h.styleRuleRemoved d s
  | .bindToDocument c =>
    match ← h.asContentBinding o with
    | some b => b.bindToDocument d c
    | none => return false
  return true

/-- An observer without the extension has no handlers for bindings. -/
theorem Event.deliver_apply (e : Event) (d o : Name) (h : ObserverHandlers) (w : World) :
    e.deliver d o h w =
      if (w.observer o).supports e.kind then (h.onEvent d e >>= fun _ => pure true) w
      else (.ok false, w) := by
  cases e with
  | bindToDocument c =>
      cases hbinding : (w.observer o).hasBinding <;>
        simp [deliver, ObserverHandlers.asContentBinding, Run.bind_apply, Observer.supports,
          Event.kind, Kind.needsBinding, hbinding, ObserverHandlers.onEvent]
  | _ => rfl

/-- What handlers do: on each thread, what an observer is determines its handlers. -/
structure Handlers where
  of : Thread → Name → Role → ObserverHandlers

/-- The handler of an observer for a notice is called on a thread, for a document. -/
def Handlers.on (handle : Handlers) (t : Thread) (d o : Name) (n : Notice) : Run Verdict :=
  fun w => (handle.of t o (w.observer o).role).on d n w

instance : CoeFun Handlers fun _ => Thread → Name → Name → Notice → Run Verdict := ⟨Handlers.on⟩

theorem Handlers.on_event_apply (handle : Handlers) (t : Thread) (d o : Name) (e : Event)
    (w : World) :
    handle t d o (.event e) w =
      (((handle.of t o (w.observer o).role).onEvent d e w).1.map fun _ => .proceed,
        ((handle.of t o (w.observer o).role).onEvent d e w).2) :=
  Run.bind_pure_apply _ _ w

end ChangeNotice
