import ChangeNotice.Scenario.Perform

/-! # Steps and scripted handlers

Steps call handlers and handlers run steps. Steps are run over any handlers; the
handlers that run steps are then tied to themselves, one level of nesting at a
time, up to a bound.
-/

namespace ChangeNotice

namespace Scenario

/-- The answer of steps whose panics are caught. -/
def caught : Option String → Answer
  | none => .ok
  | some message => .failed (.panicked message)

mutual

/-- Runs a step. -/
def runStep (handle : Handlers) (c : Context) : Step → Run Answer
  | .perform _ operation => perform handle c operation
  | .createRecorder _ name binding verdict rules =>
    createObserver name (.recorder ⟨binding, verdict, rules⟩)
  | .attempt _ steps => do return caught (← Run.catching (runSteps handle c steps))
  | .spawn _ steps => do
    Run.change fun w => { w with threads := w.threads + 1 }
    let t ← Run.read (·.threads)
    return caught (← Run.catching (runSteps handle { c with thread := t } steps))
  | .iterate _ count steps => do
    Run.times count (runSteps handle c steps)
    pure .ok
  | .unusable _ => pure unusable
termination_by structural s => s

/-- Runs nested steps in turn; each that returns is written down. -/
def runSteps (handle : Handlers) (c : Context) : List Step → Run Unit
  | [] => pure ()
  | s :: rest => do
    let answer ← runStep handle c s
    Run.note (.answered c.observer s.label answer)
    runSteps handle c rest
termination_by structural steps => steps

end

/-- The rules of an observer, none if it does not record. -/
def rulesOf (w : World) (o : Name) : List (Rule Step) :=
  match (w.observer o).role with
  | .recorder r => r.rules
  | _ => []

/-- Counts a firing of a rule. -/
def countFiring (o : Name) (i : Nat) (w : World) : World :=
  w.updateRecorder o fun r =>
    { r with rules := r.rules.modify i fun rule => { rule with fired := rule.fired + 1 } }

/-- Fires a rule if it applies now. -/
def fireRule (run : List Step → Run Unit) (o : Name) (n : Notice) (i : Nat) : Run Unit := do
  match (← Run.read (rulesOf · o))[i]? with
  | some rule =>
    if rule.fires n then do
      Run.change (countFiring o i)
      run rule.steps
  | none => pure ()

/-- A sink keeps an event, or counts its loss. -/
def offer (sink : Name) (id : DocumentId) (e : Event) (w : World) : World :=
  match (w.observer sink).sink? with
  | none => w
  | some s =>
    let (s, offered) := s.offer id e
    let w := (w.updateSink sink fun _ => s).record (.offered sink id e offered)
    match offered with
    | .lost position true => w.record (.sinkFull sink id position)
    | _ => w

/-- What a sink is given, it puts together into an event again. -/
def sinkHandlers (sink : Name) : ObserverHandlers where
  beginUpdate d m := record d (.beginUpdate m)
  endUpdate d m := record d (.endUpdate m)
  beginLoad d := record d .beginLoad
  endLoad d := record d .endLoad
  contentStateChanged d c s := record d (.contentStateChanged c s)
  documentStatesChanged d s := record d (.documentStatesChanged s)
  styleSheetAdded d s := record d (.styleSheetAdded s)
  styleSheetRemoved d s := record d (.styleSheetRemoved s)
  styleSheetApplicableStateChanged d s := record d (.styleSheetApplicableStateChanged s)
  styleRuleChanged d s := record d (.styleRuleChanged s)
  styleRuleAdded d s := record d (.styleRuleAdded s)
  styleRuleRemoved d s := record d (.styleRuleRemoved s)
  binding := { bindToDocument := fun d c => record d (.bindToDocument c) }
where
  record (d : Name) (e : Event) : Run Unit :=
    Run.change fun w => offer sink (w.document d).id e w

/-- What is put together is the event that was taken apart. -/
theorem sinkHandlers_on (sink d : Name) (e : Event) :
    (sinkHandlers sink).on d (.event e) = (do
      Run.change fun w => offer sink (w.document d).id e w
      pure .proceed) := by
  cases e <;> rfl

/-- An observer that records runs the steps of its rules, one by one. -/
def runRules (nested : Handlers) (t : Thread) (o : Name) (r : Recorder) (d : Name) (n : Notice) :
    Run Unit :=
  Run.each (fireRule (runSteps nested ⟨t, some o, some d⟩) o n) (List.range r.rules.length)

/-- The handlers of observers that record, given how nested handlers run; others do nothing. -/
def scripted (nested : Handlers) : Handlers where
  of t o
    | .recorder r => .uniform (fun d e => runRules nested t o r d (.event e)) fun d c p => do
      runRules nested t o r d (.script c p)
      pure r.verdict
    | _ => {}

theorem scripted_eq (nested : Handlers) (t : Thread) (d o : Name) (n : Notice) :
    scripted nested t d o n = (do
      match (← Run.read (·.observer o)).role with
      | .recorder r =>
        runRules nested t o r d n
        pure (n.answer r.verdict)
      | _ => pure .proceed) := by
  funext w
  simp only [Handlers.on, scripted, Run.bind_apply, Run.read_apply]
  cases (w.observer o).role with
  | recorder r =>
      cases n with
      | event e => simp only [ObserverHandlers.on, ObserverHandlers.onEvent_uniform, Notice.answer]
      | script c p => rfl
  | _ => simp only [ObserverHandlers.on_default]

/-- Sinks have handlers of their own, whatever clients do. -/
def withSinks (clients : Handlers) : Handlers where
  of t o
    | .sink _ => sinkHandlers o
    | role => clients.of t o role

theorem withSinks_eq (clients : Handlers) (t : Thread) (d o : Name) (n : Notice) :
    withSinks clients t d o n = (do
      match (← Run.read (·.observer o)).role with
      | .sink _ => (sinkHandlers o).on d n
      | _ => clients t d o n) := by
  funext w
  simp only [Handlers.on, withSinks, Run.bind_apply, Run.read_apply]
  cases hrole : (w.observer o).role with
  | sink s => rfl
  | _ => simp only [Handlers.on, hrole]

/-- What one handler does, given how nested handlers run. -/
def handleOnce (nested : Handlers) : Handlers := withSinks (scripted nested)

theorem handleOnce_eq (nested : Handlers) (t : Thread) (d o : Name) (n : Notice) :
    handleOnce nested t d o n = (do
      match (← Run.read (·.observer o)).role with
      | .quiet _ => pure .proceed
      | .sink _ => (sinkHandlers o).on d n
      | .recorder r =>
        runRules nested t o r d n
        pure (n.answer r.verdict)) := by
  rw [handleOnce, withSinks_eq, scripted_eq]
  funext w
  simp only [Run.bind_apply, Run.read_apply]
  cases hrole : (w.observer o).role <;> simp [Run.bind_apply, hrole]

/-- Handlers that may be nested this deep. -/
def respond : Nat → Handlers
  | 0 =>
    { of := fun _ _ _ =>
        .uniform (fun _ _ => Run.unwind .exhausted) fun _ _ _ => Run.unwind .exhausted }
  | depth + 1 => handleOnce (respond depth)

theorem respond_zero (t : Thread) (d o : Name) (n : Notice) :
    respond 0 t d o n = Run.unwind .exhausted := by
  cases n with
  | event e => cases e <;> rfl
  | script c p => rfl

end Scenario

end ChangeNotice
