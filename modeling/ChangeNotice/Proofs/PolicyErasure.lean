import ChangeNotice.Proofs.Change

/-! # Worlds without their removal policies

A removal policy is written into a document or a dispatcher when it is made, and shows
in the journal: in the description of a pass, in the turns of observers that were not
called, in reports and in answers. Erasing the policies of a world puts the same policy
everywhere and no longer tells those whose entries were gone from those who were dead.
Two worlds that differ only by policies and their traces are the same when erased.

Whatever does not look at a policy does the same in an erased world: it commutes with
erasure.
-/

namespace ChangeNotice

/-! ## Erasure -/

def Config.erased (c : Config) : Config := { c with removal := .skip }

def Dispatcher.erased (d : Dispatcher) : Dispatcher := { d with removal := .skip }

def Document.erased (doc : Document) : Document := { doc with dispatcher := doc.dispatcher.erased }

def PassInfo.erased (p : PassInfo) : PassInfo := { p with removal := .skip }

/-- All who were skipped are counted together. -/
def Report.erased (r : Report) : Report := ⟨r.delivered, 0, r.skipped, r.unsupported⟩

def Answer.erased : Answer → Answer
  | documentCreated id config => documentCreated id config.erased
  | report r => report r.erased
  | dispatcher inFlight maxDepth _ => dispatcher inFlight maxDepth .skip
  | a => a

def Moment.erased : Moment → Moment
  | passEntered p slots => passEntered p.erased slots
  | invoking p o => invoking p.erased o
  | skipping p o | missing p o => missing p.erased o
  | passFinished p r => passFinished p.erased r.erased
  | passLeft p => passLeft p.erased
  | answered who label a => answered who label a.erased
  | m => m

def Operation.erased : Operation → Operation
  | createDocument name config => createDocument name config.erased
  | createDispatcher name document maxDepth _ => createDispatcher name document maxDepth .skip
  | operation => operation

namespace Step

mutual

def erased : Step → Step
  | perform label operation => perform label operation.erased
  | createRecorder label name binding verdict rules =>
    createRecorder label name binding verdict (erasedRules rules)
  | attempt label steps => attempt label (erasedSteps steps)
  | spawn label steps => spawn label (erasedSteps steps)
  | iterate label count steps => iterate label count (erasedSteps steps)
  | unusable label => unusable label
termination_by structural s => s

def erasedSteps : List Step → List Step
  | [] => []
  | s :: rest => s.erased :: erasedSteps rest
termination_by structural steps => steps

def erasedRules : List (Rule Step) → List (Rule Step)
  | [] => []
  | rule :: rest => erasedRule rule :: erasedRules rest
termination_by structural rules => rules

def erasedRule : Rule Step → Rule Step
  | ⟨kind, payload, limit, steps, fired⟩ => ⟨kind, payload, limit, erasedSteps steps, fired⟩
termination_by structural rule => rule

end

theorem erasedRules_eq (rules : List (Rule Step)) : erasedRules rules = rules.map erasedRule := by
  induction rules with
  | nil => rfl
  | cons rule rest ih => rw [erasedRules, ih, List.map_cons]

theorem label_erased (s : Step) : s.erased.label = s.label := by cases s <;> rfl

/-- How often a rule has fired has nothing to do with its steps. -/
theorem erasedRules_modify (rules : List (Rule Step)) (i : Nat) :
    erasedRules (rules.modify i fun rule => { rule with fired := rule.fired + 1 }) =
      (erasedRules rules).modify i fun rule => { rule with fired := rule.fired + 1 } := by
  rw [erasedRules_eq, erasedRules_eq]
  apply List.ext_getElem?
  intro j
  rw [List.getElem?_map, List.getElem?_modify, List.getElem?_modify, List.getElem?_map]
  cases rules[j]? with
  | none => rfl
  | some rule =>
      cases rule
      by_cases hij : i = j <;> simp [hij, erasedRule]

theorem fires_erasedRule (rule : Rule Step) (n : Notice) :
    (erasedRule rule).fires n = rule.fires n := by
  cases rule
  rfl

theorem steps_erasedRule (rule : Rule Step) : (erasedRule rule).steps = erasedSteps rule.steps := by
  cases rule
  rfl

end Step

def Recorder.erased (r : Recorder) : Recorder := { r with rules := Step.erasedRules r.rules }

def Role.erased : Role → Role
  | recorder r => recorder r.erased
  | role => role

def Observer.erased (o : Observer) : Observer := { o with role := o.role.erased }

theorem Document.erased_default : (default : Document).erased = default := rfl

theorem Dispatcher.erased_default : (default : Dispatcher).erased = default := rfl

theorem Observer.erased_default : (default : Observer).erased = default := rfl

/-- The world to somebody who does not know the removal policies. -/
def World.erased (w : World) : World :=
  { w with
    documents := w.documents.map Document.erased
    observers := w.observers.map Observer.erased
    dispatchers := w.dispatchers.map Dispatcher.erased
    past := w.past.map Moment.erased }

namespace World

variable (w : World) (o d : Name) (owner : Owner) (t : Thread)

/-! ## What an erased world shows -/

theorem erased_record (m : Moment) : (w.record m).erased = w.erased.record m.erased := rfl

@[simp]
theorem document_erased : w.erased.document d = (w.document d).erased :=
  Table.get_map Document.erased_default w.documents d

@[simp]
theorem contains_documents_erased : w.erased.documents.contains d = w.documents.contains d :=
  Table.contains_map Document.erased w.documents d

@[simp]
theorem observer_erased : w.erased.observer o = (w.observer o).erased :=
  Table.get_map Observer.erased_default w.observers o

@[simp]
theorem contains_observers_erased : w.erased.observers.contains o = w.observers.contains o :=
  Table.contains_map Observer.erased w.observers o

@[simp]
theorem dispatcher_erased (number : Nat) :
    w.erased.dispatchers.get number = (w.dispatchers.get number).erased :=
  Catalog.get_map Dispatcher.erased_default w.dispatchers number

@[simp]
theorem isAlive_erased : w.erased.isAlive = w.isAlive := by
  funext o
  rw [isAlive, observer_erased]
  rfl

@[simp]
theorem isOwned_erased : w.erased.isOwned o = w.isOwned o := by
  rw [isOwned, observer_erased]
  rfl

@[simp]
theorem registry_erased : w.erased.registry owner = w.registry owner := by
  cases owner with
  | document d => rw [registry, document_erased]; rfl
  | standalone number => rfl

@[simp]
theorem scope_erased : w.erased.scope owner = w.scope owner := by
  cases owner with
  | document d => rw [scope, document_erased]; rfl
  | standalone number => rfl

theorem callOf_erased (n : Notice) : w.erased.callOf t d o n = w.callOf t d o n := by
  unfold callOf
  rw [document_erased]
  rfl

theorem sink?_erased : (w.erased.observer o).sink? = (w.observer o).sink? := by
  rw [observer_erased]
  unfold Observer.sink? Observer.erased Role.erased
  cases (w.observer o).role <;> rfl

theorem hasBinding_erased : (w.erased.observer o).hasBinding = (w.observer o).hasBinding := by
  rw [observer_erased]
  unfold Observer.hasBinding Observer.erased Role.erased
  cases (w.observer o).role <;> rfl

theorem supports_erased (kind : Kind) :
    (w.erased.observer o).supports kind = (w.observer o).supports kind := by
  unfold Observer.supports
  rw [hasBinding_erased]

/-! ## What commutes with erasure -/

theorem erased_updateDocument {f g : Document → Document}
    (h : (f (w.document d)).erased = g (w.document d).erased) :
    (w.updateDocument d f).erased = w.erased.updateDocument d g :=
  congrArg (fun documents => { w.erased with documents := documents })
    (Table.map_update Document.erased_default w.documents d h)

theorem erased_updateObserver {f g : Observer → Observer}
    (h : (f (w.observer o)).erased = g (w.observer o).erased) :
    (w.updateObserver o f).erased = w.erased.updateObserver o g :=
  congrArg (fun observers => { w.erased with observers := observers })
    (Table.map_update Observer.erased_default w.observers o h)

theorem erased_updateDispatcher {number : Nat} {f g : Dispatcher → Dispatcher}
    (h : (f (w.dispatchers.get number)).erased = g (w.dispatchers.get number).erased) :
    { w with dispatchers := w.dispatchers.update number f }.erased =
      { w.erased with dispatchers := w.erased.dispatchers.update number g } :=
  congrArg (fun dispatchers => { w.erased with dispatchers := dispatchers })
    (Catalog.map_update Dispatcher.erased_default w.dispatchers number h)

theorem erased_createDocument (id : DocumentId) (config : Config) :
    { w with documents := w.documents.set d (.new id config) }.erased =
      { w.erased with documents := w.erased.documents.set d (.new id config.erased) } :=
  congrArg (fun documents => { w.erased with documents := documents })
    (Table.map_set Document.erased w.documents d (.new id config))

theorem erased_createObserver (role : Role) :
    { w with observers := w.observers.set o (.new role) }.erased =
      { w.erased with observers := w.erased.observers.set o (.new role.erased) } :=
  congrArg (fun observers => { w.erased with observers := observers })
    (Table.map_set Observer.erased w.observers o (.new role))

theorem erased_createDispatcher (document : DocumentId) (maxDepth : Nat) (removal : Removal) :
    { w with dispatchers := w.dispatchers.make d ⟨document, maxDepth, removal, .empty⟩ }.erased =
      { w.erased with
        dispatchers := w.erased.dispatchers.make d ⟨document, maxDepth, .skip, .empty⟩ } :=
  congrArg (fun dispatchers => { w.erased with dispatchers := dispatchers })
    (Catalog.map_make Dispatcher.erased w.dispatchers d _)

theorem erased_hold : (w.hold o).erased = w.erased.hold o := by
  unfold hold
  rw [erased_record]
  exact congrArg (record · _) (erased_updateObserver w o (by rfl))

theorem erased_freeIfDead : (w.freeIfDead o).erased = w.erased.freeIfDead o := by
  unfold freeIfDead
  rw [isAlive_erased]
  split <;> rfl

theorem erased_unhold : (w.unhold o).erased = w.erased.unhold o := by
  unfold unhold
  rw [erased_freeIfDead, erased_record]
  exact congrArg (fun v => (record v _).freeIfDead o) (erased_updateObserver w o (by rfl))

theorem erased_disown : (w.disown o).erased = w.erased.disown o := by
  unfold disown
  rw [erased_freeIfDead, erased_record]
  exact congrArg (fun v => (record v _).freeIfDead o) (erased_updateObserver w o (by rfl))

theorem erased_updateSink (f : Sink → Sink) :
    (w.updateSink o f).erased = w.erased.updateSink o f := by
  unfold updateSink
  rw [observer_erased]
  unfold Observer.erased Role.erased
  cases hrole : (w.observer o).role with
  | recorder r => rfl
  | quiet binding => rfl
  | sink s => exact erased_updateObserver w o rfl

theorem erased_readStream (s : Sink) (events : List Recorded) :
    (w.readStream o s events).erased = w.erased.readStream o s events := by
  unfold readStream
  rw [erased_record, erased_updateSink]
  rfl

theorem erased_updateRegistry (f : Registry → Registry) :
    (w.updateRegistry owner f).erased = w.erased.updateRegistry owner f := by
  cases owner with
  | document d => exact erased_updateDocument w d rfl
  | standalone number => rfl

theorem erased_prune : (w.prune owner).erased = w.erased.prune owner := by
  unfold prune
  rw [erased_updateRegistry, isAlive_erased]

theorem erased_register (key : Name) :
    (w.register owner key).erased = w.erased.register owner key := by
  unfold register
  simp only [registry_erased, isAlive_erased]
  split
  · exact erased_updateRegistry w owner _
  · rw [erased_record, erased_updateRegistry]
    rfl

theorem erased_unregister (key : Name) :
    (w.unregister owner key).erased = w.erased.unregister owner key := by
  unfold unregister
  rw [registry_erased]
  split
  · rw [erased_record, erased_updateRegistry]
    rfl
  · rfl

theorem erased_enterPass (p : PassInfo) : (w.enterPass p).erased = w.erased.enterPass p.erased := by
  unfold enterPass
  simp only [erased_record]
  rw [show p.erased.registry = p.registry from rfl, ← erased_prune, registry_erased]
  rfl

theorem erased_takeSlot (n : Notice) (left : Dispatcher) :
    (w.takeSlot d t n left).erased = w.erased.takeSlot d t n left.erased := by
  unfold takeSlot
  rw [erased_record]
  exact congrArg (record · _) (erased_updateDocument w d (by rfl))

theorem erased_releaseSlot : (w.releaseSlot d t).erased = w.erased.releaseSlot d t := by
  unfold releaseSlot
  rw [erased_record]
  exact congrArg (record · _) (erased_updateDocument w d (by rfl))

theorem erased_setLoad (l : LoadState) : (w.setLoad d l).erased = w.erased.setLoad d l :=
  erased_updateDocument w d rfl

theorem erased_setScope (s : ScopeState) :
    (w.setScope owner s).erased = w.erased.setScope owner s := by
  cases owner with
  | document d => exact erased_updateDocument w d rfl
  | standalone number => rfl

theorem erased_openScope (m : UpdateMask) :
    (w.openScope owner m).erased = w.erased.openScope owner m := by
  unfold openScope
  simp only [erased_record, erased_setScope, scope_erased]
  rfl

theorem erased_prepare (n : Notice) : (w.prepare d n).erased = w.erased.prepare d n := by
  have hload : (w.erased.document d).load = (w.document d).load := by
    rw [document_erased]
    rfl
  have hid : (w.erased.document d).id = (w.document d).id := by
    rw [document_erased]
    rfl
  unfold prepare
  split
  · exact erased_openScope w _ _
  · rw [erased_setLoad, hload, hid]
    split <;> rfl
  · rw [erased_setLoad, hload, hid]
    split <;> rfl
  · rfl

theorem erased_closeScope (m : UpdateMask) (s : ScopeState) :
    (w.closeScope owner m s).erased = w.erased.closeScope owner m s := by
  unfold closeScope
  simp only [scope_erased]
  split
  · rw [erased_record, erased_setScope]
    rfl
  · rw [erased_record, erased_setScope]
    rfl

theorem erased_makeGuard (name : Name) (dispatcher : Nat) (left : Dispatcher) (depth : Nat) :
    (w.makeGuard name dispatcher left t depth).erased =
      w.erased.makeGuard name dispatcher left.erased t depth :=
  erased_updateDispatcher { w with guards := w.guards.make name ⟨dispatcher, t, depth, 1⟩ } (by rfl)

theorem erased_releaseIfFree (guard : Nat) :
    (w.releaseIfFree guard).erased = w.erased.releaseIfFree guard := by
  have hguard : w.erased.guards.get guard = w.guards.get guard := rfl
  unfold releaseIfFree
  simp only [hguard]
  split
  · exact erased_updateDispatcher w rfl
  · rfl

theorem erased_leaveGuard (guard : Nat) :
    (w.leaveGuard guard).erased = w.erased.leaveGuard guard := by
  unfold leaveGuard
  rw [erased_releaseIfFree]
  rfl

theorem erased_offer (id : DocumentId) (e : Event) :
    (Scenario.offer o id e w).erased = Scenario.offer o id e w.erased := by
  unfold Scenario.offer
  rw [sink?_erased]
  cases (w.observer o).sink? with
  | none => rfl
  | some s =>
      simp only
      split
      · rw [erased_record, erased_record, erased_updateSink]
        rfl
      · rw [erased_record, erased_updateSink]
        rfl

/-- The recorders of two worlds that show the same are changed alike. -/
theorem erased_updateRecorder {w w' : World} {f f' : Recorder → Recorder}
    (halike : w.erased = w'.erased)
    (hf : ∀ r r', r.erased = r'.erased → (f r).erased = (f' r').erased) :
    (w.updateRecorder o f).erased = (w'.updateRecorder o f').erased := by
  have hrole : (w.observer o).role.erased = (w'.observer o).role.erased := by
    have hobserver : (w.observer o).erased = (w'.observer o).erased := by
      rw [← observer_erased, halike, observer_erased]
    exact congrArg Observer.role hobserver
  unfold updateRecorder
  cases h : (w.observer o).role with
  | recorder r =>
      cases h' : (w'.observer o).role with
      | recorder r' =>
          rw [h, h'] at hrole
          have hsame := hf r r' (Role.recorder.inj hrole)
          have hleft := erased_updateObserver w o (f := fun x => { x with role := .recorder (f r) })
            (g := fun x => { x with role := .recorder (f r).erased }) (by rfl)
          have hright :=
            erased_updateObserver w' o (f := fun x => { x with role := .recorder (f' r') })
            (g := fun x => { x with role := .recorder (f' r').erased }) (by rfl)
          simp only
          rw [hleft, hright, halike, hsame]
      | _ =>
          rw [h, h'] at hrole
          exact nomatch hrole
  | _ =>
      cases h' : (w'.observer o).role with
      | recorder r' =>
          rw [h, h'] at hrole
          exact nomatch hrole
      | _ => exact halike

end World

end ChangeNotice
