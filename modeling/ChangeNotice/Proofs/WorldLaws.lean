import ChangeNotice.Scenario.Session
import Mathlib.Logic.Relation
import Mathlib.Data.List.Basic
import Mathlib.Data.List.Nodup

/-! # What each operation leaves alone

Look-up laws for the operations of a world. Every operation changes one document,
one observer or one registry and writes the journal; the laws say so component
by component, so that later proofs never open an operation.
-/

namespace ChangeNotice

namespace Dispatcher

variable {dispatcher left : Dispatcher} {t : Thread} {depth : Nat}

theorem enter?_of_full (h : dispatcher.isFull t = true) : dispatcher.enter? t = none := by
  simp [enter?, h]

theorem enter?_of_room (h : dispatcher.isFull t = false) :
    dispatcher.enter? t = some (dispatcher.inFlight t + 1, dispatcher.take t) := by
  simp [enter?, h]

theorem of_enter? (h : dispatcher.enter? t = some (depth, left)) :
    dispatcher.isFull t = false ∧ left = dispatcher.take t := by
  cases hfull : dispatcher.isFull t with
  | true => simp [enter?_of_full hfull] at h
  | false =>
      rw [enter?_of_room hfull, Option.some.injEq, Prod.mk.injEq] at h
      exact ⟨rfl, h.2.symm⟩

end Dispatcher

namespace World

variable (w : World) (m : Moment) (o x d : Name) (owner other : Owner)

/-! ## The journal -/

@[simp]
theorem past_record : (w.record m).past = m :: w.past := rfl

@[simp]
theorem passes_record : (w.record m).passes = w.passes := rfl

@[simp]
theorem registry_record : (w.record m).registry owner = w.registry owner := by
  cases owner <;> rfl

@[simp]
theorem isAlive_record : (w.record m).isAlive o = w.isAlive o := rfl

@[simp]
theorem isOwned_record : (w.record m).isOwned o = w.isOwned o := rfl

@[simp]
theorem documents_record : (w.record m).documents = w.documents := rfl

@[simp]
theorem observers_record : (w.record m).observers = w.observers := rfl

@[simp]
theorem registries_record : (w.record m).registries = w.registries := rfl

/-! ## Documents -/

variable (f : Document → Document)

@[simp]
theorem past_updateDocument : (w.updateDocument d f).past = w.past := rfl

@[simp]
theorem passes_updateDocument : (w.updateDocument d f).passes = w.passes := rfl

@[simp]
theorem observer_updateDocument : (w.updateDocument d f).observer o = w.observer o := rfl

@[simp]
theorem isAlive_updateDocument : (w.updateDocument d f).isAlive o = w.isAlive o := rfl

@[simp]
theorem observers_updateDocument : (w.updateDocument d f).observers = w.observers := rfl

@[simp]
theorem registries_updateDocument : (w.updateDocument d f).registries = w.registries := rfl

@[simp]
theorem contains_updateDocument :
    (w.updateDocument d f).documents.contains x = (decide (x = d) || w.documents.contains x) :=
  Table.contains_update w.documents d x f

/-! ## Observers -/

variable (g : Observer → Observer)

@[simp]
theorem past_updateObserver : (w.updateObserver o g).past = w.past := rfl

@[simp]
theorem passes_updateObserver : (w.updateObserver o g).passes = w.passes := rfl

@[simp]
theorem document_updateObserver : (w.updateObserver o g).document d = w.document d := rfl

@[simp]
theorem documents_updateObserver : (w.updateObserver o g).documents = w.documents := rfl

@[simp]
theorem registries_updateObserver : (w.updateObserver o g).registries = w.registries := rfl

@[simp]
theorem registry_updateObserver : (w.updateObserver o g).registry owner = w.registry owner := by
  cases owner <;> rfl

@[simp]
theorem contains_updateObserver :
    (w.updateObserver o g).observers.contains x = (decide (x = o) || w.observers.contains x) :=
  Table.contains_update w.observers o x g

/-- The default observer is dead, so whoever is alive has been made. -/
theorem contains_of_isAlive {w : World} {o : Name} (h : w.isAlive o = true) :
    w.observers.contains o = true := by
  by_contra hnot
  have hdefault := Table.get_of_not_contains (Bool.not_eq_true _ ▸ hnot)
  have hdead : w.isAlive o = (default : Observer).isAlive := congrArg Observer.isAlive hdefault
  rw [hdead] at h
  exact absurd h (by decide)

/-- Whoever is more than a quiet observer has been made. -/
theorem contains_of_role {w : World} {o : Name} (h : (w.observer o).role ≠ .quiet false) :
    w.observers.contains o = true := by
  by_contra hnot
  refine h ?_
  rw [observer, Table.get_of_not_contains (by simpa using hnot)]
  rfl

theorem isAlive_of_isOwned {w : World} {o : Name} (h : w.isOwned o = true) :
    w.isAlive o = true := by
  have hown : (w.observer o).owned = true := h
  simp [isAlive, Observer.isAlive, hown]

/-! ## Life of observers -/

@[simp]
theorem past_hold : (w.hold o).past = .held o :: w.past := rfl

@[simp]
theorem passes_hold : (w.hold o).passes = w.passes := rfl

@[simp]
theorem document_hold : (w.hold o).document d = w.document d := rfl

@[simp]
theorem documents_hold : (w.hold o).documents = w.documents := rfl

@[simp]
theorem registries_hold : (w.hold o).registries = w.registries := rfl

@[simp]
theorem registry_hold : (w.hold o).registry owner = w.registry owner := by
  cases owner <;> rfl

@[simp]
theorem observer_hold :
    (w.hold o).observer x =
      if x = o then { w.observer o with holds := (w.observer o).holds + 1 } else w.observer x := by
  simp [hold]

@[simp]
theorem contains_hold :
    (w.hold o).observers.contains x = (decide (x = o) || w.observers.contains x) := by
  simp [hold]

/-- Holding revives nobody but the one who is held. -/
theorem isAlive_hold : (w.hold o).isAlive x = (decide (x = o) || w.isAlive x) := by
  by_cases h : x = o <;> simp [isAlive, Observer.isAlive, h]

theorem freeIfDead_eq :
    w.freeIfDead o = { w with past := if w.isAlive o then w.past else .freed o :: w.past } := by
  unfold freeIfDead record
  split <;> rfl

theorem unhold_eq : w.unhold o =
    let v := w.updateObserver o fun a => { a with holds := a.holds - 1 }
    { v with
      past := if v.isAlive o then .unheld o :: w.past else .freed o :: .unheld o :: w.past } := by
  unfold unhold
  rw [freeIfDead_eq]
  rfl

theorem disown_eq : w.disown o =
    let v := w.updateObserver o fun a => { a with owned := false }
    { v with
      past := if v.isAlive o then .disowned o :: w.past
        else .freed o :: .disowned o :: w.past } := by
  unfold disown
  rw [freeIfDead_eq]
  rfl

@[simp]
theorem observer_unhold :
    (w.unhold o).observer x =
      if x = o then { w.observer o with holds := (w.observer o).holds - 1 } else w.observer x := by
  rw [unhold_eq]
  exact observer_updateObserver w o x _

@[simp]
theorem observer_disown :
    (w.disown o).observer x =
      if x = o then { w.observer o with owned := false } else w.observer x := by
  rw [disown_eq]
  exact observer_updateObserver w o x _

theorem past_unhold : (w.unhold o).past =
    if (w.unhold o).isAlive o then .unheld o :: w.past else .freed o :: .unheld o :: w.past := by
  rw [unhold_eq]
  rfl

theorem past_disown : (w.disown o).past =
    if (w.disown o).isAlive o then .disowned o :: w.past
    else .freed o :: .disowned o :: w.past := by
  rw [disown_eq]
  rfl

@[simp]
theorem passes_unhold : (w.unhold o).passes = w.passes := by rw [unhold_eq]; rfl

@[simp]
theorem passes_disown : (w.disown o).passes = w.passes := by rw [disown_eq]; rfl

@[simp]
theorem document_unhold : (w.unhold o).document d = w.document d := by rw [unhold_eq]; rfl

@[simp]
theorem document_disown : (w.disown o).document d = w.document d := by rw [disown_eq]; rfl

@[simp]
theorem documents_unhold : (w.unhold o).documents = w.documents := by rw [unhold_eq]; rfl

@[simp]
theorem documents_disown : (w.disown o).documents = w.documents := by rw [disown_eq]; rfl

@[simp]
theorem registries_unhold : (w.unhold o).registries = w.registries := by rw [unhold_eq]; rfl

@[simp]
theorem registries_disown : (w.disown o).registries = w.registries := by rw [disown_eq]; rfl

@[simp]
theorem registry_unhold : (w.unhold o).registry owner = w.registry owner := by
  rw [unhold_eq]
  cases owner <;> rfl

@[simp]
theorem registry_disown : (w.disown o).registry owner = w.registry owner := by
  rw [disown_eq]
  cases owner <;> rfl

@[simp]
theorem contains_unhold :
    (w.unhold o).observers.contains x = (decide (x = o) || w.observers.contains x) := by
  rw [unhold_eq]
  exact contains_updateObserver w o x _

@[simp]
theorem contains_disown :
    (w.disown o).observers.contains x = (decide (x = o) || w.observers.contains x) := by
  rw [disown_eq]
  exact contains_updateObserver w o x _

theorem past_updateSink (f : Sink → Sink) : (w.updateSink o f).past = w.past := by
  unfold updateSink
  split <;> rfl

theorem past_updateRecorder (f : Recorder → Recorder) : (w.updateRecorder o f).past = w.past := by
  unfold updateRecorder
  split <;> rfl

theorem sink?_updateSink (f : Sink → Sink) :
    ((w.updateSink o f).observer x).sink? =
      if x = o then (w.observer o).sink?.map f else (w.observer x).sink? := by
  unfold updateSink
  split
  next s hrole =>
    rw [observer_updateObserver]
    split <;> simp [Observer.sink?, hrole]
  next hrole =>
    have hnone : (w.observer o).sink? = none := by
      unfold Observer.sink?
      split
      next s hsink => exact absurd hsink (hrole s)
      next => rfl
    split
    next heq => rw [heq, hnone, Option.map_none]
    next => rfl

theorem sink?_updateRecorder (f : Recorder → Recorder) :
    ((w.updateRecorder o f).observer x).sink? = (w.observer x).sink? := by
  unfold updateRecorder
  split
  next r hrole =>
    rw [observer_updateObserver]
    split
    next heq => simp [Observer.sink?, heq, hrole]
    next => rfl
  next => rfl

/-! ## Registries -/

variable (change : Registry → Registry) (key : Name)

@[simp]
theorem registry_updateRegistry :
    (w.updateRegistry owner change).registry other =
      if other = owner then change (w.registry owner) else w.registry other := by
  cases owner with
  | document d =>
      cases other with
      | document d' =>
          by_cases h : d' = d <;> simp [updateRegistry, registry, h]
      | standalone number' => simp [updateRegistry, registry, updateDocument]
  | standalone number =>
      cases other with
      | document d' => simp [updateRegistry, registry, document]
      | standalone number' => simp [updateRegistry, registry]

@[simp]
theorem past_updateRegistry : (w.updateRegistry owner change).past = w.past := by
  cases owner <;> rfl

@[simp]
theorem passes_updateRegistry : (w.updateRegistry owner change).passes = w.passes := by
  cases owner <;> rfl

@[simp]
theorem observers_updateRegistry : (w.updateRegistry owner change).observers = w.observers := by
  cases owner <;> rfl

@[simp]
theorem observer_updateRegistry : (w.updateRegistry owner change).observer o = w.observer o := by
  cases owner <;> rfl

@[simp]
theorem isAlive_updateRegistry : (w.updateRegistry owner change).isAlive o = w.isAlive o := by
  cases owner <;> rfl

@[simp]
theorem scope_updateRegistry :
    ((w.updateRegistry owner change).document d).scope = (w.document d).scope := by
  cases owner with
  | document d' =>
      by_cases h : d = d' <;> simp [updateRegistry, h]
  | standalone number => rfl

@[simp]
theorem dispatcher_updateRegistry :
    ((w.updateRegistry owner change).document d).dispatcher = (w.document d).dispatcher := by
  cases owner with
  | document d' =>
      by_cases h : d = d' <;> simp [updateRegistry, h]
  | standalone number => rfl

@[simp]
theorem number?_updateRegistry :
    (w.updateRegistry owner change).registries.number? x = w.registries.number? x := by
  cases owner <;> rfl

@[simp]
theorem made_updateRegistry :
    (w.updateRegistry owner change).registries.made = w.registries.made := by
  cases owner <;> rfl

theorem contains_updateRegistry {w : World} {owner : Owner} {change : Registry → Registry}
    {x : Name}
    (h : w.documents.contains x = true) :
    (w.updateRegistry owner change).documents.contains x = true := by
  cases owner <;> simp [updateRegistry, h]

/-! ## Slots, scopes and loads of a document -/

variable (t : Thread) (n : Notice) (left : Dispatcher) (mask : UpdateMask) (s : ScopeState)
  (load : LoadState)

/-- An operation that works on one document apart from its registry, and on the journal. -/
structure ActsOn (d : Name) (w w' : World) : Prop where
  observers : w'.observers = w.observers
  registries : w'.registries = w.registries
  passes : w'.passes = w.passes
  elsewhere : ∀ d', d' ≠ d → w'.document d' = w.document d'
  registry : (w'.document d).registry = (w.document d).registry
  contains : ∀ d', w.documents.contains d' = true → w'.documents.contains d' = true

namespace ActsOn

variable {d : Name} {w w' w'' : World}

theorem refl (d : Name) (w : World) : ActsOn d w w :=
  ⟨rfl, rfl, rfl, fun _ _ => rfl, rfl, fun _ h => h⟩

theorem trans (h : ActsOn d w w') (h' : ActsOn d w' w'') : ActsOn d w w'' where
  observers := h'.observers.trans h.observers
  registries := h'.registries.trans h.registries
  passes := h'.passes.trans h.passes
  elsewhere d' hne := (h'.elsewhere d' hne).trans (h.elsewhere d' hne)
  registry := h'.registry.trans h.registry
  contains d' hd := h'.contains d' (h.contains d' hd)

theorem record (h : ActsOn d w w') (m : Moment) : ActsOn d w (w'.record m) :=
  h.trans ⟨rfl, rfl, rfl, fun _ _ => rfl, rfl, fun _ h => h⟩

theorem updateDocument {f : Document → Document} (hf : ∀ doc, (f doc).registry = doc.registry) :
    ActsOn d w (w.updateDocument d f) where
  observers := rfl
  registries := rfl
  passes := rfl
  elsewhere d' hne := by rw [document_updateDocument, if_neg hne]
  registry := by rw [document_updateDocument, if_pos rfl, hf]
  contains d' hd := by rw [contains_updateDocument, hd, Bool.or_true]

theorem observer (h : ActsOn d w w') (o : Name) : w'.observer o = w.observer o := by
  unfold World.observer
  rw [h.observers]

theorem isAlive (h : ActsOn d w w') : w'.isAlive = w.isAlive := by
  funext o
  exact congrArg Observer.isAlive (h.observer o)

theorem registry_eq (h : ActsOn d w w') (owner : Owner) : w'.registry owner = w.registry owner := by
  cases owner with
  | document d' =>
      by_cases heq : d' = d
      · subst heq
        exact h.registry
      · exact congrArg Document.registry (h.elsewhere d' heq)
  | standalone number =>
      change w'.registries.get number = w.registries.get number
      rw [h.registries]

end ActsOn

theorem takeSlot_actsOn : ActsOn d w (w.takeSlot d t n left) := by
  apply ActsOn.record
  apply ActsOn.updateDocument
  intro doc
  rfl

theorem releaseSlot_actsOn : ActsOn d w (w.releaseSlot d t) := by
  apply ActsOn.record
  apply ActsOn.updateDocument
  intro doc
  rfl

theorem setLoad_actsOn : ActsOn d w (w.setLoad d load) := by
  apply ActsOn.updateDocument
  intro doc
  rfl

theorem openScope_actsOn : ActsOn d w (w.openScope (.document d) mask) := by
  apply ActsOn.record
  apply ActsOn.updateDocument
  intro doc
  rfl

theorem closeScope_actsOn : ActsOn d w (w.closeScope (.document d) mask s) := by
  apply ActsOn.record
  refine ActsOn.trans ?_ (ActsOn.updateDocument ?_)
  · split
    · exact .refl d w
    · exact (ActsOn.refl d w).record _
  · intro doc
    rfl

end World

end ChangeNotice
