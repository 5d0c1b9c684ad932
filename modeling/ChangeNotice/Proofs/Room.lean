import ChangeNotice.Proofs.Composition
import ChangeNotice.Scenario.Respond

/-! # Room for notifications

How many more notifications can be nested on one thread is the sum of the slots
that the documents have left for it. A notification takes one of them, and no step
adds any that does not make a document.

A step is tame if all that it does stays on its thread and reaches handlers only
through the notifications of documents. In a tame world all handlers do tame steps.
-/

namespace ChangeNotice

open World

/-! ## Tame steps -/

namespace Step

mutual

/-- What the step does is tame, and so are the handlers of the observers that it makes. -/
def isTame : Step → Bool
  | perform _ operation => operation.isTame
  | createRecorder _ _ _ _ rules => tameRules rules
  | attempt _ steps => tameSteps steps
  | spawn _ _ => false
  | iterate _ _ steps => tameSteps steps
  | unusable _ => true
termination_by structural s => s

def tameSteps : List Step → Bool
  | [] => true
  | s :: rest => s.isTame && tameSteps rest
termination_by structural steps => steps

def tameRules : List (Rule Step) → Bool
  | [] => true
  | rule :: rest => tameRule rule && tameRules rest
termination_by structural rules => rules

def tameRule : Rule Step → Bool
  | ⟨_, _, _, steps, _⟩ => tameSteps steps
termination_by structural rule => rule

end

theorem tameRule_eq (rule : Rule Step) : tameRule rule = tameSteps rule.steps := by
  cases rule
  rfl

theorem tameRules_iff {rules : List (Rule Step)} :
    tameRules rules = true ↔ ∀ rule ∈ rules, tameSteps rule.steps = true := by
  induction rules with
  | nil => simp [tameRules]
  | cons rule rest ih => simp [tameRules, tameRule_eq, ih]

/-- How often a rule has fired does not matter. -/
theorem tameRules_modify {rules : List (Rule Step)} (h : tameRules rules = true) (i : Nat)
    {f : Rule Step → Rule Step} (hf : ∀ rule, (f rule).steps = rule.steps) :
    tameRules (rules.modify i f) = true := by
  rw [tameRules_iff] at h ⊢
  intro rule hrule
  obtain ⟨j, hj⟩ := List.mem_iff_getElem?.mp hrule
  rw [List.getElem?_modify] at hj
  obtain ⟨rule', hrule', rfl⟩ := Option.map_eq_some_iff.mp hj
  have htame := h rule' (List.mem_of_getElem? hrule')
  split
  · rw [hf]
    exact htame
  · exact htame

end Step

/-! ## Free slots -/

/-- The slots that are left for the thread. -/
def Dispatcher.free (d : Dispatcher) (t : Thread) : Nat := d.maxDepth - d.inFlight t

theorem Dispatcher.free_take {d : Dispatcher} {t : Thread} (h : d.isFull t = false) :
    (d.take t).free t + 1 = d.free t := by
  have hroom : d.inFlight t < d.maxDepth := by simpa [isFull] using h
  have hcount : (d.take t).inFlight t = d.inFlight t + 1 := by simp [take, inFlight]
  unfold free
  rw [hcount]
  change d.maxDepth - (d.inFlight t + 1) + 1 = d.maxDepth - d.inFlight t
  omega

theorem Dispatcher.free_release_le (d : Dispatcher) (t : Thread) :
    (d.release t).free t ≤ d.free t + 1 := by
  have hcount : (d.release t).inFlight t = d.inFlight t - 1 := by simp [release, inFlight]
  unfold free
  rw [hcount]
  change d.maxDepth - (d.inFlight t - 1) ≤ d.maxDepth - d.inFlight t + 1
  omega

namespace World

/-- The slots that all documents have left for the thread. -/
def room (w : World) (t : Thread) : Nat :=
  Table.total (fun doc => doc.dispatcher.free t) w.documents.rows

theorem room_congr {w v : World} (h : v.documents = w.documents) (t : Thread) :
    v.room t = w.room t := by
  unfold room
  rw [h]

theorem room_updateDocument (w : World) (d : Name) (f : Document → Document) (t : Thread) :
    (w.updateDocument d f).room t + (w.document d).dispatcher.free t =
      w.room t + (f (w.document d)).dispatcher.free t := by
  have hsum := Table.total_setRows (fun doc : Document => doc.dispatcher.free t) d
    (f (w.document d)) w.documents.rows
  -- A document that does not exist allows no notification.
  have hrow : (Table.findRow d w.documents.rows).elim 0 (fun doc => doc.dispatcher.free t) =
      (w.document d).dispatcher.free t := by
    unfold World.document Table.get Table.find?
    cases Table.findRow d w.documents.rows with
    | none => exact (Nat.zero_sub _).symm
    | some doc => rfl
  rw [hrow] at hsum
  exact hsum

theorem room_takeSlot {w : World} {d : Name} {t : Thread} {depth : Nat} {left : Dispatcher}
    (h : (w.document d).dispatcher.enter? t = some (depth, left)) (n : Notice) :
    (w.takeSlot d t n left).room t + 1 = w.room t := by
  obtain ⟨hroom, rfl⟩ := Dispatcher.of_enter? h
  have hfree := Dispatcher.free_take hroom
  have hsum := room_updateDocument w d
    (fun doc => { doc with dispatcher := (w.document d).dispatcher.take t }) t
  change (w.updateDocument d _).room t + 1 = w.room t
  simp only at hsum
  omega

theorem room_releaseSlot_le (w : World) (d : Name) (t : Thread) :
    (w.releaseSlot d t).room t ≤ w.room t + 1 := by
  have hfree := (w.document d).dispatcher.free_release_le t
  have hsum := room_updateDocument w d
    (fun doc => { doc with dispatcher := doc.dispatcher.release t }) t
  change (w.updateDocument d _).room t ≤ w.room t + 1
  simp only at hsum
  omega

/-- The handlers of all observers do tame steps. -/
def Tame (w : World) : Prop := ∀ o, Step.tameRules (Scenario.rulesOf w o) = true

/-- It suffices to look at the observers that there are. -/
theorem tame_of_rows {w : World}
    (h : (w.observers.rows.all fun row =>
      match row.2.role with
      | .recorder r => Step.tameRules r.rules
      | _ => true) = true) : w.Tame := by
  intro o
  unfold Scenario.rulesOf World.observer Table.get Table.find?
  cases hrow : Table.findRow o w.observers.rows with
  | none => rfl
  | some a =>
      have htame := List.all_eq_true.mp h _ (Table.mem_of_findRow hrow)
      simp only [Option.getD_some]
      revert htame
      cases a.role <;> simp [Step.tameRules]

/-- There are no other handlers than tame ones still, and no more room than before. -/
structure Keeps (t : Thread) (w v : World) : Prop where
  tame : w.Tame → v.Tame
  room : v.room t ≤ w.room t

namespace Keeps

variable {t : Thread} {u v w : World} {d o : Name}

theorem refl (t : Thread) (w : World) : Keeps t w w := ⟨id, Nat.le_refl _⟩

theorem trans (h : Keeps t u v) (h' : Keeps t v w) : Keeps t u w :=
  ⟨h'.tame ∘ h.tame, Nat.le_trans h'.room h.room⟩

theorem of_eq (hdocuments : v.documents = w.documents) (hobservers : v.observers = w.observers) :
    Keeps t w v := by
  refine ⟨fun hw o => ?_, ?_⟩
  · unfold Scenario.rulesOf World.observer
    rw [hobservers]
    exact hw o
  · exact Nat.le_of_eq (room_congr hdocuments t)

theorem record (w : World) (m : Moment) : Keeps t w (w.record m) := of_eq rfl rfl

theorem updateDocument {f : Document → Document}
    (hf : ∀ doc, (f doc).dispatcher = doc.dispatcher) : Keeps t w (w.updateDocument d f) := by
  refine ⟨id, ?_⟩
  have hsum := room_updateDocument w d f t
  rw [hf] at hsum
  omega

/-- The roles of observers are all that matters about them. -/
theorem of_role (hdocuments : v.documents = w.documents)
    (hrole : ∀ o, w.Tame → (v.observer o).role ≠ (w.observer o).role →
      Step.tameRules (Scenario.rulesOf v o) = true) : Keeps t w v := by
  refine ⟨fun hw o => ?_, ?_⟩
  · by_cases hsame : (v.observer o).role = (w.observer o).role
    · have hrules := hw o
      unfold Scenario.rulesOf at hrules ⊢
      rw [hsame]
      exact hrules
    · exact hrole o hw hsame
  · exact Nat.le_of_eq (room_congr hdocuments t)

theorem updateObserver {g : Observer → Observer} (hg : ∀ a, (g a).role = a.role) :
    Keeps t w (w.updateObserver o g) := by
  refine of_role rfl fun o' _ hne => absurd ?_ hne
  rw [observer_updateObserver]
  split
  next heq => rw [heq, hg]
  next => rfl

theorem updateRegistry {owner : Owner} {change : Registry → Registry} :
    Keeps t w (w.updateRegistry owner change) := by
  cases owner with
  | document d => exact updateDocument fun _ => rfl
  | standalone number => exact of_eq rfl rfl

theorem freeIfDead (w : World) (o : Name) : Keeps t w (w.freeIfDead o) := by
  unfold World.freeIfDead
  split
  · exact refl t w
  · exact record w _

theorem hold (w : World) (o : Name) : Keeps t w (w.hold o) := by
  apply Keeps.trans _ (record _ _)
  apply updateObserver
  intro a
  rfl

theorem unhold (w : World) (o : Name) : Keeps t w (w.unhold o) := by
  apply Keeps.trans _ (freeIfDead _ _)
  apply Keeps.trans _ (record _ _)
  apply updateObserver
  intro a
  rfl

theorem disown (w : World) (o : Name) : Keeps t w (w.disown o) := by
  apply Keeps.trans _ (freeIfDead _ _)
  apply Keeps.trans _ (record _ _)
  apply updateObserver
  intro a
  rfl

theorem register (w : World) (owner : Owner) (key : Name) : Keeps t w (w.register owner key) := by
  unfold World.register
  simp only
  split
  · exact updateRegistry
  · exact updateRegistry.trans (record _ _)

theorem unregister (w : World) (owner : Owner) (key : Name) :
    Keeps t w (w.unregister owner key) := by
  unfold World.unregister
  split
  · exact updateRegistry.trans (record _ _)
  · exact refl t w

theorem openScope (w : World) (owner : Owner) (m : UpdateMask) :
    Keeps t w (w.openScope owner m) := by
  refine Keeps.trans ?_ (record _ _)
  cases owner with
  | document d => exact updateDocument fun _ => rfl
  | standalone number => exact of_eq rfl rfl

theorem closeScope (w : World) (owner : Owner) (m : UpdateMask) (s : ScopeState) :
    Keeps t w (w.closeScope owner m s) := by
  unfold World.closeScope
  simp only
  refine Keeps.trans ?_ (record _ _)
  refine Keeps.trans (v := if (w.scope owner).mask.contains m then w
    else w.record (.scopeMismatch owner (w.scope owner).mask m)) ?_ ?_
  · split
    · exact refl t w
    · exact record w _
  · cases owner with
    | document d => exact updateDocument fun _ => rfl
    | standalone number => exact of_eq rfl rfl

theorem prepare (w : World) (d : Name) (n : Notice) : Keeps t w (w.prepare d n) := by
  have hload : ∀ (v : World) (l : LoadState), Keeps t v (v.setLoad d l) :=
    fun _ _ => updateDocument fun _ => rfl
  unfold World.prepare
  split
  · exact openScope w _ _
  · split
    · exact (record w _).trans (hload _ _)
    · exact hload w _
  · split
    · exact (record w _).trans (hload _ _)
    · exact hload w _
  · exact refl t w

/-- A new observer brings its own handlers only. -/
theorem createObserver {role : Role}
    (hrole : ∀ r, role = .recorder r → Step.tameRules r.rules = true) (name : Name) :
    Keeps t w { w with observers := w.observers.set name (.new role) } := by
  refine of_role rfl fun o _ hne => ?_
  have hobserver : ({ w with observers := w.observers.set name (.new role) } : World).observer o =
      if o = name then .new role else w.observer o :=
    Table.get_set w.observers name o (.new role)
  by_cases heq : o = name
  · rw [if_pos heq] at hobserver
    unfold Scenario.rulesOf
    rw [hobserver]
    cases role with
    | recorder r => exact hrole r rfl
    | quiet binding => rfl
    | sink s => rfl
  · rw [if_neg heq] at hobserver
    exact absurd (congrArg Observer.role hobserver) hne

theorem updateSink (w : World) (o : Name) (f : Sink → Sink) : Keeps t w (w.updateSink o f) := by
  unfold World.updateSink
  split
  next s hrole =>
    refine of_role rfl fun o' _ hne => ?_
    unfold Scenario.rulesOf
    rw [observer_updateObserver] at hne ⊢
    by_cases heq : o' = o
    · rw [if_pos heq]
      rfl
    · exact absurd (by rw [if_neg heq]) hne
  next => exact refl t w

theorem readStream (w : World) (sink : Name) (s : Sink) (events : List Recorded) :
    Keeps t w (w.readStream sink s events) :=
  (updateSink w sink _).trans (record _ _)

theorem countFiring (w : World) (o : Name) (i : Nat) :
    Keeps t w (Scenario.countFiring o i w) := by
  unfold Scenario.countFiring World.updateRecorder
  split
  next r hrole =>
    refine of_role rfl fun o' hw hne => ?_
    rw [observer_updateObserver] at hne
    unfold Scenario.rulesOf
    rw [observer_updateObserver]
    by_cases heq : o' = o
    · have hrules : Step.tameRules r.rules = true := by
        have htame := hw o
        unfold Scenario.rulesOf at htame
        rw [hrole] at htame
        exact htame
      rw [if_pos heq]
      exact Step.tameRules_modify hrules i fun _ => rfl
    · exact absurd (by rw [if_neg heq]) hne
  next => exact refl t w

theorem offer (w : World) (sink : Name) (id : DocumentId) (e : Event) :
    Keeps t w (Scenario.offer sink id e w) := by
  unfold Scenario.offer
  split
  · exact refl t w
  · simp only
    split
    · exact ((updateSink w sink _).trans (record _ _)).trans (record _ _)
    · exact (updateSink w sink _).trans (record _ _)

end Keeps

end World

theorem Edit.keeps {at? : Option Name} {w : World} {g : World → World} (h : Edit w at? g)
    (t : Thread) (v : World) : Keeps t v (g v) := by
  cases h with
  | aside h =>
      obtain ⟨snapshots, dispatchers, guards, trackers, threads, hkept⟩ := h.kept v
      rw [hkept]
      exact .of_eq rfl rfl
  | reject => exact .record v _
  | blockScript => exact .record v _
  | createQuiet => exact .createObserver (by simp) _
  | createSink => exact .trans (.createObserver (by simp) _) (.of_eq rfl rfl)
  | createRegistry => exact .of_eq rfl rfl
  | disown => exact .disown v _
  | register => exact .register v _ _
  | unregister => exact .unregister v _ _
  | prune => exact .updateRegistry
  | readStream => exact .readStream v _ _ _
  | disconnect => exact .updateSink v _ _
  | openTracker => exact .openScope v _ _
  | closeScope => exact .closeScope v _ _ _

end ChangeNotice
