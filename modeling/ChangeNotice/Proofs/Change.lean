import ChangeNotice.Proofs.RegistryLaws
import ChangeNotice.Proofs.Timeline
import ChangeNotice.Proofs.WorldLaws
import Mathlib.Order.Basic
import Mathlib.Order.Nat

/-! # Changes of the world

Between two points at which code of a client can run, the world changes in one of
a few ways. Each way is listed here once, with what is known when it happens, and
every invariant of whole runs is proved of these changes and nothing else.

A change is relative to the world in which the surrounding run began. What that
run found is not its own to undo: it gives back only slots and holds that it has
taken, and it takes the turns of passes that it has started.
-/

namespace ChangeNotice

namespace World

/-- The registry has been made. -/
def Hosts (w : World) : Owner → Prop
  | .document d => w.documents.contains d = true
  | .standalone number => number < w.registries.made

/-- What holds in the empty world and ever after: every registry is sound, and a registry that has
a name has been made. -/
structure Sound (w : World) : Prop where
  registry : ∀ owner, (w.registry owner).Sound
  numbers : ∀ name number, w.registries.number? name = some number → number < w.registries.made

def inFlight (w : World) (d : Name) (t : Thread) : Nat := (w.document d).dispatcher.inFlight t

/-- The second world has started no fewer passes and keeps no fewer holds and slots. -/
structure Below (floor w : World) : Prop where
  passes : floor.passes ≤ w.passes
  holds : ∀ o, (floor.observer o).holds ≤ (w.observer o).holds
  slots : ∀ d t, floor.inFlight d t ≤ w.inFlight d t

/-- The entry stood when the pass took its snapshot, and the registry has kept track of it since. -/
structure SnapshotEntry (w : World) (p : PassInfo) (e : Entry) : Prop where
  hosted : w.Hosts p.registry
  known : w.observers.contains e.key = true
  entry : (w.registry p.registry).Remembers e
    (.unregistered p.registry e.key ∈ Journal.since p.serial w.past) (w.isAlive e.key = true)

/-- The turn of the entry has come: the slots before it, and no others, have had theirs. -/
structure Due (w : World) (p : PassInfo) (e : Entry) : Prop where
  next : ∃ rest, Journal.opening? p.serial w.past =
    some (p, Journal.visitedKeys p.serial w.past ++ e.key :: rest)
  snapshotEntry : w.SnapshotEntry p e

/-- What a notification changes in its document before its observers hear of it. -/
def prepare (w : World) (d : Name) : Notice → World
  | .event (.beginUpdate m) => w.openScope (.document d) m
  | .event .beginLoad =>
    (if (w.document d).load = .loading then w.record (.loadRestarted d (w.document d).id)
      else w).setLoad d .loading
  | .event .endLoad =>
    (if (w.document d).load ≠ .loading then
      w.record (.loadNotStarted d (w.document d).id (w.document d).load) else w).setLoad d .loaded
  | _ => w

/-- A pass takes its snapshot. -/
def enterPass (w : World) (p : PassInfo) : World :=
  let pruned := w.prune p.registry
  record { pruned with passes := pruned.passes + 1 }
    (.passEntered p ((pruned.registry p.registry).entries.map (·.key)))

end World

namespace Moment

/-- The moment is told for its own sake: it goes with no change of what documents, registries and
observers are, and is no turn of a pass. -/
def isRemark : Moment → Bool
  | targeted _ | refused .. | unbalanced .. | scopeMismatch .. | passFinished .. | passLeft _
  | visited _ | handled .. | scriptBlocked .. | sinkMade .. | offered .. | sinkFull .. | taken ..
  | answered .. => true
  | scopeOpened (.standalone _) .. | scopeClosed (.standalone _) _ => true
  | _ => false

end Moment

open World in
/-- One change of the world in a run that began at `floor`. -/
inductive Change (floor : World) : World → World → Prop
  | remark {w : World} (m : Moment) (hm : m.isRemark = true) : Change floor w (w.record m)
  /-- A handler is called, of an observer that is held. -/
  | call {w : World} (t : Thread) (d o : Name) (n : Notice) (hheld : 0 < (w.observer o).holds) :
      Change floor w (w.record (.called (w.callOf t d o n)))
  /-- A notification takes its slot and prepares its document. -/
  | accept {w : World} (d : Name) (t : Thread) (n : Notice) (depth : Nat) (left : Dispatcher)
      (hleft : (w.document d).dispatcher.enter? t = some (depth, left)) :
      Change floor w ((w.takeSlot d t n left).prepare d n)
  | release {w : World} (d : Name) (t : Thread) (hown : floor.inFlight d t < w.inFlight d t) :
      Change floor w (w.releaseSlot d t)
  | close {w : World} (d : Name) (m : UpdateMask) (s : ScopeState)
      (hs : (w.scope (.document d)).leave m = .ok s) :
      Change floor w (w.closeScope (.document d) m s)
  | prune {w : World} (owner : Owner) (hhosts : w.Hosts owner) : Change floor w (w.prune owner)
  | enterPass {w : World} (p : PassInfo) (hhosts : w.Hosts p.registry)
      (hserial : p.serial = w.passes) : Change floor w (w.enterPass p)
  | invoke {w : World} (p : PassInfo) (e : Entry) (hown : floor.passes ≤ p.serial)
      (hdue : w.Due p e) (hlive : w.resolve p.registry p.removal e = .live) :
      Change floor w ((w.hold e.key).record (.invoking p e.key))
  | skip {w : World} (p : PassInfo) (e : Entry) (hown : floor.passes ≤ p.serial)
      (hdue : w.Due p e) (hgone : w.resolve p.registry p.removal e = .unregistered) :
      Change floor w (w.record (.skipping p e.key))
  | miss {w : World} (p : PassInfo) (e : Entry) (hown : floor.passes ≤ p.serial)
      (hdue : w.Due p e) (hdead : w.resolve p.registry p.removal e = .dropped) :
      Change floor w (w.record (.missing p e.key))
  | hold {w : World} (o : Name) (halive : w.isAlive o = true) : Change floor w (w.hold o)
  | unhold {w : World} (o : Name) (hown : (floor.observer o).holds < (w.observer o).holds) :
      Change floor w (w.unhold o)
  | disown {w : World} (o : Name) (hown : w.isOwned o = true) : Change floor w (w.disown o)
  | register {w : World} (owner : Owner) (key : Name) (hhosts : w.Hosts owner)
      (hown : w.isOwned key = true) : Change floor w (w.register owner key)
  | unregister {w : World} (owner : Owner) (key : Name) (hhosts : w.Hosts owner) :
      Change floor w (w.unregister owner key)
  | createDocument {w : World} (name : Name) (id : DocumentId) (config : Config)
      (hnew : w.documents.contains name = false) :
      Change floor w { w with documents := w.documents.set name (.new id config) }
  | createObserver {w : World} (name : Name) (role : Role)
      (hnew : w.observers.contains name = false) :
      Change floor w { w with observers := w.observers.set name (.new role) }
  | createRegistry {w : World} (name : Name) :
      Change floor w { w with registries := w.registries.make name .empty }
  /-- An observer keeps something in mind, or a stream is read. -/
  | reshape {w : World} (o : Name) (f : Observer → Observer)
      (hknown : w.observers.contains o = true)
      (hlife : ∀ a, (f a).owned = a.owned ∧ (f a).holds = a.holds) :
      Change floor w (w.updateObserver o f)
  /-- Things change that stand beside documents, observers and registries. -/
  | aside {w : World} (snapshots : Table Name Snapshot) (dispatchers : Catalog Dispatcher)
      (guards : Catalog Guard) (trackers : Catalog ScopeState) (threads : Nat) :
      Change floor w { w with snapshots, dispatchers, guards, trackers, threads }

/-- A run that began at `floor` takes one world to another. -/
def Evolves (floor : World) : World → World → Prop := Relation.ReflTransGen (Change floor)

/-- A run that begins here can end there. -/
def World.Leads (w w' : World) : Prop := Evolves w w w'

/-! ## What a change keeps -/

namespace World

variable {w w' floor : World}

theorem prepare_actsOn (w : World) (d : Name) (n : Notice) : ActsOn d w (w.prepare d n) := by
  unfold prepare
  split
  · exact openScope_actsOn w d _
  · refine ActsOn.trans ?_ (setLoad_actsOn _ d _)
    split
    · exact (ActsOn.refl d w).record _
    · exact .refl d w
  · refine ActsOn.trans ?_ (setLoad_actsOn _ d _)
    split
    · exact (ActsOn.refl d w).record _
    · exact .refl d w
  · exact .refl d w

theorem accept_actsOn (w : World) (d : Name) (t : Thread) (n : Notice) (left : Dispatcher) :
    ActsOn d w ((w.takeSlot d t n left).prepare d n) :=
  (takeSlot_actsOn w d t n left).trans (prepare_actsOn _ d n)

theorem dispatcher_prepare (w : World) (d : Name) (n : Notice) :
    ((w.prepare d n).document d).dispatcher = (w.document d).dispatcher := by
  unfold prepare
  split
  · simp [openScope, setScope]
  · split <;> simp [setLoad]
  · split <;> simp [setLoad]
  · rfl

theorem dispatcher_closeScope (w : World) (d : Name) (m : UpdateMask) (s : ScopeState) :
    ((w.closeScope (.document d) m s).document d).dispatcher = (w.document d).dispatcher := by
  simp only [closeScope, setScope, document_record, document_updateDocument, if_pos]
  split <;> rfl

theorem ActsOn.inFlight {d : Name} (h : ActsOn d w w')
    (hdispatcher : (w'.document d).dispatcher = (w.document d).dispatcher) :
    w'.inFlight = w.inFlight := by
  funext d' t
  unfold World.inFlight
  by_cases heq : d' = d
  · rw [heq, hdispatcher]
  · rw [h.elsewhere d' heq]

theorem inFlight_closeScope (w : World) (d : Name) (m : UpdateMask) (s : ScopeState) :
    (w.closeScope (.document d) m s).inFlight = w.inFlight :=
  (closeScope_actsOn w d m s).inFlight (dispatcher_closeScope w d m s)

theorem inFlight_updateRegistry (w : World) (owner : Owner) (change : Registry → Registry) :
    (w.updateRegistry owner change).inFlight = w.inFlight := by
  funext d t
  unfold inFlight
  rw [dispatcher_updateRegistry]

theorem inFlight_register (w : World) (owner : Owner) (key : Name) :
    (w.register owner key).inFlight = w.inFlight := by
  unfold register
  simp only
  split <;> exact inFlight_updateRegistry w owner _

theorem inFlight_unregister (w : World) (owner : Owner) (key : Name) :
    (w.unregister owner key).inFlight = w.inFlight := by
  unfold unregister
  split
  · exact inFlight_updateRegistry w owner _
  · rfl

theorem inFlight_unhold (w : World) (o : Name) : (w.unhold o).inFlight = w.inFlight := by
  funext d t
  unfold inFlight
  rw [document_unhold]

theorem inFlight_disown (w : World) (o : Name) : (w.disown o).inFlight = w.inFlight := by
  funext d t
  unfold inFlight
  rw [document_disown]

/-- A document that is made has no slots taken, as its name had none before. -/
theorem inFlight_createDocument {name : Name} (hnew : w.documents.contains name = false)
    (id : DocumentId) (config : Config) :
    { w with documents := w.documents.set name (.new id config) : World }.inFlight =
      w.inFlight := by
  funext d t
  unfold inFlight document
  rw [Table.get_set]
  split
  next heq =>
    rw [heq, Table.get_of_not_contains hnew]
    rfl
  next => rfl

/-- A slot that is taken is one more slot in flight, on this thread of this document. -/
theorem inFlight_accept {d : Name} {t : Thread} {n : Notice} {depth : Nat} {left : Dispatcher}
    (hleft : (w.document d).dispatcher.enter? t = some (depth, left)) (d' : Name) (t' : Thread) :
    ((w.takeSlot d t n left).prepare d n).inFlight d' t' =
      w.inFlight d' t' + if d' = d ∧ t' = t then 1 else 0 := by
  obtain ⟨-, htake⟩ := Dispatcher.of_enter? hleft
  rw [(prepare_actsOn _ d n).inFlight (dispatcher_prepare _ d n)]
  unfold inFlight
  by_cases hd : d' = d
  · subst hd
    by_cases ht : t' = t <;>
      simp [takeSlot, htake, Dispatcher.inFlight, Dispatcher.take, ht]
  · simp [takeSlot, hd]

theorem inFlight_releaseSlot (w : World) (d d' : Name) (t t' : Thread) :
    (w.releaseSlot d t).inFlight d' t' =
      if d' = d ∧ t' = t then w.inFlight d t - 1 else w.inFlight d' t' := by
  unfold inFlight
  by_cases hd : d' = d
  · subst hd
    by_cases ht : t' = t <;>
      simp [releaseSlot, Dispatcher.inFlight, Dispatcher.release, ht]
  · simp [releaseSlot, hd]

@[simp]
theorem observers_register (w : World) (owner : Owner) (key : Name) :
    (w.register owner key).observers = w.observers := by
  unfold register
  simp only
  split <;> simp

@[simp]
theorem passes_register (w : World) (owner : Owner) (key : Name) :
    (w.register owner key).passes = w.passes := by
  unfold register
  simp only
  split <;> simp

@[simp]
theorem observers_unregister (w : World) (owner : Owner) (key : Name) :
    (w.unregister owner key).observers = w.observers := by
  unfold unregister
  split <;> simp

@[simp]
theorem passes_unregister (w : World) (owner : Owner) (key : Name) :
    (w.unregister owner key).passes = w.passes := by
  unfold unregister
  split <;> simp

theorem Below.refl (w : World) : w.Below w := ⟨le_rfl, fun _ => le_rfl, fun _ _ => le_rfl⟩

/-- Only holds, slots and the number of passes matter. -/
theorem Below.of_le (h : floor.Below w) (hpasses : w.passes ≤ w'.passes)
    (hobserver : w'.observers = w.observers) (hslots : w'.inFlight = w.inFlight) :
    floor.Below w' where
  passes := h.passes.trans hpasses
  holds o := by
    have hsame : w'.observer o = w.observer o := by rw [observer, hobserver, observer]
    rw [hsame]
    exact h.holds o
  slots d t := by
    rw [hslots]
    exact h.slots d t

end World

open World

variable {floor floor' w w' : World}

/-- No run gives back what it found taken. -/
theorem Change.below (h : Change floor w w') (hbelow : floor.Below w) : floor.Below w' := by
  cases h with
  | remark m hm => exact hbelow.of_le le_rfl rfl rfl
  | call t d o n hheld => exact hbelow.of_le le_rfl rfl rfl
  | accept d t n depth left hleft =>
      have hacts := accept_actsOn w d t n left
      refine ⟨by rw [hacts.passes]; exact hbelow.passes, fun o => ?_, fun d' t' => ?_⟩
      · rw [hacts.observer]
        exact hbelow.holds o
      · rw [inFlight_accept hleft]
        exact (hbelow.slots d' t').trans (Nat.le_add_right _ _)
  | release d t hown =>
      have hacts := releaseSlot_actsOn w d t
      refine ⟨by rw [hacts.passes]; exact hbelow.passes, fun o => ?_, fun d' t' => ?_⟩
      · rw [hacts.observer]
        exact hbelow.holds o
      · rw [inFlight_releaseSlot]
        split
        next heq =>
          obtain ⟨rfl, rfl⟩ := heq
          omega
        next => exact hbelow.slots d' t'
  | close d m s hs =>
      have hacts := closeScope_actsOn w d m s
      exact hbelow.of_le hacts.passes.ge hacts.observers (inFlight_closeScope w d m s)
  | prune owner hhosts =>
      exact hbelow.of_le (by simp [World.prune]) (by simp [World.prune])
        (inFlight_updateRegistry w owner _)
  | enterPass p hhosts hserial =>
      exact hbelow.of_le (by simp [World.enterPass, World.prune])
        (by simp [World.enterPass, World.prune]) (inFlight_updateRegistry w p.registry _)
  | invoke p e hown hdue hlive =>
      refine ⟨hbelow.passes, fun o => ?_, hbelow.slots⟩
      simp only [observer_record, observer_hold]
      split
      next heq =>
        subst heq
        exact (hbelow.holds _).trans (Nat.le_succ _)
      next => exact hbelow.holds o
  | skip p e hown hdue hgone => exact hbelow.of_le le_rfl rfl rfl
  | miss p e hown hdue hdead => exact hbelow.of_le le_rfl rfl rfl
  | hold x halive =>
      refine ⟨hbelow.passes, fun o => ?_, hbelow.slots⟩
      rw [observer_hold]
      split
      next heq =>
        subst heq
        exact (hbelow.holds _).trans (Nat.le_succ _)
      next => exact hbelow.holds o
  | unhold x hown =>
      refine ⟨by rw [passes_unhold]; exact hbelow.passes, fun o => ?_, fun d t => ?_⟩
      · rw [observer_unhold]
        split
        next heq =>
          subst heq
          simp only
          omega
        next => exact hbelow.holds o
      · rw [inFlight_unhold]
        exact hbelow.slots d t
  | disown x hown =>
      refine ⟨by rw [passes_disown]; exact hbelow.passes, fun o => ?_, fun d t => ?_⟩
      · rw [observer_disown]
        split
        next heq =>
          subst heq
          exact hbelow.holds _
        next => exact hbelow.holds o
      · rw [inFlight_disown]
        exact hbelow.slots d t
  | register owner key hhosts hown =>
      exact hbelow.of_le (by simp) (by simp) (inFlight_register w owner key)
  | unregister owner key hhosts =>
      exact hbelow.of_le (by simp) (by simp) (inFlight_unregister w owner key)
  | createDocument name id config hnew =>
      exact hbelow.of_le le_rfl rfl (inFlight_createDocument hnew id config)
  | createObserver name role hnew =>
      refine ⟨hbelow.passes, fun o => ?_, hbelow.slots⟩
      have hfloor := hbelow.holds o
      unfold World.observer at hfloor ⊢
      rw [Table.get_set]
      split
      next heq =>
        rw [heq, Table.get_of_not_contains hnew] at hfloor
        rw [heq]
        exact hfloor
      next => exact hfloor
  | createRegistry name => exact hbelow.of_le le_rfl rfl rfl
  | reshape x f hknown hlife =>
      refine ⟨hbelow.passes, fun o => ?_, hbelow.slots⟩
      rw [observer_updateObserver]
      split
      next heq =>
        rw [(hlife _).2, heq]
        exact hbelow.holds x
      next => exact hbelow.holds o
  | aside snapshots dispatchers guards trackers threads => exact hbelow.of_le le_rfl rfl rfl

/-- A run that began lower may do all that a run that began higher may. -/
theorem Change.lower (h : Change floor w w') (hbelow : floor'.Below floor) :
    Change floor' w w' := by
  cases h with
  | remark m hm => exact .remark m hm
  | call t d o n hheld => exact .call t d o n hheld
  | accept d t n depth left hleft => exact .accept d t n depth left hleft
  | release d t hown => exact .release d t ((hbelow.slots d t).trans_lt hown)
  | close d m s hs => exact .close d m s hs
  | prune owner hhosts => exact .prune owner hhosts
  | enterPass p hhosts hserial => exact .enterPass p hhosts hserial
  | invoke p e hown hdue hlive => exact .invoke p e (hbelow.passes.trans hown) hdue hlive
  | skip p e hown hdue hgone => exact .skip p e (hbelow.passes.trans hown) hdue hgone
  | miss p e hown hdue hdead => exact .miss p e (hbelow.passes.trans hown) hdue hdead
  | hold o halive => exact .hold o halive
  | unhold o hown => exact .unhold o ((hbelow.holds o).trans_lt hown)
  | disown o hown => exact .disown o hown
  | register owner key hhosts hown => exact .register owner key hhosts hown
  | unregister owner key hhosts => exact .unregister owner key hhosts
  | createDocument name id config hnew => exact .createDocument name id config hnew
  | createObserver name role hnew => exact .createObserver name role hnew
  | createRegistry name => exact .createRegistry name
  | reshape o f hknown hlife => exact .reshape o f hknown hlife
  | aside snapshots dispatchers guards trackers threads =>
      exact .aside snapshots dispatchers guards trackers threads

namespace Evolves

theorem below (h : Evolves floor w w') (hbelow : floor.Below w) : floor.Below w' := by
  induction h with
  | refl => exact hbelow
  | tail _ hstep ih => exact hstep.below ih

theorem lower (h : Evolves floor w w') (hbelow : floor'.Below floor) : Evolves floor' w w' :=
  Relation.ReflTransGen.mono (fun _ _ hstep => Change.lower hstep hbelow) w w' h

end Evolves

namespace World.Leads

variable {u v : World}

theorem refl (w : World) : w.Leads w := Relation.ReflTransGen.refl

theorem below (h : w.Leads w') : w.Below w' := Evolves.below h (.refl w)

/-- Runs compose, because the second leaves alone what the first has taken and not given back. -/
theorem trans (h : u.Leads v) (h' : v.Leads w) : u.Leads w :=
  Relation.ReflTransGen.trans h (Evolves.lower h' h.below)

theorem of_change (h : Change w w w') : w.Leads w' := Relation.ReflTransGen.single h

end World.Leads

/-! ## Registries stay sound -/

namespace World

theorem registry_register (w : World) (owner other : Owner) (key : Name) :
    (w.register owner key).registry other =
      if other = owner then (w.registry owner).insert w.isAlive key else w.registry other := by
  unfold register
  simp only
  split <;> simp

theorem registry_unregister (w : World) (owner other : Owner) (key : Name) :
    (w.unregister owner key).registry other =
      if other = owner then (w.registry owner).remove key else w.registry other := by
  unfold unregister
  split
  next => simp
  next hnone =>
    have hsame : (w.registry owner).remove key = w.registry owner := by
      have habsent : ∀ e ∈ (w.registry owner).entries, ¬ (e.key == key) = true := by
        simpa [Registry.hasKey] using hnone
      simp only [Registry.remove, List.eraseP_of_forall_not habsent]
    split
    next heq => rw [hsame, heq]
    next => rfl

theorem registry_prune (w : World) (owner other : Owner) :
    (w.prune owner).registry other =
      if other = owner then (w.registry owner).prune w.isAlive else w.registry other :=
  registry_updateRegistry w owner other _

theorem registry_enterPass (w : World) (p : PassInfo) (other : Owner) :
    (w.enterPass p).registry other =
      if other = p.registry then (w.registry p.registry).prune w.isAlive else w.registry other := by
  rw [← registry_prune]
  cases other <;> rfl

/-- A document that is made has the registry that its name meant before: an empty one. -/
theorem registry_createDocument {w : World} {name : Name} (hnew : w.documents.contains name = false)
    (id : DocumentId) (config : Config) (other : Owner) :
    { w with documents := w.documents.set name (.new id config) : World }.registry other =
      w.registry other := by
  cases other with
  | document d =>
      simp only [registry, document, Table.get_set]
      split
      next heq =>
        rw [heq, Table.get_of_not_contains hnew]
        rfl
      next => rfl
  | standalone number => rfl

theorem registry_createRegistry (w : World) (name : Name) (other : Owner) :
    { w with registries := w.registries.make name .empty : World }.registry other =
      if other = .standalone w.registries.made then .empty else w.registry other := by
  cases other with
  | document d => simp [registry, document]
  | standalone number => simp [registry]

@[simp]
theorem number?_register (w : World) (owner : Owner) (key name : Name) :
    (w.register owner key).registries.number? name = w.registries.number? name := by
  unfold register
  simp only
  split <;> simp

@[simp]
theorem made_register (w : World) (owner : Owner) (key : Name) :
    (w.register owner key).registries.made = w.registries.made := by
  unfold register
  simp only
  split <;> simp

@[simp]
theorem number?_unregister (w : World) (owner : Owner) (key name : Name) :
    (w.unregister owner key).registries.number? name = w.registries.number? name := by
  unfold unregister
  split <;> simp

@[simp]
theorem made_unregister (w : World) (owner : Owner) (key : Name) :
    (w.unregister owner key).registries.made = w.registries.made := by
  unfold unregister
  split <;> simp

theorem Sound.of_same (hw : w.Sound) (hregistry : ∀ owner, w'.registry owner = w.registry owner)
    (hregistries : w'.registries = w.registries) : w'.Sound where
  registry owner := by
    rw [hregistry]
    exact hw.registry owner
  numbers := by
    rw [hregistries]
    exact hw.numbers

theorem ActsOn.sound {d : Name} (h : ActsOn d w w') (hw : w.Sound) : w'.Sound :=
  hw.of_same h.registry_eq h.registries

theorem Sound.of_registry (hw : w.Sound) {owner : Owner} {r : Registry} (hr : r.Sound)
    (hregistry : ∀ other, w'.registry other = if other = owner then r else w.registry other)
    (hnumber : ∀ name, w'.registries.number? name = w.registries.number? name)
    (hmade : w'.registries.made = w.registries.made) : w'.Sound where
  registry other := by
    rw [hregistry]
    split
    · exact hr
    · exact hw.registry other
  numbers name number := by
    rw [hnumber, hmade]
    exact hw.numbers name number

theorem Sound.empty : World.empty.Sound where
  registry owner := by
    cases owner <;> exact Registry.Sound.empty
  numbers name number h := by
    exact absurd h (by simp [World.empty])

end World

theorem Change.sound (h : Change floor w w') (hw : w.Sound) : w'.Sound := by
  cases h with
  | accept d t n depth left hleft => exact (accept_actsOn w d t n left).sound hw
  | release d t hown => exact (releaseSlot_actsOn w d t).sound hw
  | close d m s hs => exact (closeScope_actsOn w d m s).sound hw
  | prune owner hhosts =>
      exact hw.of_registry ((hw.registry owner).prune _) (registry_prune w owner)
        (by simp [World.prune]) (by simp [World.prune])
  | enterPass p hhosts hserial =>
      exact hw.of_registry ((hw.registry _).prune _) (registry_enterPass w p)
        (by simp [World.enterPass, World.prune]) (by simp [World.enterPass, World.prune])
  | register owner key hhosts hown =>
      exact hw.of_registry ((hw.registry owner).insert _ key)
        (fun other => registry_register w owner other key) (by simp) (by simp)
  | unregister owner key hhosts =>
      exact hw.of_registry ((hw.registry owner).remove key)
        (fun other => registry_unregister w owner other key) (by simp) (by simp)
  | createDocument name id config hnew =>
      exact hw.of_same (registry_createDocument hnew id config) rfl
  | createRegistry name =>
      refine ⟨fun other => ?_, fun other number hnumber => ?_⟩
      · rw [registry_createRegistry]
        split
        · exact .empty
        · exact hw.registry other
      · rw [Catalog.number?_make] at hnumber
        change number < w.registries.made + 1
        split at hnumber
        · rw [Option.some.injEq] at hnumber
          omega
        · exact Nat.lt_succ_of_lt (hw.numbers other number hnumber)
  | unhold o hown => exact hw.of_same (by simp) (by simp)
  | disown o hown => exact hw.of_same (by simp) (by simp)
  | createObserver name role hnew => exact hw.of_same (fun owner => by cases owner <;> rfl) rfl
  | aside snapshots dispatchers guards trackers threads =>
      exact hw.of_same (fun owner => by cases owner <;> rfl) rfl
  | _ => exact hw.of_same (by simp) rfl

theorem Evolves.sound (h : Evolves floor w w') (hw : w.Sound) : w'.Sound := by
  induction h with
  | refl => exact hw
  | tail _ hstep ih => exact hstep.sound ih

end ChangeNotice
