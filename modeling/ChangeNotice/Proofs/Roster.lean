import ChangeNotice.Proofs.Change
import ChangeNotice.Proofs.SharedFlags

/-! # A registry and the list it stands for

Observers are made, registered, removed and dropped by their owners, and snapshots are taken,
in any order. Dead entries stay in the registry until something happens to prune it. Seen
from outside the registry is a plain list of names all the same: a new name goes to the end,
a name that is removed or whose observer dies is taken out. The list is kept here beside the
registry, together with the flags that the entries share with snapshots.
-/

namespace ChangeNotice

open World

namespace Registry

variable {r : Registry} {alive alive' : Name → Bool} {key : Name}

/-! ## The keys after each operation -/

theorem mem_keys : key ∈ r.keys alive ↔ r.hasKey key = true ∧ alive key = true := by
  rw [keys, List.mem_filter, List.mem_map, hasKey_iff]

theorem keys_of_prune : (r.prune alive).keys alive = r.keys alive := by
  rw [keys, keys_prune, keys, List.filter_filter]
  simp

theorem hasKey_prune : (r.prune alive).hasKey key = decide (key ∈ r.keys alive) := by
  rw [Bool.eq_iff_iff, decide_eq_true_iff, ← keys_prune, hasKey_iff, List.mem_map]

theorem keys_insert (hlive : alive key = true) :
    (r.insert alive key).keys alive =
      if key ∈ r.keys alive then r.keys alive else r.keys alive ++ [key] := by
  rw [insert_eq, hasKey_prune]
  by_cases hmem : key ∈ r.keys alive
  · rw [decide_eq_true hmem, if_pos rfl, if_pos hmem, keys_of_prune]
  · have hpruned : ((r.prune alive).entries.map (·.key)).filter alive = r.keys alive :=
      keys_of_prune
    rw [decide_eq_false hmem, if_neg Bool.false_ne_true, if_neg hmem, keys, List.map_append,
      List.filter_append, hpruned]
    simp [hlive]

theorem keys_of_remove (h : r.Sound) : (r.remove key).keys alive = (r.keys alive).erase key := by
  have hkeys : (r.keys alive).Nodup := h.keys.filter _
  rw [keys, keys_remove, h.keys.erase_eq_filter, hkeys.erase_eq_filter, keys, List.filter_filter,
    List.filter_filter]
  apply List.filter_congr
  intro k _
  exact Bool.and_comm _ _

/-- Only the observers with an entry count. -/
theorem keys_congr (h : ∀ e ∈ r.entries, alive' e.key = alive e.key) :
    r.keys alive' = r.keys alive := by
  apply List.filter_congr
  intro k hk
  obtain ⟨e, he, rfl⟩ := List.mem_map.mp hk
  exact h e he

/-- Where observers have died, the keys are those of the others. -/
theorem keys_of_fewer (h : ∀ k, alive' k = true → alive k = true) :
    r.keys alive' = (r.keys alive).filter alive' := by
  rw [keys, keys, List.filter_filter]
  apply List.filter_congr
  intro k _
  cases hlive : alive' k with
  | false => rfl
  | true => rw [h k hlive, Bool.and_self]

theorem length_eq : r.length alive = (r.keys alive).length := by
  rw [length, keys, List.filter_map, List.length_map, List.countP_eq_length_filter]
  rfl

theorem isEmpty_eq : r.isEmpty alive = (r.keys alive).isEmpty := by
  rw [isEmpty, Bool.eq_iff_iff, List.isEmpty_iff, keys, List.filter_eq_nil_iff]
  simp

theorem contains_eq : r.contains alive key = decide (key ∈ r.keys alive) := by
  rw [Bool.eq_iff_iff, decide_eq_true_iff, mem_keys, hasKey_iff, contains, List.any_eq_true]
  constructor
  · rintro ⟨e, he, hlive⟩
    rw [Bool.and_eq_true, beq_iff_eq] at hlive
    exact ⟨⟨e, he, hlive.2⟩, hlive.2 ▸ hlive.1⟩
  · rintro ⟨⟨e, he, rfl⟩, hlive⟩
    exact ⟨e, he, by simp [hlive]⟩

end Registry

/-! ## What registries have to do with stored snapshots -/

namespace World

variable (w : World) (owner : Owner) (o : Name)

theorem snapshots_updateRegistry (change : Registry → Registry) :
    (w.updateRegistry owner change).snapshots = w.snapshots := by
  cases owner <;> rfl

theorem snapshots_register : (w.register owner o).snapshots = w.snapshots := by
  unfold register
  dsimp only
  split
  · exact snapshots_updateRegistry w owner _
  · exact snapshots_updateRegistry w owner _

theorem snapshots_unregister : (w.unregister owner o).snapshots = w.snapshots := by
  unfold unregister
  split
  · exact snapshots_updateRegistry w owner _
  · rfl

theorem snapshots_disown : (w.disown o).snapshots = w.snapshots := by
  rw [disown_eq]
  rfl

end World

/-! ## Actions -/

namespace Registry

/-- What is done with a registry and with the observers. -/
inductive Action where
  | create (o : Name) (role : Role)
  | register (o : Name)
  | unregister (o : Name)
  | snapshot (name : Name)
  | drop (o : Name)

end Registry

/-- The list of names that a registry stands for, with what there is to know of the observers. -/
structure Roster where
  names : List Name
  /-- A name is used for one observer only. -/
  used : Name → Bool
  owned : Name → Bool
  /-- Somebody beside the owner keeps the observer alive. -/
  held : Name → Bool

namespace Roster

def isAlive (r : Roster) (o : Name) : Bool := r.owned o || r.held o

/-- Nobody is registered, in a world with these observers. -/
def ofWorld (w : World) : Roster :=
  ⟨[], w.observers.contains, w.isOwned, fun o => 0 < (w.observer o).holds⟩

def step (r : Roster) : Registry.Action → Roster
  | .create o _ =>
    if r.used o then r
    else { r with used := Function.update r.used o true, owned := Function.update r.owned o true }
  | .register o =>
    if r.owned o = false ∨ o ∈ r.names then r else { r with names := r.names ++ [o] }
  | .unregister o => { r with names := r.names.erase o }
  | .snapshot _ => r
  | .drop o =>
    let r := { r with owned := Function.update r.owned o false }
    { r with names := r.names.filter r.isAlive }

end Roster

namespace Registry

namespace Action

def perform (owner : Owner) : Action → Run Answer
  | create o role => Scenario.createObserver o role
  | register o => Scenario.register owner o
  | unregister o => Scenario.unregister owner o
  | snapshot name => Scenario.takeSnapshot owner name
  | drop o => Scenario.drop o

section Worlds

variable (owner : Owner) (w : World) (o name : Name)

theorem world_create (role : Role) :
    ((create o role).perform owner w).2 =
      if w.observers.contains o then w
      else { w with observers := w.observers.set o (.new role) } := by
  cases hused : w.observers.contains o <;>
    simp [perform, Scenario.createObserver, Scenario.given, Run.bind_apply, hused]

theorem world_register :
    ((register o).perform owner w).2 = if w.isOwned o then w.register owner o else w := by
  cases howned : w.isOwned o <;>
    simp [perform, Scenario.register, Scenario.given, Run.bind_apply, howned]

theorem world_unregister : ((unregister o).perform owner w).2 = w.unregister owner o := rfl

theorem world_snapshot :
    ((snapshot name).perform owner w).2 =
      { w.prune owner with
        snapshots :=
          (w.prune owner).snapshots.set name ((w.prune owner).registry owner).entries } :=
  rfl

theorem world_drop : ((drop o).perform owner w).2 = if w.isOwned o then w.disown o else w := by
  cases howned : w.isOwned o <;> simp [perform, Scenario.drop, Run.bind_apply, howned]

theorem observer_drop (x : Name) :
    ((drop o).perform owner w).2.observer x =
      if x = o then { w.observer o with owned := false } else w.observer x := by
  rw [world_drop]
  cases howned : w.isOwned o with
  | true => exact observer_disown w o x
  | false =>
      -- an owner that has let go has no more to let go of
      have hsame : { w.observer o with owned := false } = w.observer o := by
        rw [← howned]
        rfl
      rw [hsame, if_neg Bool.false_ne_true]
      split_ifs with hx
      · rw [hx]
      · rfl

theorem contains_drop (x : Name) :
    ((drop o).perform owner w).2.observers.contains x = w.observers.contains x := by
  rw [world_drop]
  split_ifs with howned
  · rw [contains_disown]
    by_cases hx : x = o
    · rw [hx, contains_of_isAlive (isAlive_of_isOwned howned), Bool.or_true]
    · rw [decide_eq_false hx, Bool.false_or]
  · rfl

theorem registry_drop : ((drop o).perform owner w).2.registry owner = w.registry owner := by
  rw [world_drop]
  split_ifs
  · exact registry_disown w o owner
  · rfl

end Worlds

/-- What the action does with the entries and their flags. -/
def flag (r : Roster) (c : Flagged) : Action → Flagged
  | register o => if r.owned o then c.insert r.isAlive o else c
  | unregister o => c.remove o
  | snapshot _ => c.prune r.isAlive
  | create .. | drop _ => c

end Action

/-- A world, and what one of its registries should be. -/
structure Account where
  world : World
  flagged : Flagged
  roster : Roster

namespace Account

def start (w : World) (owner : Owner) : Account :=
  ⟨w, ⟨w.registry owner, fun _ => false⟩, .ofWorld w⟩

def step (owner : Owner) (a : Account) (action : Action) : Account :=
  ⟨(action.perform owner a.world).2, action.flag a.roster a.flagged, a.roster.step action⟩

/-- Actions are done one after the other. -/
def run (owner : Owner) (a : Account) (actions : List Action) : Account :=
  actions.foldl (step owner) a

/-- The registry of the world is the one that should be. -/
structure Right (owner : Owner) (a : Account) : Prop where
  registry : a.flagged.registry = a.world.registry owner
  faithful : a.flagged.Faithful
  names : a.world.keys owner = a.roster.names
  used : ∀ o, a.world.observers.contains o = a.roster.used o
  owned : ∀ o, a.world.isOwned o = a.roster.owned o
  held : ∀ o, decide (0 < (a.world.observer o).holds) = a.roster.held o
  /-- Entries are of observers that have been made, so a new one has none. -/
  listed : ∀ e ∈ (a.world.registry owner).entries, a.roster.used e.key = true

namespace Right

variable {owner : Owner} {a : Account}

theorem start {w : World} (hempty : (w.registry owner).entries = []) :
    Right owner (.start w owner) where
  registry := rfl
  faithful := .of_entries_eq_nil hempty
  names := by
    change ((w.registry owner).entries.map (·.key)).filter w.isAlive = []
    rw [hempty]
    rfl
  used _ := rfl
  owned _ := rfl
  held _ := rfl
  listed := by
    change ∀ e ∈ (w.registry owner).entries, _
    simp [hempty]

theorem alive (h : Right owner a) : a.world.isAlive = a.roster.isAlive := by
  funext o
  rw [Roster.isAlive, ← h.owned, ← h.held]
  rfl

/-- An action that leaves the observers alone is judged by what it does with the registry. -/
theorem of_observers (h : Right owner a) {w : World} {c : Flagged} {names : List Name}
    (hobservers : w.observers = a.world.observers) (hregistry : c.registry = w.registry owner)
    (hfaithful : c.Faithful) (hnames : c.registry.keys a.roster.isAlive = names)
    (hlisted : ∀ e ∈ c.registry.entries, a.roster.used e.key = true) :
    Right owner ⟨w, c, { a.roster with names }⟩ := by
  have hobserver : w.observer = a.world.observer := by
    funext o
    unfold observer
    rw [hobservers]
  have halive : w.isAlive = a.roster.isAlive := by
    rw [← h.alive]
    funext o
    unfold World.isAlive
    rw [hobserver]
  constructor
  · exact hregistry
  · exact hfaithful
  · unfold World.keys
    dsimp only
    rw [← hregistry, halive]
    exact hnames
  · intro o
    dsimp only
    rw [hobservers]
    exact h.used o
  · intro o
    unfold isOwned
    dsimp only
    rw [hobserver]
    exact h.owned o
  · intro o
    dsimp only
    rw [hobserver]
    exact h.held o
  · dsimp only
    rw [← hregistry]
    exact hlisted

theorem keys_eq (h : Right owner a) :
    a.flagged.registry.keys a.roster.isAlive = a.roster.names := by
  rw [h.registry, ← h.alive]
  exact h.names

theorem used_of_mem (h : Right owner a) {e : Entry} (he : e ∈ a.flagged.registry.entries) :
    a.roster.used e.key = true := by
  rw [h.registry] at he
  exact h.listed e he

theorem unregister (h : Right owner a) (o : Name) : Right owner (a.step owner (.unregister o)) := by
  apply h.of_observers
  · rw [Action.world_unregister, observers_unregister]
  · rw [Action.world_unregister, registry_unregister, if_pos rfl, ← h.registry]
    exact Flagged.registry_remove
  · exact h.faithful.remove o
  · rw [Action.flag, Flagged.registry_remove, keys_of_remove h.faithful.sound, h.keys_eq]
  · intro e he
    rw [Action.flag, Flagged.registry_remove] at he
    exact h.used_of_mem (List.mem_of_mem_eraseP he)

theorem snapshot (h : Right owner a) (name : Name) :
    Right owner (a.step owner (.snapshot name)) := by
  apply h.of_observers
  · exact observers_updateRegistry a.world owner _
  · rw [Action.world_snapshot]
    have hpruned : (a.world.prune owner).registry owner =
        a.flagged.registry.prune a.roster.isAlive := by
      rw [registry_prune, if_pos rfl, ← h.registry, h.alive]
    cases owner <;> exact hpruned.symm
  · exact h.faithful.prune _
  · exact keys_of_prune.trans h.keys_eq
  · intro e he
    exact h.used_of_mem (List.mem_of_mem_filter he)

theorem register (h : Right owner a) (o : Name) : Right owner (a.step owner (.register o)) := by
  unfold step
  rw [Action.world_register, h.owned, Action.flag, Roster.step]
  by_cases howned : a.roster.owned o = true
  · have hlive : a.roster.isAlive o = true := by simp [Roster.isAlive, howned]
    have hlisted : ∀ e ∈ (a.flagged.insert a.roster.isAlive o).registry.entries,
        a.roster.used e.key = true := by
      intro e he
      rw [Flagged.registry_insert, insert_eq] at he
      split at he
      next => exact h.used_of_mem (List.mem_of_mem_filter he)
      next =>
        rcases List.mem_append.mp he with hmem | hnew
        · exact h.used_of_mem (List.mem_of_mem_filter hmem)
        · rw [List.mem_singleton] at hnew
          rw [hnew, ← h.used]
          exact contains_of_isAlive (h.alive ▸ hlive)
    have hright : ∀ names, (if o ∈ a.roster.names then a.roster.names else a.roster.names ++ [o]) =
        names → Right owner ⟨a.world.register owner o, a.flagged.insert a.roster.isAlive o,
          { a.roster with names }⟩ := by
      intro names hnames
      apply h.of_observers (observers_register _ _ _) _ (h.faithful.insert _ _) _ hlisted
      · rw [Flagged.registry_insert, registry_register, if_pos rfl, ← h.registry, h.alive]
      · rw [Flagged.registry_insert, keys_insert hlive, h.keys_eq, hnames]
    rw [if_pos howned, if_pos howned]
    by_cases hmem : o ∈ a.roster.names
    · rw [if_pos (.inr hmem)]
      exact hright _ (if_pos hmem)
    · rw [if_neg (by simp [howned, hmem])]
      exact hright _ (if_neg hmem)
  · rw [if_neg howned, if_neg howned, if_pos (.inl (Bool.not_eq_true _ ▸ howned))]
    exact h

/-- A new observer has a name that no entry has. -/
theorem create (h : Right owner a) (o : Name) (role : Role) :
    Right owner (a.step owner (.create o role)) := by
  unfold step
  rw [Action.world_create, h.used, Action.flag, Roster.step]
  by_cases hused : a.roster.used o = true
  · rw [if_pos hused, if_pos hused]
    exact h
  · rw [if_neg hused, if_neg hused]
    have hnone : a.world.observer o = default := by
      apply Table.get_of_not_contains
      rw [h.used]
      exact Bool.not_eq_true _ ▸ hused
    have hobserver : ∀ x, { a.world with
        observers := a.world.observers.set o (.new role) : World }.observer x =
          if x = o then .new role else a.world.observer x :=
      fun x => Table.get_set a.world.observers o x (.new role)
    have hregistry : { a.world with
        observers := a.world.observers.set o (.new role) : World }.registry owner =
          a.world.registry owner := by
      cases owner <;> rfl
    constructor
    · rw [hregistry]
      exact h.registry
    · exact h.faithful
    · unfold World.keys
      rw [hregistry, ← h.names]
      apply keys_congr
      intro e he
      unfold World.isAlive
      -- the new observer lives, but no entry is of its name
      rw [hobserver, if_neg]
      rintro rfl
      exact hused (h.listed e he)
    · intro x
      dsimp only
      rw [Table.contains_set, Function.update_apply, h.used]
      split_ifs with hx
      · rw [decide_eq_true hx, Bool.true_or]
      · rw [decide_eq_false hx, Bool.false_or]
    · intro x
      unfold World.isOwned
      dsimp only
      rw [hobserver, Function.update_apply]
      split_ifs with hx
      · rfl
      · exact h.owned x
    · intro x
      dsimp only
      rw [hobserver, ← h.held]
      split_ifs with hx
      · rw [hx, hnone]
        rfl
      · rfl
    · intro e he
      rw [hregistry] at he
      dsimp only
      rw [Function.update_apply, h.listed e he, ite_self]

/-- An observer that its owner drops is taken out, unless somebody else keeps it. -/
theorem drop (h : Right owner a) (o : Name) : Right owner (a.step owner (.drop o)) := by
  have howned : ∀ x, ((Action.drop o).perform owner a.world).2.isOwned x =
      Function.update a.roster.owned o false x := by
    intro x
    unfold World.isOwned
    rw [Action.observer_drop, Function.update_apply]
    split_ifs with hx
    · rfl
    · exact h.owned x
  have hheld : ∀ x, decide (0 < (((Action.drop o).perform owner a.world).2.observer x).holds) =
      a.roster.held x := by
    intro x
    rw [Action.observer_drop, ← h.held]
    split_ifs with hx
    · rw [hx]
    · rfl
  have halive : ((Action.drop o).perform owner a.world).2.isAlive =
      (a.roster.step (.drop o)).isAlive := by
    funext x
    rw [Roster.isAlive, Roster.step, ← hheld]
    dsimp only
    rw [← howned]
    rfl
  constructor
  · exact h.registry.trans (Action.registry_drop owner a.world o).symm
  · exact h.faithful
  · have hfewer : ∀ x, (a.roster.step (.drop o)).isAlive x = true → a.roster.isAlive x = true := by
      intro x hx
      simp only [Roster.isAlive, Roster.step, Bool.or_eq_true, Function.update_apply] at hx ⊢
      apply hx.imp_left
      intro hstill
      split_ifs at hstill
      exact hstill
    unfold World.keys step
    dsimp only
    -- the entry stays where it is; only its observer is no longer counted
    rw [halive, Action.registry_drop, keys_of_fewer hfewer, ← h.registry, h.keys_eq]
    rfl
  · intro x
    exact (Action.contains_drop owner a.world o x).trans (h.used x)
  · exact howned
  · exact hheld
  · intro e he
    unfold step at he
    dsimp only at he
    rw [Action.registry_drop] at he
    exact h.listed e he

theorem step (h : Right owner a) (action : Action) : Right owner (a.step owner action) := by
  cases action with
  | create o role => exact h.create o role
  | register o => exact h.register o
  | unregister o => exact h.unregister o
  | snapshot name => exact h.snapshot name
  | drop o => exact h.drop o

theorem run (h : Right owner a) (actions : List Action) : Right owner (a.run owner actions) := by
  induction actions generalizing a with
  | nil => exact h
  | cons action actions ih => exact ih (h.step action)

end Right

/-! ## Entries and snapshots of earlier times -/

theorem precedes_step (owner : Owner) (a : Account) (action : Action) :
    a.flagged.registry.Precedes (a.step owner action).flagged.registry := by
  cases action with
  | create o role => exact .refl _
  | register o =>
      unfold step Action.flag
      dsimp only
      split_ifs
      · rw [Flagged.registry_insert]
        exact .insert _ _ _
      · exact .refl _
  | unregister o =>
      unfold step Action.flag
      rw [Flagged.registry_remove]
      exact .remove _ _
  | snapshot name => exact .prune _ _
  | drop o => exact .refl _

theorem precedes_run (owner : Owner) (a : Account) (actions : List Action) :
    a.flagged.registry.Precedes (a.run owner actions).flagged.registry := by
  induction actions generalizing a with
  | nil => exact .refl _
  | cons action actions ih => exact (precedes_step owner a action).trans (ih (a.step owner action))

theorem run_append (owner : Owner) (a : Account) (actions more : List Action) :
    a.run owner (actions ++ more) = (a.run owner actions).run owner more := List.foldl_append

/-- The flag of an entry that has left is cleared, and stays so. -/
theorem flag_of_left {owner : Owner} {a : Account} (h : Right owner a) {e : Entry}
    (he : e ∈ a.flagged.registry.entries) {later more : List Action}
    (hleft : e ∉ (a.run owner later).flagged.registry.entries) :
    ((a.run owner later).run owner more).flagged.flags e.ticket = false := by
  have hmore : Right owner ((a.run owner later).run owner more) := (h.run later).run more
  rw [hmore.faithful.flags]
  exact (precedes_run owner a later).isCurrent_eq_false (precedes_run owner _ more) h.faithful.sound
    he hleft

/-- Only a new snapshot under its name changes a snapshot. -/
theorem snapshots_step {owner : Owner} (a : Account) {name : Name} {action : Action}
    (hother : action ≠ .snapshot name) :
    (a.step owner action).world.snapshots.get name = a.world.snapshots.get name := by
  unfold step
  dsimp only
  cases action with
  | create o role =>
      rw [Action.world_create]
      split_ifs <;> rfl
  | register o =>
      rw [Action.world_register]
      split_ifs
      · rw [snapshots_register]
      · rfl
  | unregister o => rw [Action.world_unregister, snapshots_unregister]
  | snapshot other =>
      have hname : name ≠ other := by
        rintro rfl
        exact hother rfl
      rw [Action.world_snapshot, Table.get_set, if_neg hname, World.prune, snapshots_updateRegistry]
  | drop o =>
      rw [Action.world_drop]
      split_ifs
      · rw [snapshots_disown]
      · rfl

theorem snapshots_run {owner : Owner} (a : Account) {name : Name} {actions : List Action}
    (hother : ∀ action ∈ actions, action ≠ .snapshot name) :
    (a.run owner actions).world.snapshots.get name = a.world.snapshots.get name := by
  induction actions generalizing a with
  | nil => rfl
  | cons action actions ih =>
      obtain ⟨hfirst, hrest⟩ := List.forall_mem_cons.mp hother
      exact (ih (a.step owner action) hrest).trans (a.snapshots_step hfirst)

/-- The names as they are answered. -/
theorem Right.listKeys_eq {owner : Owner} {a : Account} (h : Right owner a) :
    Scenario.listKeys owner a.world =
      (.ok (.keys a.roster.names.length a.roster.names.isEmpty a.roster.names), a.world) := by
  have hnames : (a.world.registry owner).keys a.world.isAlive = a.roster.names := h.names
  rw [Scenario.listKeys, Run.read_apply]
  dsimp only
  rw [length_eq, isEmpty_eq, hnames]

/-- A snapshot that is taken has the names, and is answered and stored with them. -/
theorem Right.takeSnapshot_eq {owner : Owner} {a : Account} (h : Right owner a) (name : Name) :
    let taken := Scenario.takeSnapshot owner name a.world
    let names := a.roster.names
    taken.1 = .ok (.keys names.length names.isEmpty names) ∧
    (taken.2.snapshots.get name).map (·.key) = names := by
  intro taken names
  have hkeys : ((a.world.prune owner).registry owner).entries.map (·.key) = names := by
    rw [registry_prune, if_pos rfl, keys_prune]
    exact h.names
  have hstored : taken.2.snapshots.get name = ((a.world.prune owner).registry owner).entries := by
    change ((a.world.prune owner).snapshots.set name _).get name = _
    rw [Table.get_set, if_pos rfl]
  constructor
  · change Except.ok (Scenario.snapshotAnswer ((a.world.prune owner).registry owner).entries) = _
    rw [Scenario.snapshotAnswer, hkeys, ← List.length_map (·.key), hkeys, ← List.isEmpty_map, hkeys]
  · rw [hstored]
    exact hkeys

end Account

/-! ## The registry and the list -/

/-- Whatever is done with a registry that is empty at first, its keys are those of a plain list
without repetitions. The flag of an entry is set while the entry stands and stays cleared once it
has left, and a snapshot keeps the keys that it was taken with. -/
theorem registry_matches_roster {w : World} {owner : Owner}
    (hempty : (w.registry owner).entries = []) (actions : List Action) :
    let a := (Account.start w owner).run owner actions
    let r := a.world.registry owner
    let names := a.roster.names
    (r.entries.map (·.key)).Nodup ∧
    a.flagged.registry = r ∧ (∀ e, r.isCurrent e = a.flagged.flags e.ticket) ∧
    (∀ e ∈ r.entries, a.flagged.flags e.ticket = true) ∧
    (∀ earlier later, actions = earlier ++ later →
      ∀ e ∈ (((Account.start w owner).run owner earlier).world.registry owner).entries,
        e ∉ r.entries → ∀ more, (a.run owner more).flagged.flags e.ticket = false) ∧
    a.world.keys owner = names ∧
    Scenario.listKeys owner a.world =
      (.ok (.keys names.length names.isEmpty names), a.world) ∧
    (∀ key, r.contains a.world.isAlive key = decide (key ∈ names)) ∧
    (∀ name,
      let taken := Scenario.takeSnapshot owner name a.world
      taken.1 = .ok (.keys names.length names.isEmpty names) ∧
      (taken.2.snapshots.get name).map (·.key) = names) ∧
    (∀ name more, (∀ action ∈ more, action ≠ .snapshot name) →
      (a.run owner more).world.snapshots.get name = a.world.snapshots.get name) := by
  intro a r names
  have hstart : Account.Right owner (.start w owner) := .start hempty
  have hright : Account.Right owner a := hstart.run actions
  have hflags : ∀ e, r.isCurrent e = a.flagged.flags e.ticket := by
    intro e
    rw [hright.faithful.flags, hright.registry]
  refine ⟨?_, hright.registry, hflags, ?_, ?_, hright.names, hright.listKeys_eq, ?_, ?_, ?_⟩
  · have hsound := hright.faithful.sound
    rw [hright.registry] at hsound
    exact hsound.keys
  · intro e he
    rw [← hflags]
    exact isCurrent_of_mem he
  · intro earlier later hdeeds e he hleft more
    have hearlier := hstart.run earlier
    have ha : a = ((Account.start w owner).run owner earlier).run owner later := by
      rw [← Account.run_append, ← hdeeds]
    rw [← hearlier.registry] at he
    change e ∉ (a.world.registry owner).entries at hleft
    rw [← hright.registry, ha] at hleft
    rw [ha]
    exact Account.flag_of_left hearlier he hleft
  · intro key
    rw [contains_eq]
    have hnames : r.keys a.world.isAlive = names := hright.names
    rw [hnames]
  · exact hright.takeSnapshot_eq
  · intro name more hother
    exact a.snapshots_run hother

/-- Two observers; the first is removed and registered again, the second is dropped. -/
def rejoining : List Action :=
  [.create "a" (.quiet false), .create "b" (.quiet true), .register "a", .register "b",
    .register "a", .snapshot "s", .unregister "a", .register "a", .drop "b"]

/-- The entry of the second observer is still there, but its key is not; the first has a new entry,
and the flag of the old one, which the snapshot holds, does not come back with it. -/
theorem registry_matches_roster_rejoining :
    (World.empty.registry (.standalone 0)).entries = [] ∧
    let a := (Account.start .empty (.standalone 0)).run (.standalone 0) rejoining
    (a.world.registry (.standalone 0)).entries = [⟨"b", 1⟩, ⟨"a", 2⟩] ∧
    a.world.keys (.standalone 0) = ["a"] ∧
    a.world.snapshots.get "s" = [⟨"a", 0⟩, ⟨"b", 1⟩] ∧
    (a.run (.standalone 0) [.unregister "a", .register "a"]).flagged.flags 0 = false ∧
    (a.run (.standalone 0) [.unregister "a", .drop "a"]).world.snapshots.get "s" =
      [⟨"a", 0⟩, ⟨"b", 1⟩] := by
  have hempty : (World.empty.registry (.standalone 0)).entries = [] := rfl
  obtain ⟨-, -, -, -, hleft, hkeys, -, -, -, hstays⟩ := registry_matches_roster hempty rejoining
  refine ⟨hempty, by decide +kernel, ?_, by decide +kernel, ?_, ?_⟩
  · rw [hkeys]
    decide +kernel
  · exact hleft (rejoining.take 4) (rejoining.drop 4) rfl ⟨"a", 0⟩ (by decide +kernel)
      (by decide +kernel) _
  · rw [hstays "s" _ (by simp)]
    decide +kernel

end Registry

end ChangeNotice
