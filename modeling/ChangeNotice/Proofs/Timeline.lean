import ChangeNotice.Journal
import Mathlib.Data.List.Basic
import Mathlib.Data.List.Nodup

/-! # Reading passes and registrations off the journal

The journal has its newest moment first. A pass is found by its serial number:
the moment at which it took its snapshot, what has happened since, and the turns
that its slots have had. The list of registered observers is replayed from the
moments that register and unregister.
-/

namespace ChangeNotice

namespace Moment

/-- The pass and its slots, if this is the moment at which the pass took its snapshot. -/
def opens? (serial : Nat) : Moment → Option (PassInfo × List Name)
  | passEntered p slots => if p.serial = serial then some (p, slots) else none
  | _ => none

/-- The turn of a slot: whose, and what had become of it. Only a live observer is invoked. -/
def turn? (serial : Nat) : Moment → Option (Name × Resolved)
  | invoking p o => if p.serial = serial then some (o, .live) else none
  | skipping p o => if p.serial = serial then some (o, .unregistered) else none
  | missing p o => if p.serial = serial then some (o, .dropped) else none
  | _ => none

/-- The moment neither opens the pass nor is a turn of it. -/
def SilentOn (serial : Nat) (m : Moment) : Prop := m.opens? serial = none ∧ m.turn? serial = none

/-- What the moment does to the list of registered observers. -/
def relist (owner : Owner) (m : Moment) (keys : List Name) : List Name :=
  match m with
  | registered owner' key => if owner' = owner then keys ++ [key] else keys
  | unregistered owner' key => if owner' = owner then keys.erase key else keys
  | _ => keys

theorem relist_cases (owner : Owner) (m : Moment) (keys : List Name) :
    m.relist owner keys = keys ∨
    (∃ key, m = registered owner key ∧ m.relist owner keys = keys ++ [key]) ∨
    ∃ key, m = unregistered owner key ∧ m.relist owner keys = keys.erase key := by
  unfold relist
  split
  next owner' key =>
    split
    next heq => exact .inr (.inl ⟨key, by rw [heq], rfl⟩)
    next => exact .inl rfl
  next owner' key =>
    split
    next heq => exact .inr (.inr ⟨key, by rw [heq], rfl⟩)
    next => exact .inl rfl
  next => exact .inl rfl

theorem nodup_relist {owner : Owner} {m : Moment} {keys : List Name} (hkeys : keys.Nodup)
    (hnew : ∀ key, m = registered owner key → key ∉ keys) : (m.relist owner keys).Nodup := by
  rcases relist_cases owner m keys with hsame | ⟨key, hm, hlist⟩ | ⟨key, -, hlist⟩
  · rw [hsame]
    exact hkeys
  · rw [hlist, ← List.concat_eq_append]
    exact hkeys.concat (hnew key hm)
  · rw [hlist]
    exact hkeys.erase key

end Moment

namespace Journal

/-- The moments since the pass took its snapshot. -/
def since (serial : Nat) (past : List Moment) : List Moment :=
  past.takeWhile fun m => (m.opens? serial).isNone

/-- The pass and the slots of its snapshot. -/
def opening? (serial : Nat) (past : List Moment) : Option (PassInfo × List Name) :=
  past.findSome? (·.opens? serial)

/-- The turns that slots of the pass have had, in the order in which they came. -/
def turns (serial : Nat) (past : List Moment) : List (Name × Resolved) :=
  ((since serial past).filterMap (·.turn? serial)).reverse

/-- The observers whose turn has come. -/
def visitedKeys (serial : Nat) (past : List Moment) : List Name :=
  (turns serial past).map Prod.fst

/-- The observers that the pass has invoked. -/
def invokedKeys (serial : Nat) (past : List Moment) : List Name :=
  ((turns serial past).filter fun turn => turn.2 = .live).map Prod.fst

/-- The registered observers in the order of their registration, the dead among them included. -/
def standing (owner : Owner) (past : List Moment) : List Name :=
  past.foldr (Moment.relist owner) []

section

variable {serial : Nat} {m : Moment} {past : List Moment}

theorem since_cons (h : m.opens? serial = none) :
    since serial (m :: past) = m :: since serial past := by
  simp [since, h]

theorem since_cons_of_opens {opened : PassInfo × List Name} (h : m.opens? serial = some opened) :
    since serial (m :: past) = [] := by
  simp [since, h]

theorem turns_cons (h : m.opens? serial = none) :
    turns serial (m :: past) = turns serial past ++ (m.turn? serial).toList := by
  unfold turns
  rw [since_cons h, List.filterMap_cons]
  cases m.turn? serial <;> simp

theorem turns_cons_of_opens {opened : PassInfo × List Name} (h : m.opens? serial = some opened) :
    turns serial (m :: past) = [] := by
  simp [turns, since_cons_of_opens h]

theorem opening?_cons (h : m.opens? serial = none) :
    opening? serial (m :: past) = opening? serial past := by
  simp [opening?, h]

theorem opening?_cons_of_opens {opened : PassInfo × List Name}
    (h : m.opens? serial = some opened) : opening? serial (m :: past) = some opened := by
  simp [opening?, h]

theorem since_append {news : List Moment} (h : ∀ m ∈ news, m.opens? serial = none) :
    since serial (news ++ past) = news ++ since serial past := by
  induction news with
  | nil => rfl
  | cons m news ih =>
      obtain ⟨hm, hnews⟩ := List.forall_mem_cons.mp h
      rw [List.cons_append, since_cons hm, ih hnews]
      rfl

/-- A stretch of journal that is silent on a pass changes nothing about it. -/
theorem silent_append (news : List Moment) (h : ∀ m ∈ news, m.SilentOn serial) :
    turns serial (news ++ past) = turns serial past ∧
      opening? serial (news ++ past) = opening? serial past := by
  induction news with
  | nil => exact ⟨rfl, rfl⟩
  | cons m news ih =>
      obtain ⟨hm, hnews⟩ := List.forall_mem_cons.mp h
      obtain ⟨hturns, hopening⟩ := ih hnews
      refine ⟨?_, ?_⟩
      · rw [List.cons_append, turns_cons hm.1, hm.2, hturns]
        simp
      · rw [List.cons_append, opening?_cons hm.1, hopening]

end

/-- Every moment is right, given what came before it. -/
def Throughout (P : List Moment → Moment → Prop) : List Moment → Prop
  | [] => True
  | m :: past => P past m ∧ Throughout P past

theorem throughout_iff {P : List Moment → Moment → Prop} {past : List Moment} :
    Throughout P past ↔ ∀ later m earlier, past = later ++ m :: earlier → P earlier m := by
  induction past with
  | nil => simp [Throughout]
  | cons m past ih =>
      constructor
      · intro h later m' earlier hsplit
        cases later with
        | nil =>
            obtain ⟨rfl, rfl⟩ := List.cons.inj hsplit
            exact h.1
        | cons m'' later => exact ih.mp h.2 later m' earlier (List.cons.inj hsplit).2
      · intro h
        refine ⟨h [] m past rfl, ih.mpr fun later m' earlier hsplit => ?_⟩
        exact h (m :: later) m' earlier (congrArg (m :: ·) hsplit)

theorem Throughout.append {P : List Moment → Moment → Prop} {news past : List Moment}
    (hnews : ∀ m ∈ news, ∀ earlier, P earlier m) (h : Throughout P past) :
    Throughout P (news ++ past) := by
  induction news with
  | nil => exact h
  | cons m news ih =>
      obtain ⟨hm, hnews⟩ := List.forall_mem_cons.mp hnews
      exact ⟨hm _, ih hnews⟩

@[simp]
theorem standing_cons (owner : Owner) (m : Moment) (past : List Moment) :
    standing owner (m :: past) = m.relist owner (standing owner past) := rfl

end Journal

end ChangeNotice
