import ChangeNotice.Proofs.RegistryLaws
import Mathlib.Logic.Function.Basic
import Mathlib.Order.Nat

/-! # Flags that entries share

A registry tells by its tickets whether an entry of some snapshot still stands. The same can
be told without looking at the registry: every ticket has a cell with a flag, which is set
when the entry is made and cleared by whoever takes the entry out, and which the registry
shares with all snapshots that hold the entry. The two ways agree, and no flag is ever set
a second time.
-/

namespace ChangeNotice

namespace Registry

/-! ## Entries of earlier times -/

/-- The second registry has come from the first: it has no entry with a ticket of those times that
was not there then. -/
structure Precedes (r r' : Registry) : Prop where
  issued : r.issued ≤ r'.issued
  entries : ∀ e ∈ r'.entries, e.ticket < r.issued → e ∈ r.entries

namespace Precedes

variable {r r' r'' : Registry} {alive : Name → Bool} {key : Name}

theorem refl (r : Registry) : r.Precedes r := ⟨le_rfl, fun _ he _ => he⟩

theorem trans (h : r.Precedes r') (h' : r'.Precedes r'') : r.Precedes r'' where
  issued := h.issued.trans h'.issued
  entries e he hold := h.entries e (h'.entries e he (hold.trans_le h.issued)) hold

theorem of_sublist {entries : List Entry} (hsub : entries.Sublist r.entries) :
    r.Precedes { r with entries } :=
  ⟨le_rfl, fun _ he _ => hsub.subset he⟩

theorem prune (r : Registry) (alive : Name → Bool) : r.Precedes (r.prune alive) :=
  of_sublist List.filter_sublist

theorem remove (r : Registry) (key : Name) : r.Precedes (r.remove key) :=
  of_sublist List.eraseP_sublist

theorem insert (r : Registry) (alive : Name → Bool) (key : Name) :
    r.Precedes (r.insert alive key) := by
  rw [insert_eq]
  split
  next => exact prune r alive
  next =>
    refine (prune r alive).trans ⟨Nat.le_succ _, ?_⟩
    intro e he hold
    rcases List.mem_append.mp he with hmem | hnew
    · exact hmem
    · rw [List.mem_singleton] at hnew
      subst hnew
      exact absurd hold (lt_irrefl _)

/-- An entry that has left is gone at all later times. -/
theorem isCurrent_eq_false (h : r.Precedes r') (h' : r'.Precedes r'') (hsound : r.Sound) {e : Entry}
    (he : e ∈ r.entries) (hleft : e ∉ r'.entries) : r''.isCurrent e = false := by
  rw [isCurrent_eq_false_iff]
  intro x hx hticket
  have hissued : x.ticket < r.issued := hticket ▸ hsound.issued e he
  have hbetween : x ∈ r'.entries := h'.entries x hx (hissued.trans_le h.issued)
  have hsame : x = e := hsound.eq_of_ticket he (h.entries x hbetween hissued) hticket
  exact hleft (hsame ▸ hbetween)

end Precedes

/-! ## Cells -/

/-- A registry together with the cells of the tickets. -/
structure Flagged where
  registry : Registry
  flags : Nat → Bool

namespace Flagged

/-- Whoever takes an entry out clears its flag. -/
def retire (flags : Nat → Bool) (e : Entry) : Nat → Bool := Function.update flags e.ticket false

def prune (alive : Name → Bool) (c : Flagged) : Flagged where
  registry := c.registry.prune alive
  flags := (c.registry.entries.filter fun e => !alive e.key).foldl retire c.flags

def insert (alive : Name → Bool) (key : Name) (c : Flagged) : Flagged :=
  let c := c.prune alive
  if c.registry.hasKey key then c
  else
    ⟨⟨c.registry.entries ++ [⟨key, c.registry.issued⟩], c.registry.issued + 1⟩,
      Function.update c.flags c.registry.issued true⟩

def remove (key : Name) (c : Flagged) : Flagged :=
  match c.registry.entries.find? (·.key == key) with
  | some e => ⟨c.registry.remove key, retire c.flags e⟩
  | none => c

variable {c : Flagged} {alive : Name → Bool} {key : Name}

@[simp]
theorem registry_prune : (c.prune alive).registry = c.registry.prune alive := rfl

@[simp]
theorem registry_insert : (c.insert alive key).registry = c.registry.insert alive key := by
  rw [insert_eq]
  unfold insert
  dsimp only
  rw [registry_prune]
  split <;> rfl

@[simp]
theorem registry_remove : (c.remove key).registry = c.registry.remove key := by
  unfold remove
  split
  next => rfl
  next hnone =>
    have hsame : c.registry.entries.eraseP (·.key == key) = c.registry.entries :=
      List.eraseP_of_forall_not (List.find?_eq_none.mp hnone)
    rw [Registry.remove, hsame]

/-- The flags tell which entries stand, and the registry is sound. -/
structure Faithful (c : Flagged) : Prop where
  sound : c.registry.Sound
  flags : ∀ e, c.flags e.ticket = c.registry.isCurrent e

theorem foldl_retire (flags : Nat → Bool) (es : List Entry) (ticket : Nat) :
    es.foldl retire flags ticket = (flags ticket && !es.any (·.ticket == ticket)) := by
  induction es generalizing flags with
  | nil => simp
  | cons e es ih =>
      rw [List.foldl_cons, ih, retire, Function.update_apply, List.any_cons]
      by_cases he : ticket = e.ticket
      · simp [he]
      · simp [he, beq_false_of_ne (Ne.symm he)]

theorem flags_prune (c : Flagged) (alive : Name → Bool) (ticket : Nat) :
    (c.prune alive).flags ticket = (c.flags ticket &&
      !(c.registry.entries.filter fun e => !alive e.key).any (·.ticket == ticket)) :=
  foldl_retire c.flags _ ticket

namespace Faithful

theorem of_entries_eq_nil {r : Registry} (h : r.entries = []) : Faithful ⟨r, fun _ => false⟩ where
  sound := by constructor <;> simp [h]
  flags e := by simp [isCurrent, h]

/-- The flags that pruning clears are those of the dead, whose tickets no other entry has. -/
theorem prune (h : c.Faithful) (alive : Name → Bool) : (c.prune alive).Faithful where
  sound := h.sound.prune alive
  flags e := by
    rw [flags_prune, h.flags]
    apply Bool.eq_iff_iff.mpr
    simp only [isCurrent, registry_prune, Registry.prune, List.any_filter, Bool.and_eq_true,
      Bool.not_eq_true', List.any_eq_true, List.any_eq_false, beq_iff_eq, not_and]
    constructor
    · rintro ⟨⟨x, hx, hticket⟩, hdead⟩
      refine ⟨x, hx, ?_, hticket⟩
      by_contra hnot
      exact hdead x hx (by simpa using hnot) hticket
    · rintro ⟨x, hx, halive, hticket⟩
      refine ⟨⟨x, hx, hticket⟩, ?_⟩
      intro y hy hdead hsame
      rw [h.sound.eq_of_ticket hx hy (hsame.trans hticket.symm), halive] at hdead
      exact absurd hdead (by decide)

/-- A new entry has a cell of its own. -/
theorem append (h : c.Faithful) (hkey : c.registry.hasKey key = false) :
    Faithful ⟨⟨c.registry.entries ++ [⟨key, c.registry.issued⟩], c.registry.issued + 1⟩,
      Function.update c.flags c.registry.issued true⟩ where
  sound := h.sound.append hkey
  flags e := by
    have hflags := h.flags e
    unfold isCurrent at hflags ⊢
    dsimp only
    rw [Function.update_apply, hflags, List.any_append, List.any_cons, List.any_nil, Bool.or_false]
    by_cases he : e.ticket = c.registry.issued
    · simp [he]
    · simp [he, beq_false_of_ne (Ne.symm he)]

theorem insert (h : c.Faithful) (alive : Name → Bool) (key : Name) :
    (c.insert alive key).Faithful := by
  unfold Flagged.insert
  dsimp only
  split
  next => exact h.prune alive
  next hnew => exact (h.prune alive).append (Bool.not_eq_true _ ▸ hnew)

theorem remove (h : c.Faithful) (key : Name) : (c.remove key).Faithful := by
  unfold Flagged.remove
  split
  next e hfound =>
    have hmem : e ∈ c.registry.entries := List.mem_of_find?_eq_some hfound
    have hkey : e.key = key := by simpa using List.find?_some hfound
    refine ⟨h.sound.remove key, ?_⟩
    intro x
    dsimp only
    rw [retire, Function.update_apply, h.flags]
    apply Bool.eq_iff_iff.mpr
    simp only [isCurrent, List.any_eq_true, h.sound.mem_remove_iff, beq_iff_eq]
    split_ifs with hticket
    · -- the only entry with this ticket is the one that was taken out
      simp only [false_iff, not_exists, not_and, and_imp]
      intro y hy hother hsame
      rw [h.sound.eq_of_ticket hmem hy (hsame.trans hticket)] at hother
      exact hother hkey
    · rw [List.any_eq_true]
      constructor
      · rintro ⟨y, hy, hsame⟩
        rw [beq_iff_eq] at hsame
        refine ⟨y, ⟨hy, ?_⟩, hsame⟩
        intro hother
        rw [h.sound.eq_of_key hmem hy (hother.trans hkey.symm)] at hsame
        exact hticket hsame.symm
      · rintro ⟨y, ⟨hy, -⟩, hsame⟩
        exact ⟨y, hy, beq_iff_eq.mpr hsame⟩
  next => exact h

end Faithful

end Flagged

end Registry

end ChangeNotice
