import ChangeNotice.Proofs.EntryMoves
import Mathlib.Algebra.Group.Nat.Defs
import Mathlib.Algebra.Group.Pi.Basic

/-! # Runs are made of changes

Every run of the library changes the world only as listed, whatever its handlers
do, as long as they keep to the same, and gives back every slot that it takes.
Two handlers are followed at once: where they agree on all worlds that a run can
lead to, the runs over them agree. So a run asks its handlers in no other worlds.
-/

namespace ChangeNotice

open World

namespace World

/-- A run that begins here can be there, with these slots taken in addition. -/
structure Reaches (w : World) (taken : Name → Thread → Nat) (v : World) : Prop where
  leads : w.Leads v
  slots : v.inFlight = w.inFlight + taken

/-- No slot at all. -/
def noSlots : Name → Thread → Nat := fun _ _ => 0

/-- A run that begins here can be there with all slots given back. -/
abbrev Settles (w v : World) : Prop := w.Reaches noSlots v

/-- The slot that a notification of the document takes. -/
def slotOf (d : Name) (t : Thread) : Name → Thread → Nat :=
  fun d' t' => if d' = d ∧ t' = t then 1 else 0

variable {u v w : World} {taken more : Name → Thread → Nat}

theorem add_noSlots (taken : Name → Thread → Nat) : taken + noSlots = taken := rfl

theorem noSlots_add (taken : Name → Thread → Nat) : noSlots + taken = taken := by
  funext d t
  exact Nat.zero_add _

theorem Reaches.trans (h : u.Reaches taken v) (h' : v.Reaches more w) :
    u.Reaches (taken + more) w where
  leads := h.leads.trans h'.leads
  slots := by rw [h'.slots, h.slots, add_assoc]

namespace Settles

theorem refl (w : World) : w.Settles w := ⟨.refl w, (add_noSlots _).symm⟩

theorem of_change (h : Change w w v) (hslots : v.inFlight = w.inFlight) : w.Settles v :=
  ⟨.of_change h, by rw [hslots, add_noSlots]⟩

theorem inFlight (h : w.Settles v) : v.inFlight = w.inFlight := by
  rw [h.slots, add_noSlots]

theorem trans (h : u.Settles v) (h' : v.Settles w) : u.Settles w :=
  ⟨h.leads.trans h'.leads, by rw [h'.inFlight, h.inFlight, add_noSlots]⟩

end Settles

end World

namespace Run

variable {α β : Type}

/-- From this world on both runs do the same, by changes of the world, and give back the slots that
they take. -/
structure Tracks (w : World) (m m' : Run α) : Prop where
  same : m w = m' w
  settles : w.Settles (m w).2

namespace Tracks

variable {w : World} {m m' : Run α} {f f' : α → Run β}

theorem leads (h : Tracks w m m') : w.Leads (m w).2 := h.settles.leads

theorem sound_of_eq (h : Tracks w m m') (hsound : w.Sound) {result : Except Unwind α} {v : World}
    (hrun : m w = (result, v)) : v.Sound := by
  have hsettles := h.settles
  rw [hrun] at hsettles
  exact Evolves.sound hsettles.leads hsound

theorem pure (w : World) (a : α) : Tracks w (Pure.pure a : Run α) (Pure.pure a) :=
  ⟨rfl, .refl w⟩

theorem read (w : World) (g : World → α) : Tracks w (Run.read g) (Run.read g) := ⟨rfl, .refl w⟩

theorem unwind (w : World) (e : Unwind) : Tracks w (Run.unwind e : Run α) (Run.unwind e) :=
  ⟨rfl, .refl w⟩

theorem change {g : World → World} (h : w.Settles (g w)) :
    Tracks w (Run.change g) (Run.change g) :=
  ⟨rfl, h⟩

theorem note {moment : Moment} (h : moment.isRemark = true) :
    Tracks w (Run.note moment) (Run.note moment) :=
  change (.of_change (.remark moment h) rfl)

theorem bind (h : Tracks w m m')
    (hf : ∀ a v, w.Settles v → m w = (.ok a, v) → Tracks v (f a) (f' a)) :
    Tracks w (m >>= f) (m' >>= f') := by
  have hsettles := h.settles
  cases hrun : m w with
  | mk result v =>
      rw [hrun] at hsettles
      have hrun' : m' w = (result, v) := h.same ▸ hrun
      cases result with
      | ok a =>
          have htail := hf a v hsettles hrun
          refine ⟨?_, ?_⟩
          · rw [bind_apply, bind_apply, hrun, hrun']
            exact htail.same
          · rw [bind_apply, hrun]
            exact hsettles.trans htail.settles
      | error e =>
          refine ⟨?_, ?_⟩
          · rw [bind_apply, bind_apply, hrun, hrun']
          · rw [bind_apply, hrun]
            exact hsettles

/-- What is read is known to be so. -/
theorem read_bind {g : World → α} (h : Tracks w (f (g w)) (f' (g w))) :
    Tracks w (Run.read g >>= f) (Run.read g >>= f') :=
  ⟨h.same, h.settles⟩

theorem change_bind {g : World → World} {k k' : Unit → Run β} (h : w.Settles (g w))
    (hk : Tracks (g w) (k ()) (k' ())) : Tracks w (Run.change g >>= k) (Run.change g >>= k') :=
  ⟨hk.same, h.trans hk.settles⟩

theorem note_bind {moment : Moment} {k k' : Unit → Run β} (h : moment.isRemark = true)
    (hk : Tracks (w.record moment) (k ()) (k' ())) :
    Tracks w (Run.note moment >>= k) (Run.note moment >>= k') :=
  change_bind (.of_change (.remark moment h) rfl) hk

theorem map {g : α → β} (h : Tracks w m m') :
    Tracks w (m >>= fun a => Pure.pure (g a)) (m' >>= fun a => Pure.pure (g a)) :=
  h.bind fun a v _ _ => pure v (g a)

theorem catching {m m' : Run Unit} (h : Tracks w m m') :
    Tracks w (Run.catching m) (Run.catching m') := by
  have hsettles := h.settles
  refine ⟨?_, ?_⟩
  · unfold Run.catching
    rw [h.same]
  · unfold Run.catching
    cases hrun : m w with
    | mk result v =>
        rw [hrun] at hsettles
        match result with
        | .ok () => exact hsettles
        | .error (.panic message) => exact hsettles
        | .error .exhausted => exact hsettles

/-- Cleanup that undoes what the run began with. The run itself is followed from where the cleanup
became due. -/
theorem ensuring {v : World} (after : World → World) (hv : w.Leads v) (h : Tracks v m m')
    (hafter : ∀ u, v.Settles u → Evolves w u (after u) ∧ (after u).inFlight = w.inFlight) :
    Run.ensuring m after v = Run.ensuring m' after v ∧
      w.Settles (Run.ensuring m after v).2 := by
  obtain ⟨hevolves, hslots⟩ := hafter _ h.settles
  refine ⟨?_, ?_, ?_⟩
  · rw [ensuring_apply, ensuring_apply, h.same]
  · rw [ensuring_apply]
    exact Relation.ReflTransGen.trans (hv.trans h.leads) hevolves
  · rw [ensuring_apply, hslots, add_noSlots]

end Tracks

end Run

/-- The handlers do the same in every world that a run can lead to with these slots taken. -/
def Handlers.Track (w : World) (taken : Name → Thread → Nat) (h h' : Handlers) : Prop :=
  ∀ v, w.Reaches taken v → ∀ t d o n, Run.Tracks v (h t d o n) (h' t d o n)

namespace Handlers.Track

variable {w v : World} {taken : Name → Thread → Nat} {h h' : Handlers}

theorem settled (hh : h.Track w taken h') (hv : w.Settles v) : h.Track v taken h' :=
  fun u hu => hh u (noSlots_add taken ▸ Reaches.trans hv hu)

/-- Once the slots have been taken, no more are. -/
theorem reached (hh : h.Track w taken h') (hv : w.Reaches taken v) : h.Track v noSlots h' :=
  fun u hu => hh u (add_noSlots taken ▸ Reaches.trans hv hu)

end Handlers.Track

theorem Run.Tracks.holding {α : Type} {w : World} {o : Name} {m m' : Run α}
    (halive : w.isAlive o = true) (h : Run.Tracks (w.hold o) m m') :
    Run.Tracks w (Run.holding o m) (Run.holding o m') := by
  have hhold : w.Leads (w.hold o) := .of_change (.hold o halive)
  obtain ⟨hsame, hsettles⟩ := Run.Tracks.ensuring (·.unhold o) hhold h fun u hu => by
    refine ⟨Relation.ReflTransGen.single (.unhold o ?_), ?_⟩
    · have hheld := hu.leads.below.holds o
      rw [observer_hold, if_pos rfl] at hheld
      exact hheld
    · rw [inFlight_unhold, hu.inFlight]
      rfl
  exact ⟨hsame, hsettles⟩

end ChangeNotice
