import ChangeNotice.Notify
import ChangeNotice.Proofs.PassTurns

/-! # Notifications are made of changes

A notification takes its slot, prepares its document, lets its pass run and gives
the slot back, and it asks its handlers only during the pass.
-/

namespace ChangeNotice

open World

namespace World

variable {w : World} {d : Name} {t : Thread} {n : Notice} {depth : Nat} {left : Dispatcher}

theorem accept_reaches (hleft : (w.document d).dispatcher.enter? t = some (depth, left)) :
    w.Reaches (slotOf d t) ((w.takeSlot d t n left).prepare d n) where
  leads := .of_change (.accept d t n depth left hleft)
  slots := by
    funext d' t'
    exact inFlight_accept hleft d' t'

/-- The slot is given back: those that were taken before are left. -/
theorem release_settles {v u : World} (hv : w.Reaches (slotOf d t) v) (hu : v.Settles u) :
    Evolves w u (u.releaseSlot d t) ∧ (u.releaseSlot d t).inFlight = w.inFlight := by
  have hslots : u.inFlight = w.inFlight + slotOf d t := by rw [hu.inFlight, hv.slots]
  have htaken : u.inFlight d t = w.inFlight d t + 1 := by simp [hslots, slotOf]
  refine ⟨Relation.ReflTransGen.single (.release d t (by omega)), ?_⟩
  funext d' t'
  rw [inFlight_releaseSlot]
  split
  next heq =>
    obtain ⟨rfl, rfl⟩ := heq
    omega
  next hne => simp [hslots, slotOf, hne]

end World

namespace Notify

variable {α : Type} {w : World} {handle handle' : Handlers} {t : Thread} {d : Name}

/-- Only an observer that is held is called. -/
theorem deliver_tracks (hh : handle.Track w noSlots handle') (n : Notice) {o : Name}
    (hheld : 0 < (w.observer o).holds) :
    Run.Tracks w (deliver handle t d n o) (deliver handle' t d n o) := by
  rw [deliver_eq, deliver_eq]
  refine .read_bind ?_
  split
  · refine .read_bind ?_
    have hcall : w.Settles (w.record (.called (w.callOf t d o n))) :=
      .of_change (.call t d o n hheld) rfl
    refine .change_bind hcall ?_
    refine (hh _ hcall t d o n).bind fun v u _ _ => ?_
    exact .note_bind rfl (.pure _ _)
  · exact .pure w none

theorem announce_tracks (hsound : w.Sound) (hdocument : w.documents.contains d = true)
    (hh : handle.Track w noSlots handle') (n : Notice) (depth : Nat) :
    Run.Tracks w (announce handle t d n depth) (announce handle' t d n depth) := by
  refine .read_bind ?_
  exact Pass.start_tracks hsound hdocument
    fun v o hv hheld => deliver_tracks (hh.settled hv) n hheld

theorem withSlot_full {n : Notice} {body : Nat → Run (Except NotifyError α)}
    (h : (w.document d).dispatcher.enter? t = none) :
    withSlot t d n body w =
      (.ok (.error (.depthExceeded (w.document d).id n.kind (w.document d).dispatcher.maxDepth)),
        w.record (.refused (.document d) t (w.document d).id n.kind
          (w.document d).dispatcher.maxDepth)) := by
  simp only [withSlot, Run.bind_apply, Run.read_apply, h]
  rfl

theorem withSlot_taken {n : Notice} {body : Nat → Run (Except NotifyError α)}
    {depth : Nat} {left : Dispatcher}
    (h : (w.document d).dispatcher.enter? t = some (depth, left)) :
    withSlot t d n body w = ((body depth (w.takeSlot d t n left)).1,
      (body depth (w.takeSlot d t n left)).2.releaseSlot d t) := by
  simp only [withSlot, Run.bind_apply, Run.read_apply, h, Run.change_apply, Run.ensuring_apply]

/-- A notification is followed from where its document has been prepared. -/
theorem withSlot_tracks {n : Notice} {body body' : Nat → Run (Except NotifyError α)}
    (rest rest' : Nat → Run (Except NotifyError α))
    (hbody : ∀ depth v, body depth v = rest depth (v.prepare d n))
    (hbody' : ∀ depth v, body' depth v = rest' depth (v.prepare d n))
    (hrest : ∀ depth left, (w.document d).dispatcher.enter? t = some (depth, left) →
      Run.Tracks ((w.takeSlot d t n left).prepare d n) (rest depth) (rest' depth)) :
    Run.Tracks w (withSlot t d n body) (withSlot t d n body') := by
  unfold withSlot
  apply Run.Tracks.read_bind
  cases hleft : (w.document d).dispatcher.enter? t with
  | none => exact .note_bind rfl (.pure _ _)
  | some slot =>
      obtain ⟨depth, left⟩ := slot
      have haccept : w.Reaches (slotOf d t) ((w.takeSlot d t n left).prepare d n) :=
        accept_reaches hleft
      obtain ⟨hsame, hsettles⟩ := Run.Tracks.ensuring (·.releaseSlot d t) haccept.leads
        (hrest depth left hleft) fun u hu => release_settles haccept hu
      rw [Run.ensuring_apply, Run.ensuring_apply, ← hbody, ← hbody'] at hsame
      rw [Run.ensuring_apply, ← hbody] at hsettles
      exact ⟨hsame, hsettles⟩

end Notify

end ChangeNotice
