import ChangeNotice.Proofs.Composition
import ChangeNotice.Proofs.NotifyTracks

/-! # Operations are made of changes

Whatever an operation does where it stands, it does by the listed changes of the
world, and it asks its handlers in no other worlds than those it leads to. While
the handlers of a notification run, one more slot of its document is taken; no
other operation takes a slot of a document.
-/

namespace ChangeNotice

open World

namespace World

variable {floor w : World}

/-- Work on guards and dispatchers that stand by themselves is done aside. -/
theorem leaveGuard_change (w : World) (guard : Nat) : Change floor w (w.leaveGuard guard) := by
  unfold leaveGuard releaseIfFree
  simp only
  split
  · exact .aside w.snapshots _ _ w.trackers w.threads
  · exact .aside w.snapshots w.dispatchers _ w.trackers w.threads

theorem inFlight_leaveGuard (w : World) (guard : Nat) :
    (w.leaveGuard guard).inFlight = w.inFlight := by
  unfold leaveGuard releaseIfFree
  simp only
  split <;> rfl

theorem setScope_standalone_settles (w : World) (number : Nat) (s : ScopeState) :
    w.Settles (w.setScope (.standalone number) s) :=
  .of_change (.aside w.snapshots w.dispatchers w.guards _ w.threads) rfl

/-- A counter that stands by itself concerns no document. -/
theorem openScope_standalone_settles (w : World) (number : Nat) (m : UpdateMask) :
    w.Settles (w.openScope (.standalone number) m) :=
  (setScope_standalone_settles w number _).trans (.of_change (.remark _ rfl) rfl)

theorem closeScope_standalone_settles (w : World) (number : Nat) (m : UpdateMask)
    (s : ScopeState) : w.Settles (w.closeScope (.standalone number) m s) := by
  have hclose : ∀ v : World,
      v.Settles
        ((v.setScope (.standalone number) s).record (.scopeClosed (.standalone number) s)) :=
    fun v => (setScope_standalone_settles v number s).trans (.of_change (.remark _ rfl) rfl)
  unfold closeScope
  simp only
  split
  · exact hclose w
  · exact World.Settles.trans (.of_change (.remark _ rfl) rfl) (hclose _)

theorem updateSink_settles (w : World) (o : Name) (f : Sink → Sink) :
    w.Settles (w.updateSink o f) := by
  unfold updateSink
  split
  next hrole => exact .of_change (.reshape o _ (contains_of_role (by simp [hrole])) (by simp)) rfl
  next => exact .refl w

theorem readStream_settles (w : World) (sink : Name) (s : Sink) (events : List Recorded) :
    w.Settles (w.readStream sink s events) :=
  (updateSink_settles w sink _).trans (.of_change (.remark _ rfl) rfl)

end World

variable {α γ : Type} {at? : Option Name} {slot : Option (Name × Thread × Nat)} {w : World}

theorem Edit.settles {g : World → World} (h : Edit w at? g) (hsound : w.Sound) :
    w.Settles (g w) := by
  cases h with
  | aside h =>
      obtain ⟨snapshots, dispatchers, guards, trackers, threads, hkept⟩ := h.kept w
      rw [hkept]
      exact .of_change (.aside snapshots dispatchers guards trackers threads) rfl
  | reject hm =>
      refine .of_change (.remark _ ?_) rfl
      revert hm
      cases ‹Moment› <;> simp [Moment.isRejection, Moment.isRemark]
  | blockScript d content => exact .of_change (.remark _ rfl) rfl
  | createQuiet hnew binding => exact .of_change (.createObserver _ _ hnew) rfl
  | @createSink _ name hnew config =>
      have hmade : w.Settles (w.record (.sinkMade name config)) := .of_change (.remark _ rfl) rfl
      exact hmade.trans (.of_change (.createObserver _ _ hnew) rfl)
  | createRegistry name => exact .of_change (.createRegistry name) rfl
  | disown hown => exact .of_change (.disown _ hown) (inFlight_disown w _)
  | register _ hhosts hown =>
      exact .of_change (.register _ _ (hhosts hsound) hown) (inFlight_register w _ _)
  | unregister _ hhosts o =>
      exact .of_change (.unregister _ o (hhosts hsound)) (inFlight_unregister w _ o)
  | prune _ hhosts =>
      exact .of_change (.prune _ (hhosts hsound)) (inFlight_updateRegistry w _ _)
  | readStream => exact readStream_settles w _ _ _
  | disconnect sink => exact updateSink_settles w sink _
  | openTracker number m => exact openScope_standalone_settles w number m
  | @closeScope _ owner _ m s hleave =>
      cases owner with
      | document d => exact .of_change (.close d m s hleave) (inFlight_closeScope w d m s)
      | standalone number => exact closeScope_standalone_settles w number m s

namespace Operation

/-- The slots that are taken in addition while the handlers of the operation run. -/
def taken (c : Context) (operation : Operation) : Name → Thread → Nat :=
  match operation.notice? with
  | some (d, _) => slotOf (c.documentName d) c.thread
  | none => noSlots

theorem Raises.taken {operation : Operation} {c : Context} {d : Name} {n : Notice}
    (h : operation.Raises c d n) : operation.taken c = slotOf d c.thread := by
  obtain ⟨target, hnotice, rfl⟩ := h
  simp [Operation.taken, hnotice]

theorem taken_of_not_tame {operation : Operation} (h : operation.isTame = false) (c : Context) :
    operation.taken c = noSlots := by
  cases operation <;> first | rfl | simp [isTame] at h

end Operation

namespace Scenario

variable {w : World} {handle handle' : Handlers} {c : Context}

/-- On a document that exists, the operation runs once the document has been noted. -/
theorem onDocument_apply {d : Option Name} (run : Name → Run Answer)
    (h : w.documents.contains (c.documentName d) = true) :
    onDocument c d run w =
      run (c.documentName d) (w.record (.targeted (c.documentName d))) := by
  simp only [onDocument, given, Run.bind_apply, Run.read_apply, h]
  rfl

/-- A new observer is all that is made, unless its name is in use. -/
theorem createObserver_apply (name : Name) (role : Role) (w : World) :
    createObserver name role w = if w.observers.contains name then (.ok unusable, w)
      else (.ok .nothing, { w with observers := w.observers.set name (.new role) }) := by
  simp only [createObserver, given, Run.bind_apply, Run.read_apply]
  cases w.observers.contains name <;> rfl

theorem createObserver_tracks (name : Name) (role : Role) :
    Run.Tracks w (createObserver name role) (createObserver name role) := by
  refine ⟨rfl, ?_⟩
  rw [createObserver_apply]
  split
  next => exact .refl w
  next hnew => exact .of_change (.createObserver name role (by simpa using hnew)) rfl

theorem keeping_tracks {α : Type} {guard : Nat} {m m' : Run α}
    (h : ∀ v, w.Settles v → Run.Tracks v m m') :
    Run.Tracks w (Run.keeping guard m) (Run.keeping guard m') := by
  have hkeep : w.Settles (w.keepGuard guard) :=
    .of_change (.aside w.snapshots w.dispatchers _ w.trackers w.threads) rfl
  obtain ⟨hsame, hsettles⟩ := Run.Tracks.ensuring (·.leaveGuard guard) hkeep.leads (h _ hkeep)
    fun u hu => by
      refine ⟨Relation.ReflTransGen.single (leaveGuard_change u guard), ?_⟩
      rw [inFlight_leaveGuard, hu.inFlight]
      rfl
  exact ⟨hsame, hsettles⟩

theorem visit_tracks (hh : handle.Track w noSlots handle') (v : Visit) {o : Name}
    (hheld : 0 < (w.observer o).holds) :
    Run.Tracks w (visit handle c v o) (visit handle' c v o) := by
  have hvisited : w.Settles (w.record (.visited o)) := .of_change (.remark _ rfl) rfl
  apply Run.Tracks.note_bind rfl
  cases v with
  | deliver e d =>
      apply Run.Tracks.note_bind rfl
      have htargeted : w.Settles ((w.record (.visited o)).record (.targeted d)) :=
        hvisited.trans (.of_change (.remark _ rfl) rfl)
      exact Notify.deliver_tracks (hh.settled htargeted) _ hheld
  | answer supported => exact .pure _ _

theorem pass_tracks (hsound : w.Sound) (hh : handle.Track w noSlots handle') {owner issuer : Owner}
    (hhosts : w.Hosts owner) {guard : Nat} {dispatcher : Dispatcher} {kind : Kind} {depth : Nat}
    {v : Visit} :
    Run.Tracks w
      (Run.keeping guard
        (Pass.start owner issuer c.thread dispatcher kind depth (visit handle c v)))
      (Run.keeping guard
        (Pass.start owner issuer c.thread dispatcher kind depth (visit handle' c v))) := by
  refine keeping_tracks fun u hu => ?_
  refine Pass.start_tracks (Evolves.sound hu.leads hsound) (Evolves.hosts hu.leads hhosts) ?_
  exact fun x o hx hheld => visit_tracks (hh.settled (hu.trans hx)) v hheld

end Scenario

/-- The slots that are still to be taken in a part of the operation. -/
def Operation.takenFrom (c : Context) (operation : Operation) :
    Option (Name × Thread × Nat) → Name → Thread → Nat
  | none => operation.taken c
  | some _ => noSlots

/-- Every part of an operation is made of changes, if its handlers are. -/
theorem Composed.tracks {handle handle' : Handlers} {c : Context} {operation : Operation}
    {f : α → γ} {m : Handlers → Run α} (h : Composed handle c operation at? slot f w m)
    (hsound : w.Sound) (hh : handle.Track w (operation.takenFrom c slot) handle') :
    Run.Tracks w (m handle) (m handle') := by
  induction h with
  | pure a => exact .pure _ a
  | panic message => exact .unwind _ _
  | bind _ _ ihm ihr =>
      refine (ihm hsound hh).bind fun a v hv hrun => ?_
      exact ihr a v hrun (Evolves.sound hv.leads hsound) (hh.settled hv)
  | map _ ih => exact (ih hsound hh).map
  | read => exact .read _ _
  | edit hg => exact .change (hg.settles hsound)
  | @target _ _ _ w d _ _ ih =>
      have htargeted : w.Settles (w.record (.targeted d)) := .of_change (.remark _ rfl) rfl
      exact .change_bind htargeted
        (ih (Evolves.sound htargeted.leads hsound) (hh.settled htargeted))
  | createDocument _ hnew number config =>
      exact .change (.of_change (.createDocument _ number config hnew)
        (inFlight_createDocument hnew number config))
  | @slot _ _ _ w d n _ _ hraises hbody _ ih =>
      refine Notify.withSlot_tracks _ _ (hbody handle) (hbody handle') fun depth left hleft => ?_
      have haccept := accept_reaches (n := n) hleft
      rw [Operation.takenFrom, hraises.taken] at hh
      exact ih depth left hleft (Evolves.sound haccept.leads hsound) (hh.reached haccept)
  | announce hdocument _ _ ih =>
      have hpass := Notify.announce_tracks (t := c.thread) hsound hdocument hh
      refine (hpass _ _).bind fun told v hv hrun => ?_
      exact (ih told v hrun (Evolves.sound hv.leads hsound) (hh.settled hv)).map
  | @deliver w d o n htame halive =>
      have hhold : w.Settles (w.hold o) := .of_change (.hold o halive) rfl
      rw [Operation.takenFrom, Operation.taken_of_not_tame htame] at hh
      exact .holding halive (Notify.deliver_tracks (hh.settled hhold) n (by simp))
  | pass htame _ hhosts _ =>
      rw [Operation.takenFrom, Operation.taken_of_not_tame htame] at hh
      exact .read_bind (Scenario.pass_tracks hsound hh (hhosts hsound))

theorem Scenario.perform_tracks {handle handle' : Handlers} {c : Context} (hsound : w.Sound)
    (operation : Operation) (hh : handle.Track w (operation.taken c) handle') :
    Run.Tracks w (perform handle c operation) (perform handle' c operation) :=
  (perform_composed handle c operation w).tracks hsound hh

end ChangeNotice
