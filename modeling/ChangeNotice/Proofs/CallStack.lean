import ChangeNotice.Proofs.Client

/-! # Slots and the call stack

An operation is on the stack while a handler that it has called runs. A world is
reached together with the operations that are on the stack there: code of clients
leaves the stack as it finds it, and a handler runs on top of the operation that
called it.

A document has as many slots taken as notifications of it are on the stack, thread
by thread. So no notification keeps its slot, however it ends, and the limit of the
document is never exceeded.
-/

namespace ChangeNotice

open World

/-- An operation whose handler has been called and has not returned. -/
structure Frame where
  context : Context
  operation : Operation

/-- The frame is a notification of the document on the thread. -/
def Frame.occupies (f : Frame) (d : Name) (t : Thread) : Bool :=
  match f.operation.notice? with
  | some (target, _) => d == f.context.documentName target && t == f.context.thread
  | none => false

theorem Frame.taken_eq (f : Frame) (d : Name) (t : Thread) :
    f.operation.taken f.context d t = if f.occupies d t then 1 else 0 := by
  unfold Operation.taken occupies
  cases f.operation.notice? with
  | none => rfl
  | some notice => simp [slotOf]

/-- A world that some client gets to while these operations are on the stack, the last one first. -/
inductive Stacked : List Frame → World → Prop
  | start : Stacked [] .empty
  | run {α : Type} {stack : List Frame} {w : World} (hw : Stacked stack w) {m : Run α}
      (hm : Client m) : Stacked stack (m w).2
  | handler {stack : List Frame} {w : World} (hw : Stacked stack w) {handle : Handlers}
      (hhandle : handle.Client) {c : Context} {operation : Operation} {t : Thread} {d o : Name}
      {n : Notice} {v : World}
      (hcall : Consults (fun handle => Scenario.perform handle c operation) handle w t d o n v) :
      Stacked (⟨c, operation⟩ :: stack) v

variable {stack : List Frame} {floor w w' v : World} {d : Name} {t : Thread}

theorem Stacked.reached (h : Stacked stack w) : Reached w := by
  induction h with
  | start => exact .start
  | run _ hm ih => exact ih.run hm
  | handler _ hhandle hcall ih => exact ih.handler hhandle hcall

theorem Reached.stacked (h : Reached w) : ∃ stack, Stacked stack w := by
  induction h with
  | start => exact ⟨[], .start⟩
  | run _ hm ih =>
      obtain ⟨stack, hstack⟩ := ih
      exact ⟨stack, hstack.run hm⟩
  | handler _ hhandle hcall ih =>
      obtain ⟨stack, hstack⟩ := ih
      exact ⟨_ :: stack, hstack.handler hhandle hcall⟩

/-- Between the steps of a session nothing is added to the stack. -/
theorem Session.runFrom_stacked (depth : Nat) (chosen : Option Level) (steps : List Step)
    (hw : Stacked stack w) : Stacked stack (Session.runFrom depth chosen w steps).2 := by
  induction steps generalizing w with
  | nil => exact hw
  | cons s rest ih =>
      exact ih (hw.run (Scenario.runStep_client (Scenario.respond_client depth) .top s))

/-- The slots that are taken belong to the notifications on the stack. -/
theorem Stacked.inFlight_eq (h : Stacked stack w) (d : Name) (t : Thread) :
    w.inFlight d t = stack.countP (·.occupies d t) := by
  induction h with
  | start => rfl
  | run hw hm ih => rw [(hm.tracks hw.reached.sound).settles.inFlight, ih]
  | handler hw hhandle hcall ih =>
      -- Between the call of the operation and that of the handler just its own slot is taken.
      rw [(hcall.reaches hhandle hw.reached.sound).slots, Pi.add_apply, Pi.add_apply, ih,
        List.countP_cons]
      exact congrArg _ (Frame.taken_eq ⟨_, _⟩ d t)

/-! ## What changes do to dispatchers -/

/-- What one change makes of the dispatcher of a document, which is known before or not. -/
inductive SlotMove (known : Bool) (old : Dispatcher) : Dispatcher → Prop
  | keep : SlotMove known old old
  | take (t : Thread) (hroom : old.isFull t = false) : SlotMove known old (old.take t)
  | release (t : Thread) : SlotMove known old (old.release t)
  | create (new : Dispatcher) (hnew : known = false) (hunused : new.depths = .empty) :
      SlotMove known old new

theorem SlotMove.of_eq {known : Bool} {old new : Dispatcher} (h : new = old) :
    SlotMove known old new := by
  rw [h]
  exact .keep

/-- What is done to one document leaves the others alone. -/
theorem World.ActsOn.slotMove {d₁ : Name} (h : ActsOn d₁ w w')
    (hmove : SlotMove (w.documents.contains d₁) (w.document d₁).dispatcher
      (w'.document d₁).dispatcher) (d : Name) :
    SlotMove (w.documents.contains d) (w.document d).dispatcher (w'.document d).dispatcher := by
  by_cases heq : d = d₁
  · rw [heq]
    exact hmove
  · exact .of_eq (by rw [h.elsewhere d heq])

theorem Change.slotMove (h : Change floor w w') (d : Name) :
    SlotMove (w.documents.contains d) (w.document d).dispatcher (w'.document d).dispatcher := by
  cases h with
  | accept d₁ t n depth left hleft =>
      obtain ⟨hroom, rfl⟩ := Dispatcher.of_enter? hleft
      refine (accept_actsOn w d₁ t n _).slotMove ?_ d
      rw [dispatcher_prepare]
      simpa [World.takeSlot] using SlotMove.take t hroom
  | release d₁ t hown =>
      refine (releaseSlot_actsOn w d₁ t).slotMove ?_ d
      simpa [World.releaseSlot] using SlotMove.release t
  | close d₁ m s hs =>
      exact (closeScope_actsOn w d₁ m s).slotMove (.of_eq (dispatcher_closeScope w d₁ m s)) d
  | prune owner hhosts => exact .of_eq (dispatcher_updateRegistry w d owner _)
  | enterPass p hhosts hserial => exact .of_eq (dispatcher_updateRegistry w d p.registry _)
  | unhold o hown => exact .of_eq (by rw [document_unhold])
  | disown o hown => exact .of_eq (by rw [document_disown])
  | register owner key hhosts hown =>
      unfold World.register
      simp only
      split <;> exact .of_eq (dispatcher_updateRegistry w d owner _)
  | unregister owner key hhosts =>
      unfold World.unregister
      split
      · exact .of_eq (dispatcher_updateRegistry w d owner _)
      · exact .keep
  | createDocument name id config hnew =>
      by_cases heq : d = name
      · subst heq
        exact .create _ hnew (by simp [World.document, Document.new])
      · exact .of_eq (by simp [World.document, heq])
  | _ => exact .keep

/-- No thread has more slots of a document than the document allows. -/
def World.Capped (w : World) : Prop :=
  ∀ d t, w.inFlight d t ≤ (w.document d).dispatcher.maxDepth

namespace SlotMove

variable {known : Bool} {old new : Dispatcher}

theorem capped (h : SlotMove known old new) (hold : ∀ t, old.inFlight t ≤ old.maxDepth)
    (t : Thread) : new.inFlight t ≤ new.maxDepth := by
  have hbefore := hold t
  cases h with
  | keep => exact hbefore
  | take t₁ hroom =>
      have hleft : old.inFlight t₁ < old.maxDepth := by simpa [Dispatcher.isFull] using hroom
      simp only [Dispatcher.take, Dispatcher.inFlight, Depths.count_take] at hleft hbefore ⊢
      split <;> omega
  | release t₁ =>
      have hthere := hold t₁
      simp only [Dispatcher.release, Dispatcher.inFlight, Depths.count_release] at hthere hbefore ⊢
      split <;> omega
  | create _ hnew hunused =>
      unfold Dispatcher.inFlight
      rw [hunused]
      exact Nat.zero_le _

/-- A dispatcher that is known keeps all but its slots. -/
theorem eq_of_known (h : SlotMove true old new) : new = { old with depths := new.depths } := by
  cases h with
  | create _ hnew hunused => cases hnew
  | _ => rfl

end SlotMove

namespace Evolves

theorem capped (h : Evolves floor w w') (hw : w.Capped) : w'.Capped := by
  induction h with
  | refl => exact hw
  | tail _ hstep ih => exact fun d => (hstep.slotMove d).capped (ih d)

theorem dispatcher_eq (h : Evolves floor w w') (hd : w.documents.contains d = true) :
    (w'.document d).dispatcher =
      { (w.document d).dispatcher with depths := (w'.document d).dispatcher.depths } := by
  induction h with
  | refl => rfl
  | @tail v _ hsteps hstep ih =>
      have hhosts : w.Hosts (.document d) := hd
      -- Documents stay known, so that none of the steps creates this one anew.
      have hknown : v.documents.contains d = true := Evolves.hosts hsteps hhosts
      have hmove := hstep.slotMove d
      rw [hknown] at hmove
      rw [hmove.eq_of_known, ih]

end Evolves

theorem Reached.capped (h : Reached w) : w.Capped :=
  Evolves.capped h.leads fun _ _ => Nat.zero_le _

/-- Every reached world is reached with some stack. Whatever operations are on the stack, a thread
has as many slots of a document taken as notifications of the document on this thread are among
them, and no more than the document allows. An operation leaves all slots as it found them, whether
it returns a result or an error or is unwound; and while it runs on one thread, the handlers that it
calls find the slots of the other threads as they were. -/
theorem Reached.slots_exact (hw : Reached w) :
    (∃ stack, Stacked stack w) ∧
    ∀ stack, Stacked stack w → ∀ d t,
      w.inFlight d t = stack.countP (·.occupies d t) ∧
      w.inFlight d t ≤ (w.document d).dispatcher.maxDepth ∧
      ∀ (handle : Handlers) (c : Context) (operation : Operation), handle.Client →
        (Scenario.perform handle c operation w).2.inFlight d t = w.inFlight d t ∧
        ∀ t' d' o n v,
          Consults (fun handle => Scenario.perform handle c operation) handle w t' d' o n v →
          c.thread ≠ t → v.inFlight d t = w.inFlight d t := by
  refine ⟨hw.stacked, ?_⟩
  intro stack hstack d t
  refine ⟨hstack.inFlight_eq d t, hw.capped d t, ?_⟩
  intro handle c operation hhandle
  refine ⟨?_, ?_⟩
  · rw [((Client.perform hhandle c operation).tracks hw.sound).settles.inFlight]
  · intro t' d' o n v hcall hthread
    have hinside := (hstack.handler hhandle hcall).inFlight_eq d t
    have hfree : (Frame.mk c operation).occupies d t = false := by
      unfold Frame.occupies
      split
      · simp [Ne.symm hthread]
      · rfl
    rw [hinside, hstack.inFlight_eq d t, List.countP_cons, hfree]
    rfl

/-! ## A notification asks its observers -/

theorem Run.bind_unwound {α β : Type} {m : Run α} {f : α → Run β} {x : Unwind}
    (h : (m w).1 = .error x) : ((m >>= f) w).1 = .error x := by
  rw [Run.bind_apply]
  split
  next hok => simp [hok] at h
  next herror => simpa [herror] using h

namespace Notify

variable {handle : Handlers} {n : Notice} {e : Entry} {rest : Snapshot} {depth : Nat}

/-- The world in which the handler of the first observer of a pass is asked. -/
def asked (t : Thread) (d : Name) (n : Notice) (depth : Nat) (e : Entry) (w : World) : World :=
  let p := Pass.infoOf (.document d) (.document d) t (w.document d).dispatcher n.kind depth w
  let v := ((w.enterPass p).hold e.key).record (.invoking p e.key)
  v.record (.called (v.callOf t d e.key n))

/-- The first observer of a pass is alive and has not been removed, so that its handler is asked: if
the handler is unwound, the pass is. -/
theorem announce_of_asked {x : Unwind} {u : World}
    (hslots : Pass.snapshotOf w (.document d) = e :: rest)
    (hsupports : (w.observer e.key).supports n.kind = true)
    (hasked : handle t d e.key n (asked t d n depth e w) = (.error x, u)) :
    (announce handle t d n depth w).1 = .error x := by
  simp only [announce, Run.bind_apply, Run.read_apply]
  rw [Pass.start_apply _ rfl, hslots, Pass.walk_cons]
  set p := Pass.infoOf (.document d) (.document d) t (w.document d).dispatcher n.kind depth w
    with hp
  have hmem : e ∈ Pass.snapshotOf w (.document d) := by rw [hslots]; exact List.mem_cons_self
  have hlive : (w.enterPass p).resolve p.registry p.removal e = .live := by
    have hcurrent : ((w.enterPass p).registry p.registry).isCurrent e = true := by
      rw [registry_enterPass, if_pos rfl]
      exact Registry.isCurrent_of_mem hmem
    have halive : (w.enterPass p).isAlive e.key = true := by
      rw [isAlive_enterPass]
      exact (List.mem_filter.mp hmem).2
    simp [World.resolve, Registry.resolve, hcurrent, halive]
  have hobserver : (w.enterPass p).observer e.key = w.observer e.key := by
    simp [World.enterPass, World.prune, World.observer]
  have hdeliver : deliver handle t d n e.key
      (((w.enterPass p).hold e.key).record (.invoking p e.key)) = (.error x, u) := by
    have hcan : ((((w.enterPass p).hold e.key).record (.invoking p e.key)).observer
        e.key).supports n.kind = true := by
      rw [observer_record, observer_hold, if_pos rfl, hobserver]
      exact hsupports
    unfold asked at hasked
    simp only [deliver_eq, Run.bind_apply, Run.read_apply, hcan, if_true, Run.note,
      Run.change_apply]
    rw [hasked]
  have hturn : (Pass.turn p (deliver handle t d n) e (w.enterPass p)).1 = .error x := by
    rw [Pass.turn_live _ hlive, hdeliver]
  exact Pass.leave_fst.trans (Run.bind_unwound hturn)

/-- A broadcast that finds a slot asks the handler of its first observer. -/
theorem broadcast_of_asked {event : Event} {left : Dispatcher} {x : Unwind} {u : World}
    (hslot : (w.document d).dispatcher.enter? t = some (depth, left))
    (hslots : Pass.snapshotOf w (.document d) = e :: rest)
    (hsupports : (w.observer e.key).supports event.kind = true)
    (hasked : handle t d e.key (.event event)
      (asked t d (.event event) depth e (w.takeSlot d t (.event event) left)) = (.error x, u)) :
    (broadcast handle t d event w).1 = .error x := by
  have hacts : ActsOn d w (w.takeSlot d t (.event event) left) := takeSlot_actsOn w d t _ left
  have hthere : Pass.snapshotOf (w.takeSlot d t (.event event) left) (.document d) = e :: rest := by
    rw [Pass.snapshotOf, hacts.registry_eq, hacts.isAlive]
    exact hslots
  have hpass := announce_of_asked (n := .event event) hthere hsupports hasked
  rw [broadcast, withSlot_taken hslot]
  exact Run.bind_unwound hpass

end Notify

open Classical in
/-- The run, unwound if it is started at this point. -/
noncomputable def Run.cutAt {α : Type} (point : World → Prop) (x : Unwind) (run : Run α) : Run α :=
  fun u => if point u then (.error x, u) else run u

/-- The handlers, except that one of them is unwound when it is called in the world `v`. -/
noncomputable def Handlers.cutAt (handle : Handlers) (t : Thread) (d o : Name) (n : Notice)
    (v : World) (x : Unwind) : Handlers where
  of t' o' role := (handle.of t' o' role).around
    (fun d' e => Run.cutAt (fun u => (t', d', o', .event e, u) = (t, d, o, n, v)) x)
    fun d' c p => Run.cutAt (fun u => (t', d', o', .script c p, u) = (t, d, o, n, v)) x

open Classical in
theorem Handlers.cutAt_apply (handle : Handlers) {t : Thread} {d o : Name} {n : Notice} {v : World}
    (x : Unwind) (t' : Thread) (d' o' : Name) (n' : Notice) (u : World) :
    handle.cutAt t d o n v x t' d' o' n' u =
      if (t', d', o', n', u) = (t, d, o, n, v) then (.error x, u) else handle t' d' o' n' u := by
  cases n' with
  | event e =>
      simp only [on, cutAt, ObserverHandlers.on, ObserverHandlers.onEvent_around, Run.bind_apply,
        Run.cutAt]
      split_ifs <;> rfl
  | script c p =>
      simp only [on, cutAt, ObserverHandlers.on, ObserverHandlers.around, Run.cutAt]
      split_ifs <;> rfl

/-- A notification that finds a slot asks the handler of its first observer: its outcome depends on
what this handler does. -/
theorem notify_consults {handle : Handlers} (c : Context) (target : Option Name) (event : Event)
    {e : Entry} {rest : Snapshot} {depth : Nat} {left : Dispatcher}
    (hplain : ∀ handle t d, Notify.notify handle t d event = Notify.broadcast handle t d event)
    (hdocument : w.documents.contains (c.documentName target) = true)
    (hslot : (w.document (c.documentName target)).dispatcher.enter? c.thread = some (depth, left))
    (hslots : Pass.snapshotOf w (.document (c.documentName target)) = e :: rest)
    (hsupports : (w.observer e.key).supports event.kind = true) :
    Consults (fun handle => Scenario.perform handle c (.notify target event)) handle w c.thread
      (c.documentName target) e.key (.event event)
      (Notify.asked c.thread (c.documentName target) (.event event) depth e
        ((w.record (.targeted (c.documentName target))).takeSlot (c.documentName target) c.thread
          (.event event) left)) := by
  classical
  set d := c.documentName target
  set v := Notify.asked c.thread d (.event event) depth e
    ((w.record (.targeted d)).takeSlot d c.thread (.event event) left)
  have hunwinds : ∀ (other : Handlers) (x : Unwind),
      other c.thread d e.key (.event event) v = (.error x, v) →
      (Scenario.perform other c (.notify target event) w).1 = .error x := by
    intro other x hother
    have hrun :=
      Notify.broadcast_of_asked (w := w.record (.targeted d)) hslot hslots hsupports hother
    rw [Scenario.perform, Scenario.onDocument_apply _ hdocument]
    refine Run.bind_unwound ?_
    rw [hplain]
    exact hrun
  -- The handlers are changed at this one point, to end in a way in which the call does not end.
  obtain ⟨x, hx⟩ : ∃ x, (Scenario.perform handle c (.notify target event) w).1 ≠ .error x := by
    by_cases h : (Scenario.perform handle c (.notify target event) w).1 = .error .exhausted
    · exact ⟨.panic "", by simp [h]⟩
    · exact ⟨.exhausted, h⟩
  refine ⟨handle.cutAt c.thread d e.key (.event event) v x, ?_, ?_⟩
  · intro t' d' o' n' u hne
    rw [Handlers.cutAt_apply, if_neg hne]
  · intro heq
    have hcut : handle.cutAt c.thread d e.key (.event event) v x c.thread d e.key (.event event) v =
        (.error x, v) := by
      rw [Handlers.cutAt_apply, if_pos rfl]
    exact hx ((congrArg Prod.fst heq.symm).trans (hunwinds _ x hcut))

/-- A document that allows one notification at a time, with an observer. -/
def watched : World :=
  (Session.runFrom 1 none .empty
    [.perform none (.createDocument "d" { maxDepth := 1 }),
      .createRecorder none "a" false .proceed [],
      .perform none (.register (.document none) "a")]).2

/-- The document is notified, and the handler of its observer is called. -/
def watching : World :=
  Notify.asked 0 "d" (.event (.documentStatesChanged .empty)) 1 ⟨"a", 0⟩
    ((watched.record (.targeted "d")).takeSlot "d" 0 (.event (.documentStatesChanged .empty))
      ⟨⟨1⟩, 1, .skip, ⟨[(0, 1)]⟩⟩)

theorem watching_stacked :
    Stacked [⟨.top, .notify none (.documentStatesChanged .empty)⟩] watching := by
  have hwatched : Stacked [] watched := Session.runFrom_stacked 1 none _ .start
  have hdocument : watched.documents.contains "d" = true := by decide +kernel
  have hslot : (watched.document "d").dispatcher.enter? 0 =
      some (1, ⟨⟨1⟩, 1, .skip, ⟨[(0, 1)]⟩⟩) := by
    decide +kernel
  have hslots : Pass.snapshotOf watched (.document "d") = [⟨"a", 0⟩] := by decide +kernel
  have hsupports : (watched.observer "a").supports .documentStatesChanged = true := by
    decide +kernel
  exact hwatched.handler (Scenario.respond_client 1) (notify_consults .top none
    (.documentStatesChanged .empty) (fun _ _ _ => rfl) hdocument hslot hslots hsupports)

/-- The notification is on the stack while the handler runs, and the one slot of its thread is
taken. -/
theorem slots_exact_watching : watching.inFlight "d" 0 = 1 ∧ watching.inFlight "d" 1 = 0 := by
  have hexact := watching_stacked.reached.slots_exact.2 _ watching_stacked
  exact ⟨(hexact "d" 0).1, (hexact "d" 1).1⟩

end ChangeNotice
