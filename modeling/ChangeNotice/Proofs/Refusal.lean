import ChangeNotice.Proofs.CallStack

/-! # Refused notifications

A notification asks for a slot before it does anything else. If its thread has as
many notifications of the document on the stack as the document allows, the call is
refused, and nothing but the journal shows that it was made. A call that is not
refused fails in one way only: it was to close a scope and found none open. What
calls inside of its handlers returned is not seen from outside.
-/

namespace ChangeNotice

open World

variable {α β : Type} {w : World} {handle : Handlers} {t : Thread} {d : Name} {n : Notice}

/-- The run never returns an error. -/
def Run.Proper (m : Run (Except NotifyError α)) : Prop := ∀ w e, (m w).1 ≠ .ok (.error e)

namespace Run.Proper

theorem ok (a : α) : Proper (pure (.ok a)) := by
  intro w e h
  simp at h

theorem bind {m : Run β} {f : β → Run (Except NotifyError α)} (hf : ∀ b, Proper (f b)) :
    Proper (m >>= f) := by
  intro w e h
  rw [Run.bind_apply] at h
  split at h
  next b v _ => exact hf b v e h
  next => simp at h

end Run.Proper

namespace ScopeState

variable {s : ScopeState} {m : UpdateMask} {e : ScopeError}

theorem depth_of_check (h : s.check m = .error e) : s.depth = 0 := by
  by_contra hopen
  simp [check, hopen] at h

theorem depth_of_leave (h : s.leave m = .error e) : s.depth = 0 := by
  by_contra hopen
  simp [leave, check, hopen, bind, Except.bind] at h

end ScopeState

namespace Notify

/-- How a notification of the document can fail: by a refusal that changes nothing, or because it
was to close a scope and there is none. -/
structure Admits (t : Thread) (d : Name) (n : Notice) (w : World)
    (outcome : Except Unwind (Except NotifyError α) × World) : Prop where
  refused : (w.document d).dispatcher.isFull t = true →
    outcome =
      (.ok (.error (.depthExceeded (w.document d).id n.kind (w.document d).dispatcher.maxDepth)),
        w.record (.refused (.document d) t (w.document d).id n.kind
          (w.document d).dispatcher.maxDepth))
  failed : (w.document d).dispatcher.isFull t = false → ∀ e, outcome.1 = .ok (.error e) →
    ∃ m, n = .event (.endUpdate m) ∧ e = .unbalanced (w.document d).id m ∧
      (outcome.2.scope (.document d)).depth = 0

theorem Admits.map {f : α → β} {m : Run (Except NotifyError α)} (h : Admits t d n w (m w)) :
    Admits t d n w ((do return (← m).map f : Run (Except NotifyError β)) w) := by
  simp only [Run.bind_apply]
  refine ⟨fun hfull => ?_, fun hroom e he => ?_⟩
  · rw [h.refused hfull]
    rfl
  · have hfailed := h.failed hroom
    cases hrun : m w with
    | mk result v =>
        rw [hrun] at he hfailed
        match result, he with
        | .ok (.error e'), he =>
          obtain rfl : e' = e := by simpa [Except.map] using he
          exact hfailed e' rfl

theorem withSlot_admits {body : Nat → Run (Except NotifyError α)}
    (hbody : ∀ depth, (body depth).Proper) : Admits t d n w (withSlot t d n body w) := by
  refine ⟨fun hfull => withSlot_full (Dispatcher.enter?_of_full hfull), fun hroom e he => ?_⟩
  rw [withSlot_taken (Dispatcher.enter?_of_room hroom)] at he
  exact absurd he (hbody _ _ e)

theorem violation_failed {m : UpdateMask} {e : NotifyError}
    (h : (violation d m w : Except Unwind (Except NotifyError α) × World).1 = .ok (.error e)) :
    e = .unbalanced (w.document d).id m ∧
      (violation d m w : Except Unwind (Except NotifyError α) × World).2.scope (.document d) =
        w.scope (.document d) := by
  simp only [violation, Run.note, Run.bind_apply, Run.read_apply, Run.change_apply] at h ⊢
  cases hpolicy : (w.document d).violation with
  | panic => simp [hpolicy, Run.panic, Run.unwind] at h
  | clamp =>
      simp only [hpolicy, Run.pure_apply, Except.ok.injEq, Except.error.injEq] at h ⊢
      exact ⟨h.symm, rfl⟩

theorem closeScope_admits (hsound : w.Sound) (hdocument : w.documents.contains d = true)
    (hhandle : handle.Client) (m : UpdateMask) :
    Admits t d (.event (.endUpdate m)) w (closeScope handle t d m w) := by
  refine ⟨fun hfull => withSlot_full (Dispatcher.enter?_of_full hfull), fun hroom e he => ?_⟩
  obtain ⟨depth, left, hslot⟩ : ∃ depth left,
      (w.document d).dispatcher.enter? t = some (depth, left) :=
    ⟨_, _, Dispatcher.enter?_of_room hroom⟩
  -- The scope is looked at twice, and the error is the same wherever it is found.
  have hviolation : ∀ u : World, w.Leads u → (u.scope (.document d)).depth = 0 →
      (violation d m u : Except Unwind (Except NotifyError (ScopeState × Report)) × World).1 =
        .ok (.error e) →
      e = .unbalanced (w.document d).id m ∧
      (((violation d m u : Except Unwind (Except NotifyError (ScopeState × Report)) ×
        World).2.releaseSlot d t).scope (.document d)).depth = 0 := by
    intro u hu hidle herror
    obtain ⟨rfl, hscope⟩ := violation_failed herror
    constructor
    · rw [Document.id, Evolves.dispatcher_eq hu hdocument]
      rfl
    · rw [← hidle, ← hscope]
      simp [releaseSlot, World.scope]
  have hv : w.Reaches (slotOf d t) (w.takeSlot d t (.event (.endUpdate m)) left) :=
    accept_reaches (n := .event (.endUpdate m)) hslot
  rw [closeScope, withSlot_taken hslot] at he ⊢
  set v := w.takeSlot d t (.event (.endUpdate m)) left
  refine ⟨m, rfl, ?_⟩
  simp only [Run.bind_apply, Run.read_apply] at he ⊢
  cases hcheck : (v.scope (.document d)).check m with
  | error x =>
      simp only [hcheck] at he ⊢
      exact hviolation v hv.leads (ScopeState.depth_of_check hcheck) he
  | ok _ =>
      simp only [hcheck, Run.bind_apply] at he ⊢
      have hpass := announce_tracks (t := t) (Evolves.sound hv.leads hsound)
        ((takeSlot_actsOn w d t _ left).contains d hdocument)
        (hhandle.track (Evolves.sound hv.leads hsound)) (.event (.endUpdate m)) depth
      cases hrun : announce handle t d (.event (.endUpdate m)) depth v with
      | mk result u =>
          rw [hrun] at he
          have hu : w.Leads u := by
            have hinner := hpass.leads
            rw [hrun] at hinner
            exact hv.leads.trans hinner
          cases result with
          | error x => simp at he
          | ok told =>
              simp only [Run.read_apply] at he ⊢
              cases hleave : (u.scope (.document d)).leave m with
              | error x =>
                  simp only [hleave] at he ⊢
                  exact hviolation u hu (ScopeState.depth_of_leave hleave) he
              | ok s =>
                  simp only [hleave] at he
                  exact absurd he (by simp [Run.bind_apply])

/-! ## The other notifications -/

theorem openScope_admits (m : UpdateMask) :
    Admits t d (.event (.beginUpdate m)) w (openScope handle t d m w) := by
  refine withSlot_admits fun depth => ?_
  refine .bind fun _ => .bind fun s => .bind fun told => ?_
  exact .ok _

theorem startLoad_admits : Admits t d (.event .beginLoad) w (startLoad handle t d w) := by
  refine withSlot_admits fun depth => ?_
  refine .bind fun doc => ?_
  split
  · exact .bind fun _ => .bind fun _ => .bind fun told => .ok _
  · exact .bind fun _ => .bind fun told => .ok _

theorem finishLoad_admits : Admits t d (.event .endLoad) w (finishLoad handle t d w) := by
  refine withSlot_admits fun depth => ?_
  refine .bind fun doc => ?_
  split
  · exact .bind fun _ => .bind fun _ => .bind fun told => .ok _
  · exact .bind fun _ => .bind fun told => .ok _

theorem broadcast_admits (e : Event) : Admits t d (.event e) w (broadcast handle t d e w) := by
  refine withSlot_admits fun depth => ?_
  exact .bind fun told => .ok _

theorem queryScript_admits (content : ContentId) (parser : ParserId) :
    Admits t d (.script content parser) w (queryScript handle t d content parser w) := by
  refine withSlot_admits fun depth => ?_
  refine .bind fun told => ?_
  simp only
  split
  · exact .bind fun _ => .ok _
  · exact .ok _

section

variable (hsound : w.Sound) (hdocument : w.documents.contains d = true) (hhandle : handle.Client)

include hsound hdocument hhandle

theorem raise_admits (e : Event) : Admits t d (.event e) w (raise handle t d e w) := by
  cases e with
  | beginUpdate m => exact (openScope_admits m).map.map
  | endUpdate m => exact (closeScope_admits hsound hdocument hhandle m).map.map
  | beginLoad => exact startLoad_admits.map
  | endLoad => exact finishLoad_admits.map
  | _ => exact (broadcast_admits _).map

theorem notify_admits (e : Event) : Admits t d (.event e) w (notify handle t d e w) := by
  cases e with
  | beginUpdate m => exact (openScope_admits m).map
  | endUpdate m => exact (closeScope_admits hsound hdocument hhandle m).map
  | beginLoad => exact startLoad_admits
  | endLoad => exact finishLoad_admits
  | _ => exact broadcast_admits _

end

end Notify

/-! ## All entry points -/

namespace Scenario

/-- How an operation that notifies the document can fail: as its notification does. -/
structure Answered (t : Thread) (d : Name) (n : Notice) (w : World)
    (outcome : Except Unwind Answer × World) : Prop where
  refused : (w.document d).dispatcher.isFull t = true →
    outcome =
      (.ok (.failed (.notify
        (.depthExceeded (w.document d).id n.kind (w.document d).dispatcher.maxDepth))),
        w.record (.refused (.document d) t (w.document d).id n.kind
          (w.document d).dispatcher.maxDepth))
  failed : (w.document d).dispatcher.isFull t = false → ∀ f, outcome.1 = .ok (.failed f) →
    ∃ m, n = .event (.endUpdate m) ∧ f = .notify (.unbalanced (w.document d).id m) ∧
      (outcome.2.scope (.document d)).depth = 0

variable {c : Context} {operation : Operation} {target : Option Name}

theorem answered {m : Run (Except NotifyError α)} {proper : α → Answer}
    (hproper : ∀ a f, proper a ≠ .failed f) (h : Notify.Admits t d n w (m w)) :
    Answered t d n w ((do return answerOf proper (← m) : Run Answer) w) := by
  simp only [Run.bind_apply]
  refine ⟨fun hfull => ?_, fun hroom f hf => ?_⟩
  · rw [h.refused hfull]
    rfl
  · have hfailed := h.failed hroom
    cases hrun : m w with
    | mk result v =>
        rw [hrun] at hf hfailed
        match result, hf with
        | .ok (.ok a), hf => exact absurd (Except.ok.inj hf) (hproper a f)
        | .ok (.error e), hf =>
          obtain rfl : .notify e = f := Answer.failed.inj (Except.ok.inj hf)
          obtain ⟨m, hn, rfl, hscope⟩ := hfailed e rfl
          exact ⟨m, hn, rfl, hscope⟩

/-- Every operation that notifies a document makes one notification and answers with what this
returns. -/
theorem perform_answered (hsound : w.Sound) (hhandle : handle.Client)
    (hnotice : operation.notice? = some (target, n))
    (hdocument : w.documents.contains (c.documentName target) = true) :
    Answered c.thread (c.documentName target) n (w.record (.targeted (c.documentName target)))
      (perform handle c operation w) := by
  have hnoted : (w.record (.targeted (c.documentName target))).Sound :=
    ((ActsOn.refl (c.documentName target) w).record _).sound hsound
  cases operation with
  | beginUpdate d m =>
      cases hnotice
      rw [perform, onDocument_apply _ hdocument]
      exact answered (by simp) (Notify.openScope_admits m).map
  | endUpdate d m =>
      cases hnotice
      rw [perform, onDocument_apply _ hdocument]
      exact answered (by simp) (Notify.closeScope_admits hnoted hdocument hhandle m).map
  | raise d e =>
      cases hnotice
      rw [perform, onDocument_apply _ hdocument]
      have hraised : ∀ a f, perform.raised a ≠ .failed f := by
        intro a f
        cases a <;> simp [perform.raised]
      exact answered hraised (Notify.raise_admits hnoted hdocument hhandle e)
  | notify d e =>
      cases hnotice
      rw [perform, onDocument_apply _ hdocument]
      exact answered (by simp) (Notify.notify_admits hnoted hdocument hhandle e)
  | queryScript d content parser =>
      cases hnotice
      rw [perform, onDocument_apply _ hdocument]
      exact answered (by simp) (Notify.queryScript_admits content parser)
  | _ => cases hnotice

end Scenario

/-- A notification is refused exactly if its thread has as many notifications of the document on the
stack as the document allows. Then it asks no handler, and the world stays as it is but for what the
journal says. A notification that is not refused can fail only by closing a scope where none is
open: no error of a call inside of its handlers comes out. -/
theorem Stacked.refused_iff {stack : List Frame} (hw : Stacked stack w) (hhandle : handle.Client)
    (c : Context) (operation : Operation) {target : Option Name}
    (hnotice : operation.notice? = some (target, n)) (hd : c.documentName target = d)
    (hdocument : w.documents.contains d = true) :
    ((∃ id kind limit, (Scenario.perform handle c operation w).1 =
        .ok (.failed (.notify (.depthExceeded id kind limit)))) ↔
      (w.document d).dispatcher.maxDepth ≤ stack.countP (·.occupies d c.thread)) ∧
    ((w.document d).dispatcher.maxDepth ≤ stack.countP (·.occupies d c.thread) →
      Scenario.perform handle c operation w =
        (.ok (.failed (.notify
          (.depthExceeded (w.document d).id n.kind (w.document d).dispatcher.maxDepth))),
          { w with past :=
              (.refused (.document d) c.thread (w.document d).id n.kind
                (w.document d).dispatcher.maxDepth) :: .targeted d :: w.past }) ∧
      ∀ t d' o n' v,
        ¬ Consults (fun handle => Scenario.perform handle c operation) handle w t d' o n' v) ∧
    (stack.countP (·.occupies d c.thread) < (w.document d).dispatcher.maxDepth →
      ∀ f, (Scenario.perform handle c operation w).1 = .ok (.failed f) →
        ∃ m, n = .event (.endUpdate m) ∧ f = .notify (.unbalanced (w.document d).id m) ∧
          ((Scenario.perform handle c operation w).2.scope (.document d)).depth = 0) := by
  subst hd
  set d := c.documentName target with hd
  have hanswered := Scenario.perform_answered (c := c) hw.reached.sound hhandle hnotice hdocument
  have hslots : (w.document d).dispatcher.inFlight c.thread =
      stack.countP (·.occupies d c.thread) :=
    hw.inFlight_eq d c.thread
  have hfull : (w.document d).dispatcher.maxDepth ≤ stack.countP (·.occupies d c.thread) →
      (w.document d).dispatcher.isFull c.thread = true := by
    rw [← hslots]
    exact decide_eq_true
  have hroom : stack.countP (·.occupies d c.thread) < (w.document d).dispatcher.maxDepth →
      (w.document d).dispatcher.isFull c.thread = false := by
    rw [← hslots]
    exact fun h => decide_eq_false (Nat.not_le.mpr h)
  refine ⟨⟨?_, ?_⟩, ?_, ?_⟩
  · -- With room left the only error is that of a scope, which is not a refusal.
    rintro ⟨id, kind, limit, hrefused⟩
    by_contra hnot
    obtain ⟨m, _, hother, _⟩ := hanswered.failed (hroom (Nat.not_le.mp hnot)) _ hrefused
    simp at hother
  · intro h
    exact ⟨_, _, _, congrArg Prod.fst (hanswered.refused (hfull h))⟩
  · intro h
    refine ⟨hanswered.refused (hfull h), ?_⟩
    intro t d' o n' v hcall
    -- The handler would run with one slot more than the document allows.
    have hreaches := hcall.reaches hhandle hw.reached.sound
    have hcapped := (hw.reached.handler hhandle hcall).capped d c.thread
    have hmore : v.inFlight d c.thread = w.inFlight d c.thread + 1 := by
      rw [hreaches.slots, Operation.taken, hnotice]
      simp [slotOf, hd]
    rw [Evolves.dispatcher_eq hreaches.leads hdocument, hmore] at hcapped
    unfold World.inFlight at hcapped
    simp only at hcapped
    omega
  · intro h f hf
    exact hanswered.failed (hroom h) f hf

/-- Inside of the handler no scope is open, and the document panics if one is closed nevertheless.
The call to close one is refused all the same; on another thread it is not. -/
theorem refused_iff_watching :
    (watching.document "d").violation = .panic ∧
    (watching.scope (.document "d")).depth = 0 ∧
    (Scenario.perform (Scenario.respond 1) ⟨0, some "a", some "d"⟩ (.endUpdate none .style)
      watching).1 = .ok (.failed (.notify (.depthExceeded ⟨1⟩ .endUpdate 1))) ∧
    ¬ ∃ id kind limit, (Scenario.perform (Scenario.respond 1) ⟨1, some "a", some "d"⟩
      (.endUpdate none .style) watching).1 =
        .ok (.failed (.notify (.depthExceeded id kind limit))) := by
  have hname : ∀ t, Context.documentName ⟨t, some "a", some "d"⟩ none = "d" := fun _ => rfl
  have hdocument : watching.documents.contains "d" = true := by decide +kernel
  have hlimit : (watching.document "d").dispatcher.maxDepth = 1 := by decide +kernel
  have hid : (watching.document "d").id = ⟨1⟩ := by decide +kernel
  refine ⟨by decide +kernel, by decide +kernel, ?_, ?_⟩
  · have hrefused := (watching_stacked.refused_iff (Scenario.respond_client 1)
      ⟨0, some "a", some "d"⟩ (.endUpdate none .style) rfl (hname 0) hdocument).2.1
    rw [hlimit, hid] at hrefused
    exact congrArg Prod.fst (hrefused (by decide)).1
  · have hiff := (watching_stacked.refused_iff (Scenario.respond_client 1)
      ⟨1, some "a", some "d"⟩ (.endUpdate none .style) rfl (hname 1) hdocument).1
    rw [hlimit] at hiff
    rw [hiff]
    decide

end ChangeNotice
