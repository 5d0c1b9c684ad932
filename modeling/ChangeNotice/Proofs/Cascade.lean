import ChangeNotice.Proofs.EventRoutes
import ChangeNotice.Proofs.MarkCounts
import Mathlib.Algebra.BigOperators.Intervals
import Mathlib.Algebra.BigOperators.Ring.Finset

/-! # Observers that raise what they hear

Every handler of a document raises the event again on the same document and thread. Each
raising that finds a slot is a pass over all observers, one slot deeper, until the slots
are used up and the raisings are refused. The counts of the whole cascade follow by two
inductions: over the slots that are left, and over the observers of one pass.
-/

namespace ChangeNotice

open World

/-! ## Echoes -/

namespace World

/-- The observers have the roles that they had, and the document is still there. -/
structure Resembles (d : Name) (w v : World) : Prop where
  role : ∀ o, (v.observer o).role.atRest = (w.observer o).role.atRest
  contains : w.documents.contains d = true → v.documents.contains d = true

theorem Resembles.trans {d : Name} {w v u : World} (h : Resembles d w v) (h' : Resembles d v u) :
    Resembles d w u :=
  ⟨fun o => (h'.role o).trans (h.role o), h'.contains ∘ h.contains⟩

theorem Alike.resembles {d : Name} {w v : World} (h : Alike d w v) : Resembles d w v :=
  ⟨h.role, h.contains⟩

/-- Nothing happens between the two worlds but what is noted down: no handler is called, nothing is
raised, and the passes of the document will go as they would have gone. -/
structure Quiescent (t : Thread) (d : Name) (w v : World) : Prop where
  alike : Alike d w v
  slots : v.inFlight d t = w.inFlight d t
  news : ∃ news, v.past = news ++ w.past ∧ ∀ m ∈ news, m.mark? = none
  scope : (v.scope (.document d)).depth = (w.scope (.document d)).depth

theorem Quiescent.addsMarks {t : Thread} {d : Name} {w v : World} (h : Quiescent t d w v)
    (k : Nat) :
    AddsMarks d k w v 0 := by
  obtain ⟨news, hpast, hunmarked⟩ := h.news
  refine ⟨h.alike, ⟨news, hpast, ?_, ?_⟩, h.scope⟩
  · funext mark
    rw [Journal.markCounts, Pi.zero_apply, List.countP_eq_zero]
    intro m hm
    rw [hunmarked m hm]
    simp
  · intro p r hmem
    exact absurd (hunmarked _ hmem) (Option.some_ne_none _)

theorem Quiescent.record {t : Thread} {d : Name} {w v : World} (h : Quiescent t d w v) {m : Moment}
    (hm : m.mark? = none) : Quiescent t d w (v.record m) := by
  obtain ⟨news, hpast, hunmarked⟩ := h.news
  refine ⟨h.alike.trans (.of_actsOn ((ActsOn.refl d v).record m) rfl), h.slots,
    ⟨m :: news, ?_, ?_⟩, h.scope⟩
  · rw [past_record, hpast]
    rfl
  · exact List.forall_mem_cons.mpr ⟨hm, hunmarked⟩

theorem Quiescent.refl (t : Thread) (d : Name) (w : World) : Quiescent t d w w :=
  ⟨.refl d w, rfl, ⟨[], rfl, by simp⟩, rfl⟩

end World

/-- Given the event, the handler of the observer raises it once on the same document and thread. It
does nothing else but take notes. -/
def Handlers.Echoes (outer inner : Handlers) (t : Thread) (d o : Name) (e : Event) (v : World) :
    Prop :=
  ∃ before, v.Quiescent t d before ∧
    ∀ result after, Notify.raise inner t d e before = (.ok result, after) →
      ∃ verdict last, outer t d o (.event e) v = (.ok verdict, last) ∧ after.Quiescent t d last

/-! ## One notification -/

namespace Notify

variable {handle : Handlers} {t : Thread} {d : Name} {e : Event} {w u : World}

section Room

variable (hroom : (w.document d).dispatcher.isFull t = false)

include hroom

theorem withSlot_told {n : Notice} {body : Nat → Run (Except NotifyError Report)}
    (hbody : ∀ depth v, body depth v =
      (announce handle t d n depth >>= fun told => pure (.ok told.1)) (v.prepare d n))
    {told : Report × List Verdict} (hpassed : passed handle t d n w = (.ok told, u)) :
    withSlot t d n body w = (.ok (.ok told.1), u.releaseSlot d t) := by
  rw [withSlot_passed hroom (hbody _ _), hpassed]
  rfl

/-- An event that closes no scope is told by its pass, and then the slot is given back. -/
theorem notify_passed (hevent : ∀ m, e ≠ .endUpdate m) {told : Report × List Verdict}
    (hpassed : passed handle t d (.event e) w = (.ok told, u)) :
    notify handle t d e w = (.ok (.ok told.1), u.releaseSlot d t) := by
  cases e with
  | beginUpdate m =>
      rw [notify, Run.bind_pure_apply, openScope_passed hroom, hpassed]
      rfl
  | endUpdate m => exact absurd rfl (hevent m)
  | beginLoad => exact withSlot_told hroom (startLoad_body handle) hpassed
  | endLoad => exact withSlot_told hroom (finishLoad_body handle) hpassed
  | _ => exact withSlot_told hroom (fun _ _ => rfl) hpassed

end Room

theorem raise_of_notify {result : Except NotifyError Report}
    (h : notify handle t d e w = (.ok result, u)) :
    ∃ raised, raise handle t d e w = (.ok raised, u) ∧
      raised.map (fun _ => ()) = result.map fun _ => () := by
  have hagree := raise_agree handle t d e w
  rw [h] at hagree
  cases hraise : raise handle t d e w with
  | mk outcome v =>
      obtain ⟨hworld, hresult, -⟩ := hraise ▸ hagree
      cases outcome with
      | error x => cases hresult
      | ok raised =>
          obtain rfl : v = u := hworld
          exact ⟨raised, rfl, Except.ok.inj hresult⟩

end Notify

/-! ## The counts of a cascade -/

/-- The marks left by raising the event once, with `k` echoes and this many slots left: without a
slot a refusal; otherwise what the event opens, for each observer a call and a cascade with one slot
less, and the end of the pass. -/
def cascade (k : Nat) (e : Event) : Nat → Mark → Nat
  | 0 => Pi.single .refusal 1
  | room + 1 =>
    AddsMarks.opened e + k • (Pi.single .call 1 + cascade k e room) + Pi.single .pass 1

namespace cascade

variable (k : Nat) (e : Event) (N : Nat)

theorem opened_eq_zero {mark : Mark} (h : mark ≠ .opening) : AddsMarks.opened e mark = 0 := by
  cases e with
  | beginUpdate m => exact Pi.single_eq_of_ne h 1
  | _ => rfl

theorem succ_apply (mark : Mark) :
    cascade k e (N + 1) mark = AddsMarks.opened e mark +
      k * ((Pi.single .call 1 : Mark → Nat) mark + cascade k e N mark) +
      (Pi.single .pass 1 : Mark → Nat) mark := rfl

theorem refusals : cascade k e N .refusal = k ^ N := by
  induction N with
  | zero => rfl
  | succ N ih =>
      rw [succ_apply, ih, opened_eq_zero e (by decide), pow_succ']
      simp

theorem calls : cascade k e N .call = ∑ i ∈ Finset.range N, k ^ (i + 1) := by
  induction N with
  | zero => rfl
  | succ N ih =>
      rw [succ_apply, ih, opened_eq_zero e (by decide), Finset.sum_range_succ', mul_add,
        Finset.mul_sum, add_comm (k * _)]
      simp [pow_succ']

theorem passes : cascade k e N .pass = ∑ i ∈ Finset.range N, k ^ i := by
  induction N with
  | zero => rfl
  | succ N ih =>
      rw [succ_apply, ih, opened_eq_zero e (by decide), Finset.sum_range_succ', mul_add,
        Finset.mul_sum]
      simp [pow_succ']

theorem openings (mask : UpdateMask) :
    cascade k (.beginUpdate mask) N .opening = ∑ i ∈ Finset.range N, k ^ i := by
  induction N with
  | zero => rfl
  | succ N ih =>
      rw [succ_apply, ih, AddsMarks.opened, Finset.sum_range_succ', mul_add, Finset.mul_sum]
      simp [pow_succ', add_comm]

end cascade

/-! ## The cascade -/

/-- All who are registered with the document hear of the event and raise it again; handlers nest,
each level of them over the next. -/
structure Echoing (tower : Nat → Handlers) (t : Thread) (d : Name) (e : Event) (w : World) :
    Prop where
  event : ∀ m, e ≠ .endUpdate m
  binds : e.kind = .bindToDocument → ∀ o ∈ w.keys (.document d), (w.observer o).hasBinding = true
  echoes : ∀ n v, Resembles d w v → ∀ o ∈ w.keys (.document d),
    Handlers.Echoes (tower (n + 1)) (tower n) t d o e v

/-- The cascade can go on from here, with this many slots left. -/
structure World.CascadeReady (t : Thread) (d : Name) (room : Nat) (w v : World) : Prop where
  resembles : Resembles d w v
  snapshot : Pass.snapshotOf v (.document d) = Pass.snapshotOf w (.document d)
  room : v.inFlight d t + room = (v.document d).dispatcher.maxDepth

theorem World.CascadeReady.of_addsMarks {t : Thread} {d : Name} {k room room' : Nat} {w v u : World}
    {counts : Mark → Nat} (h : CascadeReady t d room w v) (hadds : AddsMarks d k v u counts)
    (hslots : u.inFlight d t + room' = v.inFlight d t + room) : CascadeReady t d room' w u where
  resembles := h.resembles.trans hadds.alike.resembles
  snapshot := hadds.alike.snapshot.trans h.snapshot
  room := by rw [hadds.alike.maxDepth, hslots, h.room]

/-- Holding an observer that is alive changes nothing for the passes to come. -/
theorem World.CascadeReady.hold {t : Thread} {d o : Name} {room : Nat} {w v : World}
    (h : CascadeReady t d room w v) (hlive : v.isAlive o = true) :
    CascadeReady t d room w (v.hold o) := by
  refine ⟨⟨?_, h.resembles.contains⟩, ?_, h.room⟩
  · intro x
    rw [← h.resembles.role, observer_hold]
    split_ifs with hx
    · rw [hx]
    · rfl
  · rw [snapshotOf_hold hlive, h.snapshot]

namespace Echoing

variable {tower : Nat → Handlers} {t : Thread} {d : Name} {e : Event} {w v : World} {k room n : Nat}

/-- Raising the event with these handlers, from every world with this many slots left, adds the
marks of a cascade. -/
def Cascades (tower : Nat → Handlers) (t : Thread) (d : Name) (e : Event) (w : World)
    (k room n : Nat) : Prop :=
  ∀ v, CascadeReady t d room w v → ∃ result u, Notify.notify (tower n) t d e v = (.ok result, u) ∧
    AddsMarks d k v u (cascade k e room) ∧ u.inFlight d t = v.inFlight d t ∧
    result = if room = 0 then
      .error (.depthExceeded (v.document d).id e.kind (v.document d).dispatcher.maxDepth)
    else .ok (.full k)

theorem supports (h : Echoing tower t d e w) {o : Name} (ho : o ∈ w.keys (.document d)) :
    (w.observer o).supports (Notice.event e).kind = true := by
  rw [Observer.supports_iff]
  rintro ⟨hkind, hnone⟩
  rw [h.binds hkind o ho] at hnone
  exact absurd hnone (by decide)

/-- Without a slot the event is refused. -/
theorem cascades_zero (tower : Nat → Handlers) (w : World) (n : Nat) :
    Cascades tower t d e w k 0 n := by
  intro v hv
  have hfull : (v.document d).dispatcher.isFull t = true := by
    apply decide_eq_true
    have hroom := hv.room
    unfold inFlight at hroom
    omega
  refine ⟨_, _, Notify.notify_full (tower n) e hfull, ?_, rfl, rfl⟩
  exact .record_marked v rfl (by decide) fun p r hm => by cases hm

/-- The handler of one observer starts a cascade with the slots that are left. -/
theorem handler_cascades (h : Echoing tower t d e w) (hnext : Cascades tower t d e w k room n)
    {o : Name} (ho : o ∈ w.keys (.document d)) (hv : CascadeReady t d room w v) :
    ∃ verdict u, tower (n + 1) t d o (.event e) v = (.ok verdict, u) ∧
      AddsMarks d k v u (cascade k e room) ∧ u.inFlight d t = v.inFlight d t := by
  obtain ⟨before, hbefore, hecho⟩ := h.echoes n v hv.resembles o ho
  obtain ⟨result, after, hnotify, hadds, hslots, -⟩ :=
    hnext before (hv.of_addsMarks (hbefore.addsMarks k) (by rw [hbefore.slots]))
  obtain ⟨raised, hraise, -⟩ := Notify.raise_of_notify hnotify
  obtain ⟨verdict, last, hhandle, hlast⟩ := hecho raised after hraise
  refine ⟨verdict, last, hhandle, ?_, (hlast.slots.trans hslots).trans hbefore.slots⟩
  have hall := ((hbefore.addsMarks k).trans hadds).trans (hlast.addsMarks k)
  rw [zero_add, add_zero] at hall
  exact hall

/-- The turn of one observer: its handler is called, and there is a cascade with the slots that are
left. -/
theorem turn_cascades (h : Echoing tower t d e w) (hnext : Cascades tower t d e w k room n)
    (p : PassInfo) (hregistry : p.registry = .document d) {x : Entry}
    (hx : x ∈ Pass.snapshotOf w (.document d)) (hv : CascadeReady t d room w v) :
    ∃ verdict u,
      Pass.turn p (Notify.deliver (tower (n + 1)) t d (.event e)) x v =
        (.ok (.live, some verdict), u) ∧
      AddsMarks d k v u (Pi.single .call 1 + cascade k e room) ∧
        u.inFlight d t = v.inFlight d t := by
  have hkey : x.key ∈ w.keys (.document d) := by
    rw [← Pass.keys_snapshotOf]
    exact List.mem_map_of_mem hx
  rw [← hv.snapshot] at hx
  obtain ⟨hstands, halive⟩ := List.mem_filter.mp hx
  have hlive : v.resolve p.registry p.removal x = .live := by
    simp [resolve, Registry.resolve, hregistry, Registry.isCurrent_of_mem hstands, halive]
  let held := (v.hold x.key).record (.invoking p x.key)
  let call := held.callOf t d x.key (.event e)
  have hcalled : AddsMarks d k (v.hold x.key) (held.record (.called call)) (Pi.single .call 1) := by
    have hboth :
        AddsMarks d k (v.hold x.key) (held.record (.called call)) (0 + Pi.single .call 1) :=
      (AddsMarks.record_unmarked _ rfl).trans
        (.record_marked held rfl (by decide) fun p r hm => by cases hm)
    rw [zero_add] at hboth
    exact hboth
  have hready : CascadeReady t d room w (held.record (.called call)) :=
    (hv.hold halive).of_addsMarks hcalled rfl
  obtain ⟨verdict, last, hhandle, hadds, hslots⟩ := h.handler_cascades hnext hkey hready
  have hsupports : (held.observer x.key).supports (Notice.event e).kind = true := by
    have hsame : (held.observer x.key).hasBinding = (w.observer x.key).hasBinding :=
      Observer.hasBinding_of_atRest (hready.resembles.role x.key)
    unfold Observer.supports
    rw [hsame]
    exact h.supports hkey
  have hinner : AddsMarks d k (v.hold x.key) (last.record (.handled call verdict))
      (Pi.single .call 1 + cascade k e room) := by
    have hall := (hcalled.trans hadds).trans
      (.record_unmarked (m := .handled call verdict) last rfl)
    rw [add_zero] at hall
    exact hall
  refine ⟨verdict, (last.record (.handled call verdict)).unhold x.key, ?_, hinner.unhold halive, ?_⟩
  · rw [Pass.turn_live _ hlive, Notify.deliver_supported hsupports, hhandle]
  · rw [inFlight_unhold]
    exact hslots

/-- The observers of one pass, one after the other. -/
theorem walk_cascades (h : Echoing tower t d e w) (hnext : Cascades tower t d e w k room n)
    (p : PassInfo) (hregistry : p.registry = .document d) {slots : Snapshot}
    (hslots : ∀ x ∈ slots, x ∈ Pass.snapshotOf w (.document d)) (hv : CascadeReady t d room w v) :
    ∃ answers u,
      Pass.walk p (Notify.deliver (tower (n + 1)) t d (.event e)) slots v =
        (.ok (.full slots.length, answers), u) ∧
      AddsMarks d k v u (slots.length • (Pi.single .call 1 + cascade k e room)) ∧
      u.inFlight d t = v.inFlight d t := by
  -- every turn leaves a world from which the next one finds the same observers and slots
  induction slots generalizing v with
  | nil =>
      refine ⟨[], v, rfl, ?_, rfl⟩
      rw [List.length_nil, zero_nsmul]
      exact .refl d k v
  | cons x slots ih =>
      obtain ⟨hx, hrest⟩ := List.forall_mem_cons.mp hslots
      obtain ⟨verdict, u, hturn, hadds, hsame⟩ := h.turn_cascades hnext p hregistry hx hv
      obtain ⟨answers, last, hwalk, hadds', hsame'⟩ :=
        ih hrest (hv.of_addsMarks hadds (by rw [hsame]))
      refine ⟨verdict :: answers, last, ?_, ?_, hsame'.trans hsame⟩
      · rw [Pass.walk_cons_apply, hturn]
        simp only [hwalk]
        rfl
      · rw [List.length_cons, succ_nsmul']
        exact hadds.trans hadds'

/-- With one slot more there is one more pass, whose observers each start a cascade. -/
theorem cascades_succ (h : Echoing tower t d e w)
    (hk : (Pass.snapshotOf w (.document d)).length = k)
    (hnext : Cascades tower t d e w k room n) : Cascades tower t d e w k (room + 1) (n + 1) := by
  intro v hv
  have hroom : (v.document d).dispatcher.isFull t = false := by
    apply decide_eq_false
    have hleft := hv.room
    unfold inFlight at hleft
    omega
  let p := Notify.passOf t d (.event e) v
  let entered := (Notify.prepared t d (.event e) v).enterPass p
  have hentered : AddsMarks d k v entered (AddsMarks.opened e) := by
    have hall : AddsMarks d k v entered _ :=
      ((AddsMarks.takeSlot v t (.event e)).trans (.prepare _ e)).trans (.enterPass rfl _)
    simpa using hall
  have hslots : entered.inFlight d t = v.inFlight d t + 1 := by
    have hsame : entered.inFlight = (Notify.prepared t d (.event e) v).inFlight :=
      inFlight_updateRegistry _ _ _
    rw [hsame, inFlight, Notify.dispatcher_prepared]
    simp [inFlight, Dispatcher.inFlight, Dispatcher.take]
  have hsnapshot : Pass.snapshotOf (Notify.prepared t d (.event e) v) (.document d) =
      Pass.snapshotOf w (.document d) := by
    have hacts := Notify.prepared_actsOn t d (.event e) v
    rw [← hv.snapshot, Pass.snapshotOf, hacts.registry_eq, hacts.isAlive]
    rfl
  obtain ⟨answers, u, hwalk, hadds, hsame⟩ := h.walk_cascades hnext p rfl (fun x hx => hx)
    (hv.of_addsMarks hentered (by rw [hslots]; omega))
  rw [hk] at hwalk hadds
  have hpassed : Notify.passed (tower (n + 1)) t d (.event e) v =
      (.ok (.full k, answers), (u.record (.passFinished p (.full k))).record (.passLeft p)) := by
    rw [Notify.passed_eq, hsnapshot, hwalk]
    rfl
  have hfinished : AddsMarks d k u (u.record (.passFinished p (.full k))) (Pi.single .pass 1) := by
    apply AddsMarks.record_marked u rfl (by decide)
    intro p' r hm
    cases hm
    rfl
  refine ⟨_, _, Notify.notify_passed hroom h.event hpassed, ?_, ?_, rfl⟩
  · have hall := (((hentered.trans hadds).trans hfinished).trans (.record_unmarked _ rfl)).trans
      (.releaseSlot ((u.record (.passFinished p (.full k))).record (.passLeft p)) t)
    simpa [cascade] using hall
  · rw [inFlight_releaseSlot, if_pos ⟨rfl, rfl⟩]
    change u.inFlight d t - 1 = v.inFlight d t
    rw [hsame, hslots, Nat.add_sub_cancel]

/-- As long as the handlers nest deeper than there are slots, every raising is a cascade. -/
theorem cascades (h : Echoing tower t d e w) (hk : (Pass.snapshotOf w (.document d)).length = k)
    (hnested : room ≤ n) : Cascades tower t d e w k room n := by
  -- on the slots that are left; each one takes a level of handlers with it
  induction room generalizing n with
  | zero => exact cascades_zero tower w n
  | succ room ih =>
      obtain ⟨n, rfl⟩ : ∃ m, n = m + 1 := ⟨n - 1, by omega⟩
      exact h.cascades_succ hk (ih (by omega))

end Echoing

/-! ## Recorders that echo -/

theorem World.Alike.updateRole {d : Name} {v : World} {o : Name} {role : Role}
    (h : role.atRest = (v.observer o).role.atRest) :
    Alike d v (v.updateObserver o fun a => { a with role }) := by
  have halive : (v.updateObserver o fun a => { a with role }).isAlive = v.isAlive := by
    funext x
    unfold World.isAlive
    rw [observer_updateObserver]
    split_ifs with hx
    · rw [hx]
      rfl
    · rfl
  refine ⟨?_, ?_, ?_, ?_, rfl, id⟩
  · intro x
    rw [observer_updateObserver]
    split_ifs with hx
    · rw [hx]
      exact h
    · rfl
  · intro x
    rw [observer_updateObserver]
    split_ifs with hx
    · rw [hx]
    · rfl
  · intro x
    rw [observer_updateObserver]
    split_ifs with hx
    · rw [hx]
    · rfl
  · rw [Pass.snapshotOf, Pass.snapshotOf, halive, registry_updateObserver]

namespace Scenario

/-- The rule of an observer that raises the event again, however often it has done so. -/
def echoRule (e : Event) (label : Option String) : Rule Step :=
  ⟨e.kind, none, none, [.perform label (.raise none e)], 0⟩

/-- The only rule of the recorder is to raise the event again. -/
def echoRecorder (e : Event) (binding : Bool) (verdict : Verdict) (label : Option String) : Role :=
  .recorder ⟨binding, verdict, [echoRule e label]⟩

variable {t : Thread} {d o : Name} {e : Event} {v : World}

/-- What the handler of a recorder with one rule does when the rule fires. -/
theorem handleOnce_single (nested : Handlers) {r : Recorder} {rule : Rule Step} {n : Notice}
    (hrole : (v.observer o).role = .recorder r) (hrules : r.rules = [rule])
    (hfires : rule.fires n = true) :
    handleOnce nested t d o n v =
      match runSteps nested ⟨t, some o, some d⟩ rule.steps (countFiring o 0 v) with
      | (.ok _, u) => (.ok (n.answer r.verdict), u)
      | (.error x, u) => (.error x, u) := by
  have hfire : fireRule (runSteps nested ⟨t, some o, some d⟩) o n 0 v =
      runSteps nested ⟨t, some o, some d⟩ rule.steps (countFiring o 0 v) := by
    simp [fireRule, rulesOf, Run.bind_apply, hrole, hrules, hfires]
  have heach : Run.each (fireRule (runSteps nested ⟨t, some o, some d⟩) o n)
      (List.range r.rules.length) v =
        runSteps nested ⟨t, some o, some d⟩ rule.steps (countFiring o 0 v) := by
    rw [hrules]
    change (fireRule (runSteps nested ⟨t, some o, some d⟩) o n 0 >>= fun _ => pure ()) v = _
    rw [Run.bind_apply, hfire]
    cases runSteps nested ⟨t, some o, some d⟩ rule.steps (countFiring o 0 v) with
    | mk result u => cases result <;> rfl
  simp only [handleOnce_eq, runRules, Run.bind_apply, Run.read_apply, hrole]
  rw [heach]
  cases runSteps nested ⟨t, some o, some d⟩ rule.steps (countFiring o 0 v) with
  | mk result u => cases result <;> rfl

/-- Such a recorder is an echo, with any handlers nested under it. -/
theorem respond_echoes {w : World} (binding : Bool) (verdict : Verdict) (label : Option String)
    (hrole : (w.observer o).role.atRest = echoRecorder e binding verdict label)
    (hdocument : w.documents.contains d = true) (n : Nat) (hv : Resembles d w v) :
    Handlers.Echoes (respond (n + 1)) (respond n) t d o e v := by
  have hrest := (hv.role o).trans hrole
  obtain ⟨r, hrecorder⟩ : ∃ r, (v.observer o).role = .recorder r := by
    cases hrecorder : (v.observer o).role with
    | recorder r => exact ⟨r, rfl⟩
    | quiet b =>
        rw [hrecorder] at hrest
        cases hrest
    | sink s =>
        rw [hrecorder] at hrest
        cases hrest
  rw [hrecorder] at hrest
  have hrules : r.rules.map (fun rule => { rule with fired := 0 }) = [echoRule e label] :=
    congrArg Recorder.rules (Role.recorder.inj hrest)
  obtain ⟨rule, hsingle, hrule⟩ := List.map_eq_singleton_iff.mp hrules
  have hsteps : rule.steps = [.perform label (.raise none e)] := congrArg Rule.steps hrule
  have hfires : rule.fires (.event e) = true := by
    have hkind : rule.kind = e.kind := congrArg Rule.kind hrule
    have hpayload : rule.payload = none := congrArg Rule.payload hrule
    have hlimit : rule.limit = none := congrArg Rule.limit hrule
    simp [Rule.fires, hkind, hpayload, hlimit, Notice.kind]
  have hcounted : v.Quiescent t d (countFiring o 0 v) := by
    have hcount : countFiring o 0 v = v.updateObserver o fun a => { a with
        role := .recorder { r with rules := [{ rule with fired := rule.fired + 1 }] } } := by
      simp [countFiring, updateRecorder, hrecorder, hsingle]
    rw [hcount]
    refine ⟨.updateRole ?_, rfl, ⟨[], rfl, by simp⟩, rfl⟩
    rw [hrecorder]
    simp [Role.atRest, hsingle]
  refine ⟨(countFiring o 0 v).record (.targeted d), hcounted.record rfl, ?_⟩
  intro result after hraise
  have hcontains : (countFiring o 0 v).documents.contains d = true :=
    hcounted.alike.contains (hv.contains hdocument)
  have hperform : perform (respond n) ⟨t, some o, some d⟩ (.raise none e) (countFiring o 0 v) =
      (.ok (answerOf perform.raised result), after) := by
    simp [perform, onDocument, given, Run.bind_apply, Run.note, Context.documentName, hcontains,
      hraise]
  refine ⟨.proceed, after.record (.answered (some o) label (answerOf perform.raised result)), ?_,
    (Quiescent.refl t d after).record rfl⟩
  rw [respond, handleOnce_single _ hrecorder hsingle hfires, hsteps]
  simp [runSteps, runStep, Run.bind_apply, Run.note, hperform, Step.label, Notice.answer]

end Scenario

/-! ## The whole cascade -/

/-- A document with `N` free slots and `k` observers, each of which raises the event again whenever
it hears of it. Raised once from outside, the event is delivered along every chain of at most `N`
observers, and every chain of `N` ends in a refusal. -/
theorem Notify.cascade_exact {tower : Nat → Handlers} {t : Thread} {d : Name} {e : Event}
    {w : World} {k N n : Nat} (hechoing : Echoing tower t d e w)
    (hobservers : (w.keys (.document d)).length = k)
    (hlimit : (w.document d).dispatcher.maxDepth = N) (hfree : w.inFlight d t = 0)
    (hnested : N ≤ n) :
    ∃ result after news, Notify.raise (tower n) t d e w = (.ok result, after) ∧
      after.past = news ++ w.past ∧
      Journal.markCounts news .call = ∑ i ∈ Finset.range N, k ^ (i + 1) ∧
      Journal.markCounts news .refusal = k ^ N ∧
      (if N = 0 then result = .error (.depthExceeded (w.document d).id e.kind 0)
        else ∃ raised, result = .ok raised) ∧
      Journal.markCounts news .pass = ∑ i ∈ Finset.range N, k ^ i ∧
      (∀ p r, .passFinished p r ∈ news → r = ⟨k, 0, 0, 0⟩) ∧
      after.inFlight d t = 0 ∧
      ∀ mask, e = .beginUpdate mask →
        (w.scope (.document d)).depth + ∑ i ∈ Finset.range N, k ^ i < UInt32.size →
        (after.scope (.document d)).depth =
          (w.scope (.document d)).depth + ∑ i ∈ Finset.range N, k ^ i := by
  have hk : (Pass.snapshotOf w (.document d)).length = k := by
    rw [← hobservers, ← Pass.keys_snapshotOf, List.length_map]
  have hready : CascadeReady t d N w w := ⟨(Alike.refl d w).resembles, rfl, by omega⟩
  obtain ⟨told, after, hnotify, hadds, hslots, htold⟩ := hechoing.cascades hk hnested w hready
  obtain ⟨result, hraise, hresult⟩ := Notify.raise_of_notify hnotify
  obtain ⟨news, hpast, hcounts, hfull⟩ := hadds.news
  refine ⟨result, after, news, hraise, hpast, ?_, ?_, ?_, ?_, hfull, hslots.trans hfree, ?_⟩
  · rw [hcounts, cascade.calls]
  · rw [hcounts, cascade.refusals]
  · rw [htold, hlimit] at hresult
    split_ifs at hresult ⊢ with hnone
    · subst hnone
      cases result with
      | ok raised => cases hresult
      | error f =>
          cases hresult
          rfl
    · cases result with
      | ok raised => exact ⟨raised, rfl⟩
      | error f => cases hresult
  · rw [hcounts, cascade.passes]
  · rintro mask rfl hfits
    have hscope := hadds.scope
    rw [cascade.openings] at hscope
    rw [hscope]
    apply ScopeState.iterate_rise
    exact Nat.le_sub_one_of_lt hfits

/-- Two observers on a document with two slots; both open a scope whenever one is opened. -/
def doubling : World :=
  (Session.runFrom 3 none .empty
    [.perform none (.createDocument "d" { maxDepth := 2 }),
      .createRecorder none "a" false .proceed [Scenario.echoRule (.beginUpdate ⟨1⟩) none],
      .createRecorder none "b" true .proceed [Scenario.echoRule (.beginUpdate ⟨1⟩) (some "again")],
      .perform none (.register (.document (some "d")) "a"),
      .perform none (.register (.document (some "d")) "b")]).2

theorem doubling_echoing :
    Echoing Scenario.respond 0 "d" (.beginUpdate ⟨1⟩) doubling where
  event m := by simp
  binds h := by cases h
  echoes n v hv o ho := by
    have hkeys : doubling.keys (.document "d") = ["a", "b"] := by decide +kernel
    rw [hkeys] at ho
    rcases List.mem_pair.mp ho with rfl | rfl
    · exact Scenario.respond_echoes false .proceed none rfl (by decide +kernel) n hv
    · exact Scenario.respond_echoes true .proceed (some "again") rfl (by decide +kernel) n hv

/-- Six calls, four refusals and three passes, which leave three scopes open. -/
theorem cascade_exact_doubling :
    Echoing Scenario.respond 0 "d" (.beginUpdate ⟨1⟩) doubling ∧
    (doubling.keys (.document "d")).length = 2 ∧
    (doubling.document "d").dispatcher.maxDepth = 2 ∧ doubling.inFlight "d" 0 = 0 ∧
    ∃ result after news,
      Notify.raise (Scenario.respond 2) 0 "d" (.beginUpdate ⟨1⟩) doubling = (.ok result, after) ∧
      after.past = news ++ doubling.past ∧ Journal.markCounts news .call = 6 ∧
      Journal.markCounts news .refusal = 4 ∧ Journal.markCounts news .pass = 3 ∧
      after.inFlight "d" 0 = 0 ∧ (after.scope (.document "d")).depth = 3 := by
  have hkeys : (doubling.keys (.document "d")).length = 2 := by decide +kernel
  have hlimit : (doubling.document "d").dispatcher.maxDepth = 2 := by decide +kernel
  have hfree : doubling.inFlight "d" 0 = 0 := by decide +kernel
  have hscope : (doubling.scope (.document "d")).depth = 0 := by decide +kernel
  obtain ⟨result, after, news, hraise, hpast, hcalls, hrefusals, -, hpasses, -, hslots, hdepth⟩ :=
    Notify.cascade_exact doubling_echoing hkeys hlimit hfree le_rfl
  rw [hscope] at hdepth
  exact ⟨doubling_echoing, hkeys, hlimit, hfree, result, after, news, hraise, hpast, hcalls,
    hrefusals, hpasses, hslots, hdepth _ rfl (by decide)⟩

end ChangeNotice
