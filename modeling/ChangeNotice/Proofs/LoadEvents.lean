import ChangeNotice.Proofs.LoadAccount

/-! # Load events and everything else

Only load events that take a slot of a document concern its load. All other operations
leave it alone, whatever they do otherwise, unless their handlers raise such events. And a
load event that takes its slot runs a pass like any other event, whether it comes in turn
or not. So the account of loads tells all there is to tell, at any time and anywhere.
-/

namespace ChangeNotice

open World

variable {α β : Type} {d : Name} {w : World}

/-! ## Runs that leave a load alone -/

namespace Run

/-- Nothing that the run writes concerns the load of the document. -/
def LeavesLoad (d : Name) (m : Run α) : Prop := ∀ w, World.LeavesLoad d w (m w).2

/-- A run that goes on after another leaves the load alone where it begins. -/
theorem leavesLoad_bind {m : Run α} {f : α → Run β} (hm : World.LeavesLoad d w (m w).2)
    (hf : ∀ a v, m w = (.ok a, v) → World.LeavesLoad d v (f a v).2) :
    World.LeavesLoad d w ((m >>= f) w).2 := by
  rw [bind_apply]
  cases hrun : m w with
  | mk result v =>
      rw [hrun] at hm
      cases result with
      | ok a => exact hm.trans (hf a v hrun)
      | error e => exact hm

namespace LeavesLoad

variable {m : Run α} {f : α → Run β}

theorem pure (a : α) : LeavesLoad d (Pure.pure a : Run α) := fun _ => .of_past rfl

theorem read (f : World → α) : LeavesLoad d (Run.read f) := fun _ => .of_past rfl

theorem change {g : World → World} (h : ∀ w, World.LeavesLoad d w (g w)) :
    LeavesLoad d (Run.change g) := h

theorem note {moment : Moment} (h : moment.concernsLoad d = false) :
    LeavesLoad d (Run.note moment) := fun _ => .cons rfl h

theorem bind (hm : LeavesLoad d m) (hf : ∀ a, LeavesLoad d (f a)) : LeavesLoad d (m >>= f) :=
  fun w => leavesLoad_bind (hm w) fun a v _ => hf a v

theorem ensuring (hm : LeavesLoad d m) {after : World → World}
    (hafter : ∀ w, World.LeavesLoad d w (after w)) : LeavesLoad d (Run.ensuring m after) :=
  fun w => (hm w).trans (hafter _)

theorem holding (hm : LeavesLoad d m) (o : Name) : LeavesLoad d (Run.holding o m) :=
  .bind (.change fun _ => .cons rfl rfl) fun _ => hm.ensuring fun w => unhold_leavesLoad w o d

theorem keeping (hm : LeavesLoad d m) (guard : Nat) : LeavesLoad d (Run.keeping guard m) := by
  refine .bind (.change fun _ => .of_past rfl) fun _ => hm.ensuring fun w => ?_
  exact leaveGuard_leavesLoad w guard d

end LeavesLoad

end Run

open Run (LeavesLoad)

/-! ## Passes and notifications -/

namespace Pass

variable {visit : Name → Run (Option Verdict)}

theorem walk_leavesLoad (hvisit : ∀ o, LeavesLoad d (visit o)) (p : PassInfo) (slots : Snapshot) :
    LeavesLoad d (walk p visit slots) := by
  induction slots with
  | nil => exact .pure _
  | cons e rest ih =>
      refine .bind (.read _) fun found => ?_
      cases found with
      | live =>
          refine .bind (.holding (.bind (.note rfl) fun _ => hvisit e.key) e.key) fun answer => ?_
          exact .bind ih fun _ => .pure _
      | unregistered => exact .bind (.note rfl) fun _ => .bind ih fun _ => .pure _
      | dropped => exact .bind (.note rfl) fun _ => .bind ih fun _ => .pure _

theorem start_leavesLoad (hvisit : ∀ o, LeavesLoad d (visit o)) (registry issuer : Owner)
    (t : Thread) (dispatcher : Dispatcher) (kind : Kind) (depth : Nat) :
    LeavesLoad d (start registry issuer t dispatcher kind depth visit) := by
  refine .bind (.change fun w => .of_past (past_updateRegistry w registry _)) fun _ => ?_
  refine .bind (.read _) fun slots => .bind (.read _) fun serial => ?_
  refine .bind (.change fun _ => .of_past rfl) fun _ => ?_
  refine .ensuring (.bind (.note rfl) fun _ => ?_) fun _ => .cons rfl rfl
  exact .bind (walk_leavesLoad hvisit _ slots) fun _ => .bind (.note rfl) fun _ => .pure _

end Pass

namespace Notify

variable {handle : Handlers} (hhandle : ∀ t d₁ o n, LeavesLoad d (handle t d₁ o n)) {t : Thread}
  {d₁ : Name}

/-- A notification leaves the load alone if it is no load event of the document and leaves the load
alone once it is prepared. -/
theorem withSlot_leavesLoad {n : Notice} {body : Nat → Run (Except NotifyError α)}
    (rest : Nat → Run (Except NotifyError α))
    (hbody : ∀ depth v, body depth v = rest depth (v.prepare d₁ n))
    (hn : (Moment.admitted d₁ t n).loads? d = none)
    (hrest : ∀ depth left, (w.document d₁).dispatcher.enter? t = some (depth, left) →
      let v := (w.takeSlot d₁ t n left).prepare d₁ n
      World.LeavesLoad d v (rest depth v).2) :
    World.LeavesLoad d w (withSlot t d₁ n body w).2 := by
  cases hleft : (w.document d₁).dispatcher.enter? t with
  | none =>
      rw [withSlot_full hleft]
      exact .cons rfl rfl
  | some slot =>
      obtain ⟨depth, left⟩ := slot
      have htaken : World.LeavesLoad d w (w.takeSlot d₁ t n left) := by
        apply Adds.cons rfl
        rw [Moment.concernsLoad_admitted, hn]
        rfl
      have hrun := (prepare_other _ hn).1.trans (hrest depth left hleft)
      rw [withSlot_taken hleft, hbody]
      exact (htaken.trans hrun).trans (.cons rfl rfl)

include hhandle

theorem deliver_leavesLoad (n : Notice) (o : Name) : LeavesLoad d (deliver handle t d₁ n o) := by
  rw [deliver_eq]
  refine .bind (.read _) fun supported => ?_
  cases supported with
  | false => exact .pure _
  | true =>
      refine .bind (.read _) fun call => .bind (.note rfl) fun _ => ?_
      exact .bind (hhandle t d₁ o n) fun _ => .bind (.note rfl) fun _ => .pure _

theorem announce_leavesLoad (n : Notice) (depth : Nat) :
    LeavesLoad d (announce handle t d₁ n depth) :=
  .bind (.read _) fun doc =>
    Pass.start_leavesLoad (deliver_leavesLoad hhandle n) _ _ t doc.dispatcher _ depth

end Notify

/-! ## Operations -/

/-- The operation raises a load event of the document. -/
def Operation.loads (c : Context) (d : Name) (operation : Operation) : Bool :=
  match operation.notice? with
  | some (d₁, .event e) => c.documentName d₁ = d && e.loadState?.isSome
  | _ => false

theorem Operation.Raises.loads? {operation : Operation} {c : Context} {d₁ : Name} {n : Notice}
    (h : operation.Raises c d₁ n) (hother : operation.loads c d = false) (t : Thread) :
    (Moment.admitted d₁ t n).loads? d = none := by
  obtain ⟨target, hnotice, rfl⟩ := h
  cases n with
  | script content parser => rfl
  | event e =>
      apply Moment.loads?_of_other
      intro heq
      simpa [Operation.loads, hnotice, heq] using hother

theorem Edit.leavesLoad {at? : Option Name} {g : World → World} (h : Edit w at? g) (d : Name) :
    World.LeavesLoad d w (g w) := by
  cases h with
  | aside h => exact .of_past (h.aside.past_eq w)
  | reject hm =>
      apply Adds.cons rfl
      revert hm
      cases ‹Moment› <;> simp [Moment.isRejection, Moment.concernsLoad]
  | blockScript => exact .cons rfl rfl
  | createQuiet => exact .of_past rfl
  | createSink => exact .cons rfl rfl
  | createRegistry => exact .of_past rfl
  | disown => exact disown_leavesLoad w _ d
  | register => exact register_leavesLoad w _ _ d
  | unregister => exact unregister_leavesLoad w _ _ d
  | prune => exact .of_past (past_updateRegistry w _ _)
  | readStream => exact .cons (congrArg _ (past_updateSink w _ _)) rfl
  | disconnect => exact .of_past (past_updateSink w _ _)
  | openTracker => exact .cons rfl rfl
  | closeScope => exact closeScope_leavesLoad w _ _ _ d

variable {handle : Handlers} {c : Context}

theorem Scenario.visit_leavesLoad (hhandle : ∀ t d₁ o n, LeavesLoad d (handle t d₁ o n)) (v : Visit)
    (o : Name) : LeavesLoad d (visit handle c v o) := by
  refine .bind (.note rfl) fun _ => ?_
  cases v with
  | deliver e d₁ => exact .bind (.note rfl) fun _ => Notify.deliver_leavesLoad hhandle _ o
  | answer supported => exact .pure _

/-- Only load events of the document concern its load. -/
theorem Composed.leavesLoad {γ : Type} {operation : Operation} {at? : Option Name}
    {slot : Option (Name × Thread × Nat)} {f : α → γ} {m : Handlers → Run α}
    (h : Composed handle c operation at? slot f w m)
    (hhandle : ∀ t d₁ o n, LeavesLoad d (handle t d₁ o n)) (hother : operation.loads c d = false) :
    World.LeavesLoad d w (m handle w).2 := by
  induction h with
  | pure | panic | read => exact .of_past rfl
  | bind _ _ ihm ihr => exact Run.leavesLoad_bind ihm ihr
  | map _ ih => exact Run.leavesLoad_bind ih fun _ _ _ => .of_past rfl
  | edit hg => exact hg.leavesLoad d
  | @target _ _ _ w d₁ _ _ ih =>
      have htargeted : World.LeavesLoad d w (w.record (.targeted d₁)) := .cons rfl rfl
      exact htargeted.trans ih
  | createDocument => exact .of_past rfl
  | slot hraises hbody _ ih =>
      exact Notify.withSlot_leavesLoad _ (hbody handle) (hraises.loads? hother c.thread) ih
  | announce _ _ _ ih =>
      apply Run.leavesLoad_bind (Notify.announce_leavesLoad hhandle _ _ _)
      exact fun told v hrun => Run.leavesLoad_bind (ih told v hrun) fun _ _ _ => .of_past rfl
  | deliver => exact (Notify.deliver_leavesLoad hhandle _ _).holding _ _
  | @pass _ _ _ w _ _ _ _ _ visited =>
      have hvisit := Scenario.visit_leavesLoad (c := c) hhandle visited
      exact (Pass.start_leavesLoad hvisit _ _ _ _ _ _).keeping _ w

/-! ## Load events -/

namespace Notify

variable {handle : Handlers} {t : Thread} {e : Event} {l : LoadState}

/-- What becomes of a load event that leads to the given state. Without a slot it is refused and
changes nothing. Else the state is set, and a remark made if the event is out of turn, where it
takes its slot; and then, out of turn or not, its pass runs over all who are registered. -/
structure EntersLoad (handle : Handlers) (t : Thread) (d : Name) (e : Event) (l : LoadState)
    (w : World) : Prop where
  refused : (w.document d).dispatcher.isFull t = true → notify handle t d e w =
    (.ok (.error (.depthExceeded (w.document d).id e.kind (w.document d).dispatcher.maxDepth)),
      w.record (.refused (.document d) t (w.document d).id e.kind
        (w.document d).dispatcher.maxDepth))
  enters : (w.document d).dispatcher.isFull t = false →
    (prepared t d (.event e) w).past = (w.document d).load.remarks d (w.document d).id l ++
      .admitted d t (.event e) :: w.past ∧
    ((prepared t d (.event e) w).document d).load = l
  passes : (w.document d).dispatcher.isFull t = false → notify handle t d e w =
    released t d (match passed handle t d (.event e) w with
      | (.error x, u) => (.error x, u)
      | (.ok told, u) => (.ok (.ok told.1), u))
  reports : (w.document d).dispatcher.isFull t = false →
    ∀ r, (notify handle t d e w).1 = .ok (.ok r) →
      (slotTurns handle t d (.event e) w).map (·.entry.key) = w.keys (.document d) ∧
      r = SlotTurn.reportOf (passOf t d (.event e) w) (.event e) (slotTurns handle t d (.event e) w)
  /-- The method of the event does the same. -/
  raised : Agree (raise handle t d e w) (notify handle t d e w)

theorem withSlot_reported {n : Notice} {body : Nat → Run (Except NotifyError Report)}
    (hroom : (w.document d).dispatcher.isFull t = false)
    (hbody : ∀ depth v, body depth v =
      (announce handle t d n depth >>= fun told => pure (.ok told.1)) (v.prepare d n)) :
    withSlot t d n body w = released t d (match passed handle t d n w with
      | (.error x, u) => (.error x, u)
      | (.ok told, u) => (.ok (.ok told.1), u)) :=
  withSlot_passed hroom (hbody _ _)

theorem load_passed (hroom : (w.document d).dispatcher.isFull t = false)
    (hl : e.loadState? = some l) : notify handle t d e w =
      released t d (match passed handle t d (.event e) w with
        | (.error x, u) => (.error x, u)
        | (.ok told, u) => (.ok (.ok told.1), u)) := by
  cases e with
  | beginLoad => exact withSlot_reported hroom (startLoad_body handle)
  | endLoad => exact withSlot_reported hroom (finishLoad_body handle)
  | _ => exact nomatch hl

theorem notify_entersLoad (handle : Handlers) (t : Thread) (d : Name) (w : World)
    (hl : e.loadState? = some l) : EntersLoad handle t d e l w where
  refused hfull := notify_full handle e hfull
  enters _ := accept_load w d t hl
  passes hroom := load_passed hroom hl
  reports hroom r hr := by
    have hruns : RunsPass handle t d (.event e) w (notify handle t d e w) :=
      notify_runsPass hroom fun m heq => by
        subst heq
        exact nomatch hl
    obtain ⟨answers, hpassed⟩ := hruns.report r hr
    exact ⟨keys_slotTurns.2 ⟨_, hpassed⟩, (told_of_passed hpassed).1⟩
  raised := raise_agree handle t d e w

end Notify

/-- Wherever a client can look, inside of handlers or outside, the load of a document is what the
last load event made it that took a slot of the document, however the call of that event has gone
on or ended, and a client that asks is told so. The journal has a remark right where an event took
its slot out of turn, and no others. Such an event is passed on as one that comes in turn. No other
operation concerns the load, unless by load events that its handlers raise. -/
theorem Reached.load_follows (hw : Reached w) (d : Name) :
    (w.document d).load = Journal.load d w.past ∧
    w.past.filter (·.concernsLoad d) = Journal.loadLog d (w.document d).id w.past ∧
    (w.documents.contains d = true → ∀ handle c, ∃ scope observers inFlight text,
      (Scenario.perform handle c (.documentState (some d)) w).1 =
        .ok (.documentState scope (Journal.load d w.past) observers inFlight text)) ∧
    (∀ handle t e l, e.loadState? = some l → Notify.EntersLoad handle t d e l w) ∧
    ∀ handle : Handlers, handle.Client → (∀ t d₁ o n, LeavesLoad d (handle t d₁ o n)) →
      ∀ c operation, operation.loads c d = false →
        let v := (Scenario.perform handle c operation w).2
        (v.document d).load = (w.document d).load ∧
          v.past.filter (·.concernsLoad d) = w.past.filter (·.concernsLoad d) := by
  obtain ⟨hstate, hlog, -⟩ := hw.loadAccounted d
  refine ⟨hstate, hlog, fun hdocument handle c => ?_, ?_, ?_⟩
  · rw [← hstate]
    rw [Scenario.perform, Scenario.onDocument_apply (Scenario.documentState c) hdocument]
    exact ⟨_, _, _, _, rfl⟩
  · exact fun handle t e l hl => Notify.notify_entersLoad handle t d w hl
  · intro handle hclient hleaves c operation hother
    obtain ⟨news, hpast, hnews⟩ :=
      (Scenario.perform_composed handle c operation w).leavesLoad hleaves hother
    have hafter := (hw.run (.perform hclient c operation)).loadAccounted d
    refine ⟨?_, ?_⟩
    · rw [hafter.state, hpast, hstate]
      exact Journal.load_append (fun m hm => Moment.loads?_of_not_concernsLoad (hnews m hm)) _
    · rw [hpast, List.filter_append, Journal.filter_eq_nil_of_unconcerned hnews]
      rfl

/-- A handler ends the load that it hears of, so that the next end of the load is out of turn. A
thread begins a load, and so does a client that panics. -/
def reloaded : World :=
  (Session.runFrom 3 none .empty
    [.perform none (.createDocument "d" {}),
      .createRecorder none "a" false .proceed
        [⟨.beginLoad, none, some 1, [.perform none (.raise none .endLoad)], 0⟩],
      .perform none (.register (.document none) "a"),
      .perform none (.raise none .beginLoad), .perform none (.notify none .endLoad),
      .spawn none [.perform none (.notify none .beginLoad)],
      .attempt none [.perform none (.raise none .beginLoad), .perform none (.panic "over")]]).2

theorem load_follows_reloaded :
    (reloaded.document "d").load = .loading ∧
    reloaded.past.filter (·.concernsLoad "d") =
      [.loadRestarted "d" ⟨1⟩, .admitted "d" 0 (.event .beginLoad),
        .admitted "d" 1 (.event .beginLoad),
        .loadNotStarted "d" ⟨1⟩ .loaded, .admitted "d" 0 (.event .endLoad),
        .admitted "d" 0 (.event .endLoad), .admitted "d" 0 (.event .beginLoad)] := by
  have hreached : Reached reloaded := Session.runFrom_reached 3 none _ .start
  obtain ⟨hstate, hlog, -⟩ := hreached.load_follows "d"
  rw [hstate, hlog]
  decide +kernel

end ChangeNotice
