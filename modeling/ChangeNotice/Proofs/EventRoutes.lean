import ChangeNotice.Proofs.HandlerCalls
import ChangeNotice.Proofs.StreamAccount

/-! # Events arrive unchanged

An event can be raised by the method of its own or by the one for all events. Both routes
do the same. Each observer that the pass reaches then has one of its handlers called, the
one for the event, with what the event carries and for the document that raised it; an
observer without the handlers for bindings does not hear of bindings, and counts as one
that does not support them. A sink puts the event together again from what its handler is
given, and keeps it if its filter lets it through.
-/

namespace ChangeNotice

open World

namespace Notify

variable {handle : Handlers} {t : Thread} {d : Name} {w : World} {e : Event}

/-! ## The two routes -/

/-- What a call by the method of an event returns, told as the call for all events tells it. -/
structure Agree (outcome : Except Unwind (Except NotifyError Raised) × World)
    (outcome' : Except Unwind (Except NotifyError Report) × World) : Prop where
  /-- All that has been changed and all that has been called is the same. -/
  world : outcome.2 = outcome'.2
  /-- They are unwound alike, fail alike and return alike. -/
  result : outcome.1.map (Except.map fun _ => ()) = outcome'.1.map (Except.map fun _ => ())
  report : ∀ r, outcome.1 = .ok (.ok (.report r)) → outcome'.1 = .ok (.ok r)

theorem agree_of_scope (run : Run (Except NotifyError (ScopeState × Report))) (w : World) :
    Agree (((run >>= fun told => pure (told.map Prod.fst)) >>= fun told =>
        pure (told.map Raised.scope)) w)
      ((run >>= fun told => pure (told.map Prod.snd)) w) := by
  rw [Run.bind_pure_apply, Run.bind_pure_apply, Run.bind_pure_apply]
  cases run w with
  | mk result u =>
      refine ⟨rfl, ?_, ?_⟩
      · match result with
        | .error x => rfl
        | .ok (.error f) => rfl
        | .ok (.ok told) => rfl
      · intro r h
        match result, h with
        | .ok (.ok told), h => simp [Except.map] at h

theorem agree_of_report (run : Run (Except NotifyError Report)) (w : World) :
    Agree ((run >>= fun told => pure (told.map Raised.report)) w) (run w) := by
  rw [Run.bind_pure_apply]
  cases run w with
  | mk result u =>
      refine ⟨rfl, ?_, ?_⟩
      · match result with
        | .error x => rfl
        | .ok (.error f) => rfl
        | .ok (.ok told) => rfl
      · intro r h
        match result, h with
        | .ok (.ok r'), h =>
          obtain rfl : r' = r := by simpa [Except.map] using h
          rfl

theorem raise_agree (handle : Handlers) (t : Thread) (d : Name) (e : Event) (w : World) :
    Agree (raise handle t d e w) (notify handle t d e w) := by
  cases e with
  | beginUpdate m => exact agree_of_scope (openScope handle t d m) w
  | endUpdate m => exact agree_of_scope (closeScope handle t d m) w
  | beginLoad => exact agree_of_report (startLoad handle t d) w
  | endLoad => exact agree_of_report (finishLoad handle t d) w
  | _ => exact agree_of_report (broadcast handle t d _) w

/-! ## The pass of an event -/

/-- An event that finds no slot is refused, and nothing else happens. -/
theorem notify_full (handle : Handlers) (e : Event)
    (hfull : (w.document d).dispatcher.isFull t = true) :
    notify handle t d e w =
      (.ok (.error (.depthExceeded (w.document d).id e.kind (w.document d).dispatcher.maxDepth)),
        w.record (.refused (.document d) t (w.document d).id e.kind
          (w.document d).dispatcher.maxDepth)) := by
  have hnone := Dispatcher.enter?_of_full hfull
  cases e with
  | beginUpdate m =>
      rw [notify, Run.bind_pure_apply, openScope, withSlot_full hnone]
      rfl
  | endUpdate m =>
      rw [notify, Run.bind_pure_apply, closeScope, withSlot_full hnone]
      rfl
  | beginLoad => exact withSlot_full hnone
  | endLoad => exact withSlot_full hnone
  | _ => exact withSlot_full hnone

/-- A call that raises an event makes the calls of its pass, and what it reports is the report of
the pass. -/
structure RunsPass (handle : Handlers) (t : Thread) (d : Name) (n : Notice) (w : World)
    (outcome : Except Unwind (Except NotifyError Report) × World) : Prop where
  calls : ∀ serial, Journal.ownCalls serial outcome.2.past =
    Journal.ownCalls serial (passed handle t d n w).2.past
  report : ∀ r, outcome.1 = .ok (.ok r) → ∃ answers, (passed handle t d n w).1 = .ok (r, answers)

section

variable (hroom : (w.document d).dispatcher.isFull t = false)

include hroom

theorem withSlot_runsPass {n : Notice} {body : Nat → Run (Except NotifyError Report)}
    (hbody : ∀ depth v, body depth v =
      (announce handle t d n depth >>= fun told => pure (.ok told.1)) (v.prepare d n)) :
    RunsPass handle t d n w (withSlot t d n body w) := by
  rw [withSlot_passed hroom (hbody _ _)]
  cases hpassed : passed handle t d n w with
  | mk result u =>
      refine ⟨fun serial => ?_, fun r hr => ?_⟩
      · rw [ownCalls_released, hpassed]
        cases result <;> rfl
      · rw [hpassed]
        cases result with
        | error x => simp [released] at hr
        | ok told =>
            obtain rfl : told.1 = r := by simpa [released] using hr
            exact ⟨told.2, rfl⟩

theorem openScope_runsPass (m : UpdateMask) :
    RunsPass handle t d (.event (.beginUpdate m)) w (notify handle t d (.beginUpdate m) w) := by
  have hnotify : notify handle t d (.beginUpdate m) w =
      ((openScope handle t d m w).1.map (Except.map Prod.snd), (openScope handle t d m w).2) :=
    Run.bind_pure_apply _ _ w
  rw [hnotify]
  refine ⟨ownCalls_openScope hroom m, fun r hr => ?_⟩
  rw [openScope_passed hroom] at hr
  cases hpassed : passed handle t d (.event (.beginUpdate m)) w with
  | mk result u =>
      rw [hpassed] at hr
      cases result with
      | error x => simp [released, Except.map] at hr
      | ok told =>
          obtain rfl : told.1 = r := by simpa [released, Except.map] using hr
          exact ⟨told.2, rfl⟩

theorem closeScope_runsPass {m : UpdateMask} (hopen : (w.scope (.document d)).depth ≠ 0) :
    RunsPass handle t d (.event (.endUpdate m)) w (notify handle t d (.endUpdate m) w) := by
  have hnotify : notify handle t d (.endUpdate m) w =
      ((closeScope handle t d m w).1.map (Except.map Prod.snd), (closeScope handle t d m w).2) :=
    Run.bind_pure_apply _ _ w
  rw [hnotify]
  refine ⟨ownCalls_closeScope hroom hopen, fun r hr => ?_⟩
  rw [closeScope_passed hroom hopen] at hr
  cases hpassed : passed handle t d (.event (.endUpdate m)) w with
  | mk result u =>
      rw [hpassed] at hr
      cases result with
      | error x => simp [released, Except.map] at hr
      | ok told =>
          cases hleave : (u.scope (.document d)).leave m with
          | error f =>
              simp only [released, hleave] at hr
              exact absurd hr (violation_map_ne u d m Prod.snd r)
          | ok s =>
              obtain rfl : told.1 = r := by simpa [released, hleave, Except.map] using hr
              exact ⟨told.2, rfl⟩

theorem notify_runsPass (hopen : ∀ m, e = .endUpdate m → (w.scope (.document d)).depth ≠ 0) :
    RunsPass handle t d (.event e) w (notify handle t d e w) := by
  cases e with
  | beginUpdate m => exact openScope_runsPass hroom m
  | endUpdate m => exact closeScope_runsPass hroom (hopen m rfl)
  | beginLoad => exact withSlot_runsPass hroom (startLoad_body handle)
  | endLoad => exact withSlot_runsPass hroom (finishLoad_body handle)
  | _ => exact withSlot_runsPass hroom fun depth v => rfl

end

end Notify

/-! ## What a sink keeps -/

/-- Somebody can still read what the sink keeps, and it can keep one event more. -/
structure Sink.HasRoom (k : Sink) : Prop where
  connected : k.connected = true
  room : k.buffer.length < k.capacity

theorem Sink.buffer_offer {k : Sink} (h : k.HasRoom) (id : DocumentId) (e : Event) :
    (k.offer id e).1.buffer =
      k.buffer ++ if k.filter.keeps e.category then [⟨id, k.position, e⟩] else [] := by
  unfold offer
  cases hkeeps : k.filter.keeps e.category with
  | true => simp [h.connected, h.room]
  | false => simp

theorem Observer.hasBinding_of_sink? {o : Observer} {k : Sink} (h : o.sink? = some k) :
    o.hasBinding = k.filter.bindings := by
  unfold sink? at h
  split at h
  next k' hrole =>
    obtain rfl : k' = k := Option.some.inj h
    simp [hasBinding, hrole]
  next => simp at h

/-- Of all events only bindings ask for handlers that an observer may lack. -/
theorem Observer.supports_iff (o : Observer) (e : Event) :
    o.supports (Notice.event e).kind = true ↔
      ¬ (e.kind = .bindToDocument ∧ o.hasBinding = false) := by
  cases e <;> simp [supports, Notice.kind, Event.kind, Kind.needsBinding]

theorem Sink.keeps_of_supports {o : Observer} {k : Sink} (h : o.sink? = some k) {e : Event}
    (hsupports : o.supports (Notice.event e).kind = false) :
    k.filter.keeps e.category = false := by
  obtain ⟨hkind, hbinding⟩ : e.kind = .bindToDocument ∧ o.hasBinding = false := by
    by_contra hnot
    rw [(o.supports_iff e).mpr hnot] at hsupports
    simp at hsupports
  rw [Observer.hasBinding_of_sink? h] at hbinding
  simpa [Event.category, hkind, Kind.category, Filter.keeps] using hbinding

namespace SlotTurn

variable {clients : Handlers} {p : PassInfo} {t : Thread} {d : Name} {e : Event} {s : SlotTurn}

/-- Where the turn of the slot ends. -/
def after (handle : Handlers) (p : PassInfo) (t : Thread) (d : Name) (n : Notice) (s : SlotTurn) :
    World :=
  (Pass.turn p (Notify.deliver handle t d n) s.entry s.world).2

/-- Where the turn of the slot ends, once its handler for the event has ended so. -/
def closed (t : Thread) (d : Name) (e : Event) (s : SlotTurn) :
    Except Unwind Unit × World → World
  | (.ok (), u) => (u.record (.handled (s.call t d (.event e)) .proceed)).unhold s.entry.key
  | (.error _, u) => u.unhold s.entry.key

theorem after_of_isHandled {handle : Handlers} (hsupported : s.isHandled p (.event e) = true) :
    s.after handle p t d (.event e) =
      s.closed t d e ((handle.of t s.entry.key (s.world.observer s.entry.key).role).onEvent d e
        (s.entrance p t d (.event e))) := by
  have hrole : ((s.entrance p t d (.event e)).observer s.entry.key).role =
      (s.world.observer s.entry.key).role := by
    simp [entrance, invoked]
  have hon := handle.on_event_apply t d s.entry.key e (s.entrance p t d (.event e))
  rw [hrole] at hon
  generalize (handle.of t s.entry.key (s.world.observer s.entry.key).role).onEvent d e
    (s.entrance p t d (.event e)) = ended at hon ⊢
  have hturn := s.turn_spec handle p t d (.event e)
  unfold after
  generalize Pass.turn p (Notify.deliver handle t d (.event e)) s.entry s.world = outcome at hturn ⊢
  obtain ⟨result, u⟩ := ended
  cases hturn with
  | handled _ hcall =>
      rw [hon] at hcall
      cases result with
      | ok _ =>
          obtain ⟨hv, rfl⟩ := Prod.mk.inj hcall
          rw [← Except.ok.inj hv]
          rfl
      | error x => cases hcall
  | unwound _ hcall =>
      rw [hon] at hcall
      cases result with
      | ok _ => cases hcall
      | error x =>
          obtain ⟨-, rfl⟩ := Prod.mk.inj hcall
          rfl
  | ignored hunsupported => simp [isHandled_of_isUnsupported hunsupported] at hsupported
  | skipped hfound => simp [isHandled_iff, hfound] at hsupported
  | missed hfound => simp [isHandled_iff, hfound] at hsupported

/-- A sink that has its turn is offered the event, or has nothing to do with it. -/
theorem sink?_after (hlive : s.found p = .live) {k : Sink}
    (hsink : (s.world.observer s.entry.key).sink? = some k) :
    ((s.after (Scenario.withSinks clients) p t d (.event e)).observer s.entry.key).sink? =
      some (k.offer (s.world.document d).id e).1 := by
  have hentrance : ((s.entrance p t d (.event e)).observer s.entry.key).sink? = some k := by
    rw [← hsink]
    exact sink?_hold
  have hserved := withSinks_of_sink? hentrance clients t d e
  have hturn := s.turn_spec (Scenario.withSinks clients) p t d (.event e)
  unfold after
  generalize Pass.turn p (Notify.deliver (Scenario.withSinks clients) t d (.event e)) s.entry
    s.world = outcome at hturn ⊢
  cases hturn with
  | handled hsupported hcall =>
      obtain ⟨-, rfl⟩ := Prod.mk.inj (hserved.symm.trans hcall)
      rw [sink?_unhold, observer_record, sink?_offer hentrance, if_pos rfl]
      rfl
  | unwound hsupported hcall => simp [hserved] at hcall
  | ignored hunsupported =>
      have hkeeps := Sink.keeps_of_supports hsink (isUnsupported_iff.mp hunsupported).2
      rw [sink?_unhold, Sink.offer_of_not_keeps hkeeps]
      exact hentrance
  | skipped hfound => simp [hlive] at hfound
  | missed hfound => simp [hlive] at hfound

theorem filter_key {turns : List SlotTurn} (hnodup : (turns.map (·.entry.key)).Nodup)
    (hs : s ∈ turns) :
    turns.filter (fun s' => s'.entry.key = s.entry.key) = [s] := by
  induction turns with
  | nil => simp at hs
  | cons first rest ih =>
      obtain ⟨hfirst, hrest⟩ := List.nodup_cons.mp hnodup
      rcases List.mem_cons.mp hs with rfl | hs
      · have hnone : rest.filter (fun s' => s'.entry.key = s.entry.key) = [] := by
          refine List.filter_eq_nil_iff.mpr fun s' hs' hkey => hfirst ?_
          exact List.mem_map.mpr ⟨s', hs', of_decide_eq_true hkey⟩
        rw [List.filter_cons_of_pos (by simp), hnone]
      · have hother : first.entry.key ≠ s.entry.key :=
          fun hkey => hfirst (List.mem_map.mpr ⟨s, hs, hkey.symm⟩)
        rw [List.filter_cons_of_neg (by simpa using hother), ih hrest hs]

/-- Each observer has one slot at most, so the calls that come to it are those of this slot. -/
theorem filter_calls {turns : List SlotTurn} {n : Notice}
    (hnodup : (turns.map (·.entry.key)).Nodup) (hs : s ∈ turns) :
    ((turns.filter (·.isHandled p n)).map (·.call t d n)).filter
        (fun c => c.observer = s.entry.key) =
      if s.isHandled p n then [s.call t d n] else [] := by
  have hkey : (fun c : Call => decide (c.observer = s.entry.key)) ∘ (·.call t d n) =
      fun s' : SlotTurn => decide (s'.entry.key = s.entry.key) := rfl
  rw [List.filter_map, hkey, List.filter_comm, filter_key hnodup hs]
  cases hsupported : s.isHandled p n <;> simp [hsupported]

end SlotTurn

namespace Notify

variable {handle clients : Handlers} {t : Thread} {d : Name} {w : World} {e : Event}

/-- How an event that the document raises comes to the observer of a slot. `calls` are the calls
that the handlers of the pass have written down. -/
structure Arrives (handle : Handlers) (t : Thread) (d : Name) (e : Event) (w : World)
    (calls : List Call) (s : SlotTurn) : Prop where
  /-- An observer without handlers for bindings has none called for a binding. -/
  uncalled : e.kind = .bindToDocument ∧ (s.world.observer s.entry.key).hasBinding = false →
    calls.filter (fun c => c.observer = s.entry.key) = []
  /-- Otherwise one handler is called: the one for the event, with what the event carries, and for
  the document that raised it. -/
  called : ¬ (e.kind = .bindToDocument ∧ (s.world.observer s.entry.key).hasBinding = false) →
    ∃ c, calls.filter (fun c => c.observer = s.entry.key) = [c] ∧
      c.notice = .event e ∧ c.document = d ∧ c.id = (w.document d).id ∧ c.thread = t
  /-- Nothing but this handler runs. -/
  ran : ¬ (e.kind = .bindToDocument ∧ (s.world.observer s.entry.key).hasBinding = false) →
    s.after handle (passOf t d (.event e) w) t d (.event e) =
      s.closed t d e ((handle.of t s.entry.key (s.world.observer s.entry.key).role).onEvent d e
        (s.entrance (passOf t d (.event e) w) t d (.event e)))
  /-- A sink counts as unsupported exactly for bindings that its filter leaves out. -/
  counted : ∀ k, (s.world.observer s.entry.key).sink? = some k →
    (s.isUnsupported (passOf t d (.event e) w) (.event e) = true ↔
      e.kind = .bindToDocument ∧ k.filter.bindings = false) ∧
    (s.isHandled (passOf t d (.event e) w) (.event e) = true ↔
      ¬ (e.kind = .bindToDocument ∧ k.filter.bindings = false))
  /-- A sink with room keeps the event exactly if its filter lets it through. -/
  kept : ∀ k, (s.world.observer s.entry.key).sink? = some k → k.HasRoom → ∃ k',
      ((s.after handle (passOf t d (.event e) w) t d (.event e)).observer s.entry.key).sink? =
        some k' ∧
      k'.buffer = k.buffer ++
        if k.filter.keeps e.category then [⟨(w.document d).id, k.position, e⟩] else []

theorem id_slotTurns {n : Notice} (hsound : w.Sound) (hdocument : w.documents.contains d = true)
    (hroom : (w.document d).dispatcher.isFull t = false) (hhandle : handle.Client) {s : SlotTurn}
    (hs : s ∈ slotTurns handle t d n w) : (s.world.document d).id = (w.document d).id := by
  obtain ⟨rest, hunderway⟩ := underway_slotTurns hsound hdocument hroom hhandle hs
  exact Evolves.id_eq ((leads_prepared hroom).trans hunderway.settles.leads) hdocument

theorem nodup_slotTurns (handle : Handlers) (t : Thread) (d : Name) (n : Notice)
    (hsound : w.Sound) :
    ((slotTurns handle t d n w).map (·.entry.key)).Nodup :=
  (hsound.nodup_keys (.document d)).sublist keys_slotTurns.1.sublist

theorem arrives_of_live (hsound : w.Sound) (hclients : clients.Client)
    (hdocument : w.documents.contains d = true)
    (hroom : (w.document d).dispatcher.isFull t = false) {s : SlotTurn}
    (hs : s ∈ slotTurns (Scenario.withSinks clients) t d (.event e) w)
    (hlive : s.found (passOf t d (.event e) w) = .live) :
    Arrives (Scenario.withSinks clients) t d e w
      ((handledTurns (Scenario.withSinks clients) t d (.event e) w).map (·.call t d (.event e)))
      s := by
  have hid := id_slotTurns hsound hdocument hroom (Scenario.withSinks_client hclients) hs
  have hsupports := Observer.supports_iff (s.world.observer s.entry.key) e
  have hsupported : s.isHandled (passOf t d (.event e) w) (.event e) = true ↔
      ¬ (e.kind = .bindToDocument ∧ (s.world.observer s.entry.key).hasBinding = false) := by
    simp only [SlotTurn.isHandled_iff, hlive, true_and, hsupports]
  have hcalls := SlotTurn.filter_calls (p := passOf t d (.event e) w) (t := t) (d := d)
    (n := .event e) (nodup_slotTurns (Scenario.withSinks clients) t d _ hsound) hs
  refine ⟨fun hlacks => ?_, fun hhas => ?_, fun hhas => ?_, fun k hsink => ?_,
    fun k hsink hspace => ?_⟩
  · rw [handledTurns, hcalls, if_neg fun h => hsupported.mp h hlacks]
  · rw [handledTurns, hcalls, if_pos (hsupported.mpr hhas)]
    exact ⟨_, rfl, rfl, rfl, hid, rfl⟩
  · exact s.after_of_isHandled (hsupported.mpr hhas)
  · rw [Observer.hasBinding_of_sink? hsink] at hsupports
    rw [SlotTurn.isUnsupported_iff, SlotTurn.isHandled_iff, ← Bool.not_eq_true, hsupports]
    simp [hlive]
  · refine ⟨_, SlotTurn.sink?_after hlive hsink, ?_⟩
    rw [hid, Sink.buffer_offer hspace]

/-- An event that a document raises, where observers are sinks or whatever clients can make them.
Both routes change the same, call the same handlers and fail alike. If the call runs a pass, which
it does unless it is refused or is to close a scope where none is open, then the event arrives at
each observer that the pass finds alive, and the call reports what became of each slot. -/
theorem events_arrive (hw : Reached w) (hclients : clients.Client)
    (hdocument : w.documents.contains d = true) (e : Event) :
    let handle := Scenario.withSinks clients
    let slots := slotTurns handle t d (.event e) w
    let outcome := notify handle t d e w
    Agree (raise handle t d e w) outcome ∧
    ((w.document d).dispatcher.isFull t = false →
      (∀ m, e = .endUpdate m → (w.scope (.document d)).depth ≠ 0) →
      (∀ r, outcome.1 = .ok (.ok r) →
        slots.map (·.entry.key) = w.keys (.document d) ∧
        r = SlotTurn.reportOf (passOf t d (.event e) w) (.event e) slots) ∧
      ∀ s ∈ slots, s.found (passOf t d (.event e) w) = .live →
        Arrives handle t d e w (Journal.ownCalls w.passes outcome.2.past) s) := by
  intro handle slots outcome
  refine ⟨raise_agree handle t d e w, fun hroom hopen => ?_⟩
  have hruns : RunsPass handle t d (.event e) w outcome := notify_runsPass hroom hopen
  have hhandle : handle.Client := Scenario.withSinks_client hclients
  refine ⟨fun r hr => ?_, fun s hs hlive => ?_⟩
  · obtain ⟨answers, hpassed⟩ := hruns.report r hr
    exact ⟨keys_slotTurns.2 ⟨_, hpassed⟩, (told_of_passed hpassed).1⟩
  · rw [hruns.calls, ownCalls_passed hw.sound hdocument hroom hhandle]
    exact arrives_of_live hw.sound hclients hdocument hroom hs hlive

end Notify

/-- Three observers: one without the handlers for bindings, a sink for all events, and a sink that
leaves bindings out. -/
def choosy : World :=
  (Session.runFrom 3 none .empty
    [.perform none (.createDocument "d" {}), .perform none (.createQuiet "a" false),
      .perform none (.register (.document (some "d")) "a"),
      .perform none (.createSink "k" {} (some (some "d"))),
      .perform none (.createSink "l" { filter := { Filter.all with bindings := false } }
        (some (some "d")))]).2

/-- The document raises a binding. -/
def choosyBinding : Except Unwind (Except NotifyError Report) × World :=
  Notify.notify (Scenario.respond 3) 0 "d" (.bindToDocument ⟨5⟩) choosy

theorem choosyBinding_eq :
    Notify.notify (Scenario.respond 3) 0 "d" (.bindToDocument ⟨5⟩) choosy = choosyBinding := rfl

/-- The slots of the document. -/
def choosySlots : List SlotTurn :=
  Notify.slotTurns (Scenario.respond 3) 0 "d" (.event (.bindToDocument ⟨5⟩)) choosy

theorem choosySlots_eq :
    Notify.slotTurns (Scenario.respond 3) 0 "d" (.event (.bindToDocument ⟨5⟩)) choosy =
      choosySlots := rfl

/-- The binding comes to the first sink only, which keeps it; the others count as unsupported. -/
theorem events_arrive_choosy :
    choosyBinding.1 = .ok (.ok ⟨1, 0, 0, 2⟩) ∧
    Notify.Agree (Notify.raise (Scenario.respond 3) 0 "d" (.bindToDocument ⟨5⟩) choosy)
      choosyBinding ∧
    choosySlots.map (·.entry.key) = ["a", "k", "l"] ∧
    ∃ s ∈ choosySlots, s.entry.key = "k" ∧
      Notify.Arrives (Scenario.respond 3) 0 "d" (.bindToDocument ⟨5⟩) choosy
        (Journal.ownCalls choosy.passes choosyBinding.2.past) s ∧
      ∃ k, ((s.after (Scenario.respond 3)
          (Notify.passOf 0 "d" (.event (.bindToDocument ⟨5⟩)) choosy) 0 "d"
          (.event (.bindToDocument ⟨5⟩))).observer s.entry.key).sink? = some k ∧
        k.buffer = [⟨(choosy.document "d").id, 0, .bindToDocument ⟨5⟩⟩] := by
  have hreached : Reached choosy := Session.runFrom_reached 3 none _ .start
  have hresult : choosyBinding.1 = .ok (.ok ⟨1, 0, 0, 2⟩) := by decide +kernel
  have hkeys : choosy.keys (.document "d") = ["a", "k", "l"] := by decide +kernel
  have hlive : ∀ s ∈ choosySlots,
      s.found (Notify.passOf 0 "d" (.event (.bindToDocument ⟨5⟩)) choosy) = .live := by
    decide +kernel
  have hsink : ∀ s ∈ choosySlots, s.entry.key = "k" →
      (s.world.observer s.entry.key).sink? = some (.new {}) := by
    decide +kernel
  obtain ⟨hagree, harrives⟩ := Notify.events_arrive (t := 0) hreached
    (Scenario.scripted_client (Scenario.respond_client 2))
    (by decide +kernel : choosy.documents.contains "d" = true) (.bindToDocument ⟨5⟩)
  have hhandle : Scenario.withSinks (Scenario.scripted (Scenario.respond 2)) =
    Scenario.respond 3 := rfl
  rw [hhandle, choosyBinding_eq] at hagree harrives
  rw [choosySlots_eq] at harrives
  obtain ⟨hreport, hall⟩ := harrives (by decide +kernel) (by simp)
  have hslots : choosySlots.map (·.entry.key) = ["a", "k", "l"] := (hreport _ hresult).1.trans hkeys
  have hmem : "k" ∈ choosySlots.map (·.entry.key) := by simp [hslots]
  obtain ⟨s, hs, hkey⟩ := List.mem_map.mp hmem
  have harrival := hall s hs (hlive s hs)
  obtain ⟨k, hk, hbuffer⟩ := harrival.kept _ (hsink s hs hkey) ⟨rfl, by decide⟩
  exact ⟨hresult, hagree, hslots, s, hs, hkey, harrival, k, hk, hbuffer⟩

end ChangeNotice
