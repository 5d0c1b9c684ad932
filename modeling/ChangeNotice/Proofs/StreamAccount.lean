import ChangeNotice.Proofs.StreamMoves

/-! # The accounts of all sinks

The journal of a world holds the deliveries to each sink and what was taken from its
stream, and the account of the sink balances with them, wherever clients get to.
-/

namespace ChangeNotice

open World Delivery

/-- As long as somebody can read, the journal knows how many events wait. -/
theorem Sink.Account.waiting_eq {config : SinkConfig} {sink : Name} {past : List Moment} {s : Sink}
    (h : s.Account config (Journal.deliveries config.filter sink past) (Journal.taken sink past))
    (hconnected : s.connected = true) :
    Journal.waiting config.filter sink past = s.buffer.length := by
  unfold Journal.waiting
  rw [← h.stream hconnected, List.length_append]
  exact Nat.add_sub_cancel_left ..

/-- The journal is right about the sink. -/
structure World.Streamed (sink : Name) (w : World) : Prop where
  unmade : (w.observer sink).sink? = none → ∀ m ∈ w.past, m.stream? ≠ some sink
  made : ∀ s, (w.observer sink).sink? = some s → ∃ config,
    (∀ c, .sinkMade sink c ∈ w.past ↔ c = config) ∧
      s.Account config (Journal.deliveries config.filter sink w.past)
        (Journal.taken sink w.past) ∧
      (s.connected = true → Journal.Throughout (Moment.Counted config sink) w.past)

namespace World.Streamed

variable {sink : Name} {w w' : World}

theorem empty (sink : Name) : World.empty.Streamed sink :=
  ⟨fun _ _ hm => absurd hm List.not_mem_nil, fun _ hsink => nomatch hsink⟩

/-- There is a sink, and the journal is right about it. -/
theorem of_sink {s : Sink} (hsink : (w.observer sink).sink? = some s)
    (h : ∃ config, (∀ c, .sinkMade sink c ∈ w.past ↔ c = config) ∧
      s.Account config (Journal.deliveries config.filter sink w.past) (Journal.taken sink w.past) ∧
      (s.connected = true → Journal.Throughout (Moment.Counted config sink) w.past)) :
    w.Streamed sink := by
  refine ⟨fun hnone => ?_, fun s' hs' => ?_⟩
  · rw [hsink] at hnone
    exact nomatch hnone
  · obtain rfl := Option.some.inj (hsink.symm.trans hs')
    exact h

theorem still (h : w.Streamed sink)
    (hsink : (w'.observer sink).sink? = (w.observer sink).sink?)
    (hquiet : w.Adds (fun m => m.stream? ≠ some sink) w') : w'.Streamed sink := by
  obtain ⟨news, hpast, hnews⟩ := hquiet
  refine ⟨?_, ?_⟩
  · intro hnone m hm
    rw [hpast] at hm
    rcases List.mem_append.mp hm with hm | hm
    · exact hnews m hm
    · exact h.unmade (hsink ▸ hnone) m hm
  · intro s hs
    obtain ⟨config, hmade, haccount, hcounted⟩ := h.made s (hsink ▸ hs)
    have hdelivery : ∀ m ∈ news, m.delivery? config.filter sink = none :=
      fun m hm => Moment.delivery?_of_stream? (hnews m hm) config.filter
    have htaken : ∀ m ∈ news, m.takenFrom sink = [] :=
      fun m hm => Moment.takenFrom_of_stream? (hnews m hm)
    refine ⟨config, fun c => ?_, ?_, fun hconnected => ?_⟩
    · rw [hpast, List.mem_append, ← hmade c]
      exact or_iff_right fun hmem => hnews _ hmem rfl
    · rw [hpast, Journal.deliveries_append hdelivery, Journal.taken_append htaken]
      exact haccount
    · rw [hpast]
      exact (hcounted hconnected).append fun m hm => Moment.counted_of_delivery? (hdelivery m hm)

theorem new {config : SinkConfig} (h : w.Streamed sink) (hnone : (w.observer sink).sink? = none)
    (hsink : (w'.observer sink).sink? = some (.new config))
    (hpast : w'.past = .sinkMade sink config :: w.past) : w'.Streamed sink := by
  -- nothing in the journal can be about a sink that did not exist
  have hfresh := h.unmade hnone
  have hdelivery : ∀ m ∈ w.past, m.delivery? config.filter sink = none :=
    fun m hm => Moment.delivery?_of_stream? (hfresh m hm) config.filter
  refine of_sink hsink ⟨config, fun c => ?_, ?_, fun _ => ?_⟩
  · rw [hpast, List.mem_cons]
    constructor
    · rintro (heq | hmem)
      · exact (Moment.sinkMade.inj heq).2
      · exact absurd rfl (hfresh _ hmem)
    · rintro rfl
      exact .inl rfl
  · have hdeliveries : Journal.deliveries config.filter sink w'.past = [] := by
      rw [hpast, Journal.deliveries_cons, ← List.append_nil w.past,
        Journal.deliveries_append hdelivery]
      rfl
    have htaken : Journal.taken sink w'.past = [] := by
      rw [hpast, Journal.taken_cons, ← List.append_nil w.past,
        Journal.taken_append fun m hm => Moment.takenFrom_of_stream? (hfresh m hm)]
      rfl
    rw [hdeliveries, htaken]
    exact .new config
  · rw [hpast]
    refine ⟨Moment.counted_of_delivery? rfl _, ?_⟩
    rw [← List.append_nil w.past]
    exact Journal.Throughout.append
      (fun m hm => Moment.counted_of_delivery? (hdelivery m hm)) trivial

/-- An event reaches the sink: its filter passes it over, or it is one more delivery. -/
theorem offered {s : Sink} {id : DocumentId} {e : Event} (h : w.Streamed sink)
    (hsink : (w.observer sink).sink? = some s)
    (hsink' : (w'.observer sink).sink? = some (s.offer id e).1)
    (hpast : w'.past =
      (s.offer id e).2.warning sink id ++ .offered sink id e (s.offer id e).2 :: w.past) :
    w'.Streamed sink := by
  obtain ⟨config, hmade, haccount, hcounted⟩ := h.made s hsink
  refine of_sink hsink' ⟨config, fun c => ?_, ?_, fun hconnected => ?_⟩
  · rw [hpast, List.mem_append, List.mem_cons, ← hmade c]
    constructor
    · rintro (hmem | heq | hmem)
      · obtain ⟨position, heq⟩ := Offered.mem_warning hmem
        exact nomatch heq
      · exact nomatch heq
      · exact hmem
    · exact fun hmem => .inr (.inr hmem)
  · rw [hpast, Journal.taken_offered, Journal.deliveries_offered]
    cases hkeeps : config.filter.keeps e.category with
    | false =>
        rw [Sink.offer_of_not_keeps (haccount.filter ▸ hkeeps), if_neg Bool.false_ne_true,
          List.append_nil]
        exact haccount
    | true => exact haccount.offer hkeeps id
  · rw [Sink.connected_offer] at hconnected
    rw [hpast]
    -- the warning that may follow is no delivery, so only the event itself is left to be judged
    refine Journal.Throughout.append
      (fun m hm => Moment.counted_of_delivery? ((Offered.silent_of_mem_warning hm).1 _))
      ⟨?_, hcounted hconnected⟩
    rintro id' e' outcome heq hkeeps
    obtain ⟨-, rfl, rfl, rfl⟩ := Moment.offered.inj heq
    rw [haccount.waiting_eq hconnected,
      Sink.outcome_of_connected (haccount.filter ▸ hkeeps) hconnected
        (haccount.capacity ▸ haccount.room), haccount.capacity, haccount.position]
    split
    · exact ⟨_, rfl⟩
    · rfl

theorem read {s : Sink} {events rest : List Recorded} (h : w.Streamed sink)
    (hsink : (w.observer sink).sink? = some s) (hbuffer : s.buffer = events ++ rest)
    (hsink' : (w'.observer sink).sink? = some { s with buffer := rest })
    (hpast : w'.past = .taken sink events :: w.past) : w'.Streamed sink := by
  obtain ⟨config, hmade, haccount, hcounted⟩ := h.made s hsink
  refine of_sink hsink' ⟨config, fun c => ?_, ?_, fun hconnected => ?_⟩
  · rw [hpast, List.mem_cons, ← hmade c]
    exact or_iff_right nofun
  · have htaken : Journal.taken sink w'.past = Journal.taken sink w.past ++ events := by
      rw [hpast, Journal.taken_cons, Moment.takenFrom, if_pos rfl]
    have hdeliveries : Journal.deliveries config.filter sink w'.past =
        Journal.deliveries config.filter sink w.past := by
      rw [hpast, Journal.deliveries_cons]
      exact List.append_nil _
    rw [htaken, hdeliveries]
    exact haccount.read hbuffer
  · rw [hpast]
    exact ⟨Moment.counted_of_delivery? rfl _, hcounted hconnected⟩

theorem closed {s : Sink} (h : w.Streamed sink) (hsink : (w.observer sink).sink? = some s)
    (hsink' : (w'.observer sink).sink? = some s.disconnect) (hpast : w'.past = w.past) :
    w'.Streamed sink := by
  obtain ⟨config, hmade, haccount, hcounted⟩ := h.made s hsink
  refine of_sink hsink' ?_
  rw [hpast]
  exact ⟨config, hmade, haccount.disconnect, fun hconnected =>
    absurd hconnected (by simp [Sink.disconnect])⟩

theorem move (h : w.Streamed sink) (hmove : StreamMove sink w w') : w'.Streamed sink := by
  cases hmove with
  | still hsink hquiet => exact h.still hsink hquiet
  | made config hnone hsink hpast => exact h.new hnone hsink hpast
  | offered s id e hsink hsink' hpast => exact h.offered hsink hsink' hpast
  | read s events rest hsink hbuffer hsink' hpast => exact h.read hsink hbuffer hsink' hpast
  | closed s hsink hsink' hpast => exact h.closed hsink hsink' hpast

end World.Streamed

/-- What an answer shows of a stream. -/
def Answer.Shows (events : List Recorded) : Answer → Prop
  | .recorded r => events = [r]
  | .drained rs => events = rs
  | .text t => t = String.join (events.map fun r => r.text ++ "\n")
  | _ => events = []

/-- The sink whose stream the operation takes events from. -/
def Operation.reads? : Operation → Option Name
  | .receive sink _ | .drain sink | .jsonLines sink => some sink
  | _ => none

/-- The books of the sink balance in this world. -/
structure World.Balanced (sink : Name) (config : SinkConfig) (w : World) (s : Sink) : Prop where
  /-- Every delivery was taken, waits or was dropped. -/
  total : (Journal.deliveries config.filter sink w.past).length =
    (Journal.taken sink w.past).length + s.buffer.length + s.dropped.toNat
  room : s.buffer.length ≤ max 1 config.bufferSize
  /-- What was taken, followed by what waits, is what was not dropped. -/
  order : Journal.taken sink w.past ++ s.buffer =
    enqueued (Journal.deliveries config.filter sink w.past)
  increasing : (positions (Journal.taken sink w.past ++ s.buffer)).Pairwise (· < ·)
  /-- The missing numbers are those of the dropped deliveries. -/
  gaps : ∀ n d, (Journal.deliveries config.filter sink w.past)[n]? = some d →
    (n ∉ positions (Journal.taken sink w.past ++ s.buffer) ↔ d.isLost = true)
  /-- A delivery was dropped, with its number, exactly if the stream was full at that moment. -/
  outcomes : ∀ later id e outcome earlier, w.past = later ++ .offered sink id e outcome :: earlier →
    config.filter.keeps e.category = true →
    if Journal.waiting config.filter sink earlier = max 1 config.bufferSize then ∃ warn,
      outcome = .lost (.ofNat (Journal.deliveries config.filter sink earlier).length) warn
    else outcome = .stored
  /-- So it is with the next one. -/
  next : ∀ depth t d e, config.filter.keeps e.category = true → ∃ u,
    Scenario.respond (depth + 1) t d sink (.event e) w = (.ok .proceed, u) ∧
      Journal.deliveries config.filter sink u.past =
        Journal.deliveries config.filter sink w.past ++ [⟨(w.document d).id, e,
          if s.buffer.length = max 1 config.bufferSize then
            .lost (.ofNat (Journal.deliveries config.filter sink w.past).length) (!s.overflowing)
          else .stored⟩]
  /-- What an operation takes is the oldest of what waits, and its answer shows it. -/
  reads : ∀ handle c operation, operation.reads? = some sink → ∃ answer events rest u,
    Scenario.perform handle c operation w = (.ok answer, u) ∧ answer.Shows events ∧
      s.buffer = events ++ rest ∧ (u.observer sink).sink? = some { s with buffer := rest } ∧
      Journal.taken sink u.past = Journal.taken sink w.past ++ events

section

variable {w : World} {sink : Name} {s : Sink} (hsink : (w.observer sink).sink? = some s)

include hsink

theorem role_of_sink? : (w.observer sink).role = .sink s := by
  unfold Observer.sink? at hsink
  split at hsink
  next k hrole => rw [hrole, Option.some.inj hsink]
  next => exact absurd hsink (by simp)

/-- The handler of a sink offers it the event. -/
theorem withSinks_of_sink? (clients : Handlers) (t : Thread) (d : Name) (e : Event) :
    Scenario.withSinks clients t d sink (.event e) w =
      (.ok .proceed, Scenario.offer sink (w.document d).id e w) := by
  rw [Scenario.withSinks_eq, Run.bind_apply, Run.read_apply]
  simp only [role_of_sink? hsink, Scenario.sinkHandlers_on]
  rfl

theorem onStream_of_sink? (hconnected : s.connected = true) (run : Sink → Run Answer) :
    Scenario.onStream sink run w = run s w := by
  unfold Scenario.onStream
  rw [Run.bind_apply, Run.read_apply]
  simp only [hsink, hconnected, if_true]

end

namespace Sink.Account

variable {w : World} {sink : Name} {s : Sink} {config : SinkConfig}

variable (h : s.Account config (Journal.deliveries config.filter sink w.past)
  (Journal.taken sink w.past)) (hsink : (w.observer sink).sink? = some s)

include h hsink

theorem next (hconnected : s.connected = true) {e : Event}
    (hkeeps : config.filter.keeps e.category = true) (id : DocumentId) :
    Journal.deliveries config.filter sink (Scenario.offer sink id e w).past =
      Journal.deliveries config.filter sink w.past ++ [⟨id, e,
        if s.buffer.length = max 1 config.bufferSize then
          .lost (.ofNat (Journal.deliveries config.filter sink w.past).length) (!s.overflowing)
        else .stored⟩] := by
  rw [past_offer hsink, Journal.deliveries_offered, if_pos hkeeps,
    Sink.outcome_of_connected (h.filter ▸ hkeeps) hconnected (h.capacity ▸ h.room), h.capacity,
    h.position, capacity_eq]

omit h in
/-- Whatever reads the stream takes the oldest events and shows them. -/
theorem reads (hconnected : s.connected = true) (handle : Handlers) (c : Context)
    {operation : Operation} (hreads : operation.reads? = some sink) :
    ∃ answer events rest, answer.Shows events ∧ s.buffer = events ++ rest ∧
      (Scenario.perform handle c operation w = (.ok answer, w) ∧ events = [] ∨
        Scenario.perform handle c operation w =
          (.ok answer, w.readStream sink { s with buffer := rest } events)) := by
  have hstream := onStream_of_sink? hsink hconnected
  unfold Operation.reads? at hreads
  split at hreads
  next x wait =>
    obtain rfl := Option.some.inj hreads
    rw [Scenario.perform, hstream]
    unfold Scenario.receive Sink.take?
    cases hbuffer : s.buffer with
    | nil =>
        have hempty : ∀ live, (Scenario.emptyAnswer live wait).Shows [] := by
          intro live
          cases wait <;> cases live <;> rfl
        exact ⟨_, [], [], hempty (w.isAlive x), rfl, .inl ⟨rfl, rfl⟩⟩
    | cons r rest => exact ⟨.recorded r, [r], rest, rfl, rfl, .inr rfl⟩
  next x =>
    obtain rfl := Option.some.inj hreads
    rw [Scenario.perform, hstream]
    exact ⟨.drained s.buffer, s.buffer, [], rfl, (List.append_nil _).symm, .inr rfl⟩
  next x =>
    obtain rfl := Option.some.inj hreads
    rw [Scenario.perform, hstream]
    exact ⟨.text s.jsonLines, s.buffer, [], rfl, (List.append_nil _).symm, .inr rfl⟩
  next => exact absurd hreads (by simp)

end Sink.Account

/-- The account of a sink balances wherever clients get to, as long as its stream is there. -/
theorem Reached.stream_balanced {w : World} (hw : Reached w) {sink : Name} {config : SinkConfig}
    (hmade : .sinkMade sink config ∈ w.past) :
    ∃ s, (w.observer sink).sink? = some s ∧
      (s.connected = true → (Journal.deliveries config.filter sink w.past).length < 2 ^ 64 →
        w.Balanced sink config s) := by
  obtain ⟨stack, hinside⟩ := hw.inside
  obtain ⟨-, -, hstreamed⟩ := hinside.upholds
    (I := fun _ w => ∀ sink, w.Streamed sink)
    (fun hoccurs hw sink => (hw sink).move (hoccurs.streamMove sink)) World.Streamed.empty
  cases hsink : (w.observer sink).sink? with
  | none => exact absurd rfl ((hstreamed sink).unmade hsink _ hmade)
  | some s =>
      refine ⟨s, rfl, fun hconnected hfew => ?_⟩
      obtain ⟨config', hunique, haccount, hcounted⟩ := (hstreamed sink).made s hsink
      obtain rfl := (hunique config).mp hmade
      have hstream := haccount.stream hconnected
      refine ⟨haccount.total hconnected hfew, ?_, hstream, ?_, ?_, ?_, ?_, ?_⟩
      · exact Sink.Account.capacity_eq config ▸ haccount.room
      · rw [hstream]
        exact pairwise_positions hfew.le
      · intro n d hd
        exact haccount.gaps hconnected hfew hd
      · intro later id e outcome earlier hpast hkeeps
        rw [← Sink.Account.capacity_eq]
        exact Journal.throughout_iff.mp (hcounted hconnected) later _ earlier hpast id e outcome rfl
          hkeeps
      · intro depth t d e hkeeps
        exact ⟨_, withSinks_of_sink? hsink _ t d e, haccount.next hsink hconnected hkeeps _⟩
      · intro handle c operation hreads
        obtain ⟨answer, events, rest, hshows, hbuffer, hran⟩ :=
          Sink.Account.reads hsink hconnected handle c hreads
        refine ⟨answer, events, rest, ?_⟩
        rcases hran with ⟨hran, rfl⟩ | hran
        · refine ⟨w, hran, hshows, hbuffer, ?_, (List.append_nil _).symm⟩
          rw [hsink, ← List.nil_append rest, ← hbuffer]
        · refine ⟨_, hran, hshows, hbuffer, ?_, ?_⟩
          · have hupdate := sink?_updateSink w sink sink fun _ => { s with buffer := rest }
            rw [if_pos rfl, hsink] at hupdate
            exact hupdate
          · rw [readStream, past_record, past_updateSink, Journal.taken_cons, Moment.takenFrom,
              if_pos rfl]

/-- A stream with one place: the first event is stored, the second is lost, the first is taken and
the third is stored. -/
def overfed : World :=
  (Session.runFrom 1 none .empty
    [.perform none (.createDocument "d" {}),
      .perform none (.createSink "k" { bufferSize := 0 } (some none)),
      .perform none (.raise none (.documentStatesChanged .empty)),
      .perform none (.raise none (.documentStatesChanged .empty)),
      .perform none (.receive "k" .never),
      .perform none (.raise none (.documentStatesChanged .empty))]).2

theorem stream_balanced_overfed :
    ∃ s, (overfed.observer "k").sink? = some s ∧ overfed.Balanced "k" { bufferSize := 0 } s ∧
      positions (Journal.taken "k" overfed.past ++ s.buffer) = [0, 2] := by
  have hreached : Reached overfed := Session.runFrom_reached 1 none _ .start
  have hmade : .sinkMade "k" { bufferSize := 0 } ∈ overfed.past := by decide +kernel
  obtain ⟨s, hsink, hbalanced⟩ := hreached.stream_balanced hmade
  have hconnected : (overfed.observer "k").sink?.map (·.connected) = some true := by
    decide +kernel
  rw [hsink] at hconnected
  have hbalance := hbalanced (Option.some.inj hconnected) (by decide +kernel)
  refine ⟨s, hsink, hbalance, ?_⟩
  rw [hbalance.order]
  decide +kernel

end ChangeNotice
