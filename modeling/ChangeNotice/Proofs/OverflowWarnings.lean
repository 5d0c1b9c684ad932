import ChangeNotice.Proofs.StreamAccount
import Mathlib.Data.List.SplitBy

/-! # Overflow is told once

A sink whose stream is full loses what is delivered to it. The first loss of a run of
losses is worth a warning, which names the document and the number of the delivery; the
others of the run are not, and what is read from the stream makes no difference. So there
are as many warnings as there are runs of losses. Once nobody can read any more,
everything is lost and nothing is worth a warning.
-/

namespace ChangeNotice

open World

/-! ## Runs of losses -/

/-- Where the last element goes with the next one, the last group does. -/
theorem splitBy_concat {α : Type} {r : α → α → Bool} {l g : List α} {groups : List (List α)} {x : α}
    (h : l.splitBy r = groups ++ [g]) (hx : ∀ a ∈ l.getLast?, r a x = true) :
    (l ++ [x]).splitBy r = groups ++ [g ++ [x]] := by
  obtain ⟨hflatten, hnil, hchain, hbreaks⟩ := List.splitBy_eq_iff.mp h
  rw [List.isChain_append] at hbreaks
  obtain ⟨hgroups, -, hbreak⟩ := hbreaks
  have hg : g ≠ [] := by
    rintro rfl
    simp at hnil
  rw [List.splitBy_eq_iff]
  refine ⟨by simp [hflatten], ?_, ?_, ?_⟩
  · simp only [List.mem_append, List.mem_singleton, not_or] at hnil ⊢
    exact ⟨hnil.1, by simp⟩
  · intro m hm
    rcases List.mem_append.mp hm with hm | hm
    · exact hchain m (List.mem_append_left _ hm)
    · rw [List.mem_singleton.mp hm, List.isChain_append]
      refine ⟨hchain g (by simp), List.isChain_singleton x, ?_⟩
      intro a ha b hb
      obtain rfl : x = b := by simpa using hb
      apply hx
      rw [hflatten]
      simpa [List.getLast?_append, Option.mem_def] using .inl ha
  · rw [List.isChain_append]
    refine ⟨hgroups, List.isChain_singleton _, ?_⟩
    intro m hm b hb
    obtain rfl : g ++ [x] = b := by simpa using hb
    obtain ⟨hm', hg', hdiffer⟩ := hbreak m hm g (by simp)
    exact ⟨hm', by simp, by rwa [List.head_append_of_ne_nil]⟩

namespace Delivery

/-- The last of these deliveries is lost. -/
def lastLost (ds : List Delivery) : Bool := ds.getLast?.any isLost

/-- The deliveries in groups that are as large as possible, such that of one group all are lost or
none. -/
def groups (ds : List Delivery) : List (List Delivery) :=
  ds.splitBy fun d d' => d.isLost == d'.isLost

/-- How many runs of losses there are. -/
def lossRuns (ds : List Delivery) : Nat := (groups ds).countP (·.all isLost)

/-- The warning that a delivery is worth after these. -/
def warning (sink : Name) (ds : List Delivery) (d : Delivery) : List Moment :=
  if d.isLost && !lastLost ds then [.sinkFull sink d.document (.ofNat ds.length)] else []

variable {ds : List Delivery} {d : Delivery}

theorem lastLost_concat : lastLost (ds ++ [d]) = d.isLost := by simp [lastLost]

/-- A delivery that is lost or not like the one before it goes with the last group, which is a run
of losses afterwards if it was one before. -/
theorem lossRuns_of_like {last : Delivery} (hlast : last ∈ ds.getLast?)
    (hlike : last.isLost = d.isLost) : lossRuns (ds ++ [d]) = lossRuns ds := by
  have hrelated : ∀ a ∈ ds.getLast?, (a.isLost == d.isLost) = true := by
    intro a ha
    obtain rfl := Option.mem_unique ha hlast
    exact beq_iff_eq.mpr hlike
  obtain ⟨before, g, hgroups⟩ : ∃ before g, groups ds = before ++ [g] := by
    rcases List.eq_nil_or_concat' (groups ds) with hnil | hconcat
    · rw [List.splitBy_eq_nil.mp hnil] at hlast
      exact nomatch hlast
    · exact hconcat
  have hmem : last ∈ g := by
    obtain ⟨hflatten, hnil, -⟩ := List.splitBy_eq_iff.mp hgroups
    have hg : g ≠ [] := by
      rintro rfl
      simp at hnil
    rw [hflatten, List.flatten_append,
      List.getLast?_append_of_ne_nil _ (by simpa using hg)] at hlast
    simpa using List.mem_of_getLast? hlast
  rw [lossRuns, lossRuns, groups, splitBy_concat hgroups hrelated, hgroups, List.countP_append,
    List.countP_append, List.countP_singleton, List.countP_singleton, List.all_append]
  cases hlost : d.isLost with
  | true => simp [hlost]
  | false =>
      have hnot : g.all isLost = false := by
        rw [List.all_eq_false]
        exact ⟨last, hmem, by simp [hlike, hlost]⟩
      rw [hnot, Bool.false_and]

/-- A run of losses begins with a loss that comes first or after a delivery that is not lost. -/
theorem lossRuns_concat :
    lossRuns (ds ++ [d]) = lossRuns ds + if d.isLost && !lastLost ds then 1 else 0 := by
  have hone : groups [d] = [[d]] :=
    List.splitBy_of_isChain (List.cons_ne_nil _ _) (List.isChain_singleton d)
  cases hlast : ds.getLast? with
  | none =>
      obtain rfl := List.getLast?_eq_none_iff.mp hlast
      rw [List.nil_append, lossRuns, hone, List.countP_singleton]
      simp [lossRuns, groups, lastLost]
  | some last =>
      have hlost : lastLost ds = last.isLost := by rw [lastLost, hlast, Option.any_some]
      by_cases hlike : last.isLost = d.isLost
      · rw [lossRuns_of_like hlast hlike, hlost, hlike, Bool.and_not_self]
        rfl
      · have hsplit : groups (ds ++ [d]) = groups ds ++ groups [d] := by
          apply List.splitBy_append_cons
          simpa [hlast] using hlike
        rw [lossRuns, hsplit, hone, List.countP_append, List.countP_singleton, hlost]
        cases hd : d.isLost <;> simp_all [lossRuns]

end Delivery

open Delivery

/-! ## Warnings in the journal -/

namespace Moment

/-- The moment is a warning that the stream of the sink is full. -/
def warnsOf (sink : Name) : Moment → Bool
  | sinkFull o _ _ => o = sink
  | _ => false

/-- The moment is a delivery to the sink or a warning. -/
def concernsStream (filter : Filter) (sink : Name) (m : Moment) : Bool :=
  (m.delivery? filter sink).isSome || m.warnsOf sink

variable {filter : Filter} {sink : Name} {m : Moment}

theorem warnsOf_of_stream? (h : m.stream? ≠ some sink) : m.warnsOf sink = false := by
  cases m with
  | sinkFull o id position => exact decide_eq_false fun heq => h (congrArg some heq)
  | _ => rfl

theorem concernsStream_of_stream? (h : m.stream? ≠ some sink) :
    m.concernsStream filter sink = false := by
  rw [concernsStream, delivery?_of_stream? h, warnsOf_of_stream? h]
  rfl

theorem delivery?_of_not_concernsStream (h : m.concernsStream filter sink = false) :
    m.delivery? filter sink = none := by
  rw [concernsStream, Bool.or_eq_false_iff] at h
  simpa using h.1

theorem not_warnsOf_of_delivery? {d : Delivery} (h : m.delivery? filter sink = some d) :
    m.warnsOf sink = false := by
  cases m with
  | sinkFull o id position => exact nomatch h
  | _ => rfl

end Moment

theorem Delivery.warnsOf_of_mem_warning {sink : Name} {ds : List Delivery} {d : Delivery}
    {m : Moment} (h : m ∈ warning sink ds d) : m.warnsOf sink = true := by
  unfold warning at h
  split at h
  · rw [List.mem_singleton.mp h]
    exact decide_eq_true rfl
  · exact absurd h List.not_mem_nil

namespace Journal

/-- All deliveries to the sink, each with the warning that it is worth after those before it. -/
def streamLog (filter : Filter) (sink : Name) : List Moment → List Moment
  | [] => []
  | m :: past =>
    match m.delivery? filter sink with
    | some d => d.warning sink (deliveries filter sink past) ++ m :: streamLog filter sink past
    | none => streamLog filter sink past

variable {filter : Filter} {sink : Name} {m : Moment} {news past : List Moment}

theorem streamLog_cons {d : Delivery} (h : m.delivery? filter sink = some d) :
    streamLog filter sink (m :: past) =
      d.warning sink (deliveries filter sink past) ++ m :: streamLog filter sink past := by
  rw [streamLog, h]

theorem streamLog_append (h : ∀ m ∈ news, m.delivery? filter sink = none) :
    streamLog filter sink (news ++ past) = streamLog filter sink past := by
  induction news with
  | nil => rfl
  | cons m news ih =>
      obtain ⟨hm, hnews⟩ := List.forall_mem_cons.mp h
      rw [List.cons_append, streamLog, hm]
      exact ih hnews

/-- The log has as many warnings as there are runs of losses. -/
theorem countP_streamLog (filter : Filter) (sink : Name) (past : List Moment) :
    (streamLog filter sink past).countP (·.warnsOf sink) =
      lossRuns (deliveries filter sink past) := by
  induction past with
  | nil => rfl
  | cons m past ih =>
      rw [deliveries_cons]
      cases hd : m.delivery? filter sink with
      | none =>
          rw [streamLog, hd]
          exact ih.trans (congrArg lossRuns (List.append_nil _).symm)
      | some d =>
          rw [streamLog_cons hd, Option.toList_some, lossRuns_concat, List.countP_append,
            List.countP_cons_of_neg (by simp [Moment.not_warnsOf_of_delivery? hd]), ih,
            Nat.add_comm]
          unfold warning
          split <;> simp [Moment.warnsOf]

/-- If the journal tells of the sink what the log does, then it has as many warnings. -/
theorem countP_warnsOf
    (h : past.filter (·.concernsStream filter sink) = streamLog filter sink past) :
    past.countP (·.warnsOf sink) = lossRuns (deliveries filter sink past) := by
  rw [← countP_streamLog, ← h, List.countP_filter]
  congr 1
  funext m
  rw [Moment.concernsStream]
  cases m.warnsOf sink <;> simp

end Journal

/-! ## The flag of a sink -/

/-- A sink with a reader raises its flag with every loss, and lowers it with every event that it
stores; a loss that finds the flag raised is worth no warning. -/
theorem Sink.offer_flag {s : Sink} {e : Event} (hkeeps : s.filter.keeps e.category = true)
    (hconnected : s.connected = true) (sink : Name) (id : DocumentId) :
    let d : Delivery := ⟨id, e, (s.offer id e).2⟩
    (s.offer id e).1.overflowing = d.isLost ∧
    (s.offer id e).2.warning sink id =
      if d.isLost && !s.overflowing then [.sinkFull sink id s.position] else [] := by
  unfold Sink.offer
  rw [hkeeps, hconnected]
  by_cases hroom : s.buffer.length < s.capacity
  · simp [hroom, isLost, Offered.warning]
  · cases hflag : s.overflowing <;> simp [hroom, isLost, Offered.warning]

/-- The flag of the sink says whether the last delivery was lost, and the journal has the warnings
that the deliveries were worth. -/
structure Sink.Warned (filter : Filter) (sink : Name) (past : List Moment) (s : Sink) : Prop where
  flag : s.overflowing = lastLost (Journal.deliveries filter sink past)
  log : past.filter (·.concernsStream filter sink) = Journal.streamLog filter sink past

namespace Sink.Warned

variable {filter : Filter} {sink : Name} {past news : List Moment} {s : Sink}

theorem quiet (h : s.Warned filter sink past)
    (hnews : ∀ m ∈ news, m.concernsStream filter sink = false) :
    s.Warned filter sink (news ++ past) := by
  have hdelivery : ∀ m ∈ news, m.delivery? filter sink = none :=
    fun m hm => Moment.delivery?_of_not_concernsStream (hnews m hm)
  have hnone : news.filter (·.concernsStream filter sink) = [] :=
    List.filter_eq_nil_iff.mpr fun m hm => by simp [hnews m hm]
  refine ⟨?_, ?_⟩
  · rw [Journal.deliveries_append hdelivery, h.flag]
  · rw [List.filter_append, hnone, List.nil_append, Journal.streamLog_append hdelivery, h.log]

theorem new {config : SinkConfig}
    (hpast : ∀ m ∈ past, m.concernsStream filter sink = false) :
    (Sink.new config).Warned filter sink past := by
  have hempty : (Sink.new config).Warned filter sink [] := ⟨rfl, rfl⟩
  simpa using hempty.quiet hpast

/-- A sink with a reader is offered an event: only the first loss of a run is worth a warning. -/
theorem offer (h : s.Warned filter sink past) (hfilter : s.filter = filter)
    (hconnected : s.connected = true)
    (hposition : s.position = .ofNat (Journal.deliveries filter sink past).length)
    (id : DocumentId) (e : Event) :
    (s.offer id e).1.Warned filter sink
      ((s.offer id e).2.warning sink id ++ .offered sink id e (s.offer id e).2 :: past) := by
  cases hkeeps : filter.keeps e.category with
  | false =>
      have hpassed : ∀ m ∈ [Moment.offered sink id e .filtered],
          m.concernsStream filter sink = false := by
        simp [Moment.concernsStream, Moment.delivery?, Moment.warnsOf, hkeeps]
      rw [offer_of_not_keeps (hfilter ▸ hkeeps)]
      exact h.quiet hpassed
  | true =>
      obtain ⟨hflag, hwarning⟩ := offer_flag (hfilter ▸ hkeeps) hconnected sink id
      set outcome := (s.offer id e).2
      have hdelivery : (Moment.offered sink id e outcome).delivery? filter sink =
          some ⟨id, e, outcome⟩ := by
        simp [Moment.delivery?, hkeeps]
      have hconcerns : (Moment.offered sink id e outcome).concernsStream filter sink = true := by
        rw [Moment.concernsStream, hdelivery]
        rfl
      rw [h.flag, hposition] at hwarning
      refine ⟨?_, ?_⟩
      · rw [Journal.deliveries_offered, if_pos hkeeps, lastLost_concat, hflag]
      · -- a warning is no delivery, so the log goes on from the delivery that it follows
        have hsilent := fun m (hm : m ∈ outcome.warning sink id) =>
          (Offered.silent_of_mem_warning hm).1 filter
        rw [Journal.streamLog_append hsilent, Journal.streamLog_cons hdelivery, List.filter_append,
          List.filter_cons_of_pos hconcerns, h.log, hwarning]
        congr 1
        apply List.filter_eq_self.mpr
        intro m hm
        rw [Moment.concernsStream, warnsOf_of_mem_warning hm, Bool.or_true]

end Sink.Warned

/-- As long as somebody can read, the sink has warned as its deliveries were worth. -/
def World.Warned (sink : Name) (w : World) : Prop :=
  ∀ s config, (w.observer sink).sink? = some s → .sinkMade sink config ∈ w.past →
    s.connected = true → s.Warned config.filter sink w.past

theorem World.Warned.move {sink : Name} {w w' : World} (h : w.Warned sink)
    (hstreamed : w.Streamed sink) (hmove : StreamMove sink w w') : w'.Warned sink := by
  intro k config hk hmade hconnected
  cases hmove with
  | still hsink hquiet =>
      obtain ⟨news, hpast, hnews⟩ := hquiet
      rw [hpast] at hmade ⊢
      have hbefore : .sinkMade sink config ∈ w.past :=
        (List.mem_append.mp hmade).resolve_left fun hmem => hnews _ hmem rfl
      apply (h k config (hsink ▸ hk) hbefore hconnected).quiet
      exact fun m hm => Moment.concernsStream_of_stream? (hnews m hm)
  | made config' hnone hsink hpast =>
      obtain rfl := Option.some.inj (hsink.symm.trans hk)
      apply Sink.Warned.new
      rw [hpast]
      refine List.forall_mem_cons.mpr ⟨rfl, fun m hm => ?_⟩
      exact Moment.concernsStream_of_stream? (hstreamed.unmade hnone m hm)
  | offered s id e hsink hsink' hpast =>
      obtain rfl := Option.some.inj (hsink'.symm.trans hk)
      rw [Sink.connected_offer] at hconnected
      rw [hpast] at hmade ⊢
      have hbefore : .sinkMade sink config ∈ w.past := by
        rcases List.mem_append.mp hmade with hmem | hmem
        · obtain ⟨position, heq⟩ := Offered.mem_warning hmem
          exact nomatch heq
        · exact (List.mem_cons.mp hmem).resolve_left nofun
      obtain ⟨config', hunique, haccount, -⟩ := hstreamed.made s hsink
      obtain rfl := (hunique config).mp hbefore
      exact (h s config hsink hbefore hconnected).offer haccount.filter hconnected
        haccount.position id e
  | read s events rest hsink hbuffer hsink' hpast =>
      -- a reader makes room, but leaves the flag as it is
      obtain rfl := Option.some.inj (hsink'.symm.trans hk)
      rw [hpast] at hmade ⊢
      have hbefore : .sinkMade sink config ∈ w.past := (List.mem_cons.mp hmade).resolve_left nofun
      obtain ⟨hflag, hlog⟩ := h s config hsink hbefore hconnected
      have hread : ∀ m ∈ [Moment.taken sink events], m.concernsStream config.filter sink = false :=
        List.forall_mem_singleton.mpr rfl
      have hkept : { s with buffer := rest }.Warned config.filter sink w.past := ⟨hflag, hlog⟩
      exact hkept.quiet hread
  | closed s hsink hsink' hpast =>
      obtain rfl := Option.some.inj (hsink'.symm.trans hk)
      exact nomatch hconnected

/-! ## Without a reader -/

/-- From the first world to the second nobody can read the stream of the sink. Everything that was
delivered is lost and counted, and there is no warning. -/
structure World.Muted (filter : Filter) (sink : Name) (w v : World) (s s' : Sink)
    (news : List Moment) : Prop where
  state : (v.observer sink).sink? = some s'
  sorts : s'.filter = filter
  gone : s'.connected = false
  past : v.past = news ++ w.past
  silent : ∀ m ∈ news, m.warnsOf sink = false
  lost : ∀ d ∈ Journal.deliveries filter sink news, d.isLost = true
  dropped : s'.dropped = s.dropped + .ofNat (Journal.deliveries filter sink news).length

namespace World.Muted

variable {filter : Filter} {sink : Name} {w v v' : World} {s k k' : Sink} {news more : List Moment}

theorem refl (hsink : (w.observer sink).sink? = some s) (hfilter : s.filter = filter)
    (hgone : s.connected = false) : Muted filter sink w w s s [] :=
  ⟨hsink, hfilter, hgone, rfl, by simp, by simp [Journal.deliveries], by simp [Journal.deliveries]⟩

/-- Nothing is delivered. -/
theorem quiet (h : Muted filter sink w v s k news)
    (hsink : (v'.observer sink).sink? = some k') (hfilter : k'.filter = k.filter)
    (hgone : k'.connected = false) (hdropped : k'.dropped = k.dropped)
    (hpast : v'.past = more ++ v.past) (hmore : ∀ m ∈ more, m.concernsStream filter sink = false) :
    Muted filter sink w v' s k' (more ++ news) := by
  have hdeliveries : Journal.deliveries filter sink (more ++ news) =
      Journal.deliveries filter sink news :=
    Journal.deliveries_append fun m hm => Moment.delivery?_of_not_concernsStream (hmore m hm)
  refine ⟨hsink, hfilter.trans h.sorts, hgone, ?_, ?_, ?_, ?_⟩
  · rw [hpast, h.past, List.append_assoc]
  · intro m hm
    rcases List.mem_append.mp hm with hm | hm
    · exact (Bool.or_eq_false_iff.mp (hmore m hm)).2
    · exact h.silent m hm
  · rw [hdeliveries]
    exact h.lost
  · rw [hdropped, hdeliveries, h.dropped]

/-- An event that the filter lets through is lost, which is counted and worth no warning. -/
theorem offer (h : Muted filter sink w v s k news) {id : DocumentId} {e : Event}
    (hkeeps : filter.keeps e.category = true)
    (hsink : (v'.observer sink).sink? = some (k.offer id e).1)
    (hpast : v'.past =
      (k.offer id e).2.warning sink id ++ .offered sink id e (k.offer id e).2 :: v.past) :
    ∃ k' more, Muted filter sink w v' s k' more := by
  have hoffer : k.offer id e = ({ k with position := k.position + 1, dropped := k.dropped + 1 },
      .lost k.position false) := by
    simp [Sink.offer, h.sorts, hkeeps, h.gone]
  rw [hoffer] at hsink hpast
  have hdeliveries : Journal.deliveries filter sink
      (.offered sink id e (.lost k.position false) :: news) =
        Journal.deliveries filter sink news ++ [⟨id, e, .lost k.position false⟩] := by
    rw [Journal.deliveries_cons, Moment.delivery?, hkeeps]
    simp
  refine ⟨_, .offered sink id e (.lost k.position false) :: news, hsink, h.sorts, h.gone, ?_, ?_,
    ?_, ?_⟩
  · rw [hpast, h.past]
    rfl
  · exact List.forall_mem_cons.mpr ⟨rfl, h.silent⟩
  · rw [hdeliveries]
    intro d hd
    rcases List.mem_append.mp hd with hd | hd
    · exact h.lost d hd
    · rw [List.mem_singleton.mp hd]
      rfl
  · rw [hdeliveries, List.length_append, UInt64.ofNat_add, ← UInt64.add_assoc, ← h.dropped]
    rfl

theorem move (h : Muted filter sink w v s k news) (hmove : StreamMove sink v v') :
    ∃ k' more, Muted filter sink w v' s k' more := by
  cases hmove with
  | still hsink hquiet =>
      obtain ⟨more, hpast, hmore⟩ := hquiet
      refine ⟨k, _, h.quiet (hsink.trans h.state) rfl h.gone rfl hpast fun m hm => ?_⟩
      exact Moment.concernsStream_of_stream? (hmore m hm)
  | made config hnone hsink hpast =>
      -- a name stands for one sink, which is there already
      rw [h.state] at hnone
      exact nomatch hnone
  | offered s₁ id e hsink hsink' hpast =>
      obtain rfl := Option.some.inj (hsink.symm.trans h.state)
      cases hkeeps : filter.keeps e.category with
      | true => exact h.offer hkeeps hsink' hpast
      | false =>
          rw [Sink.offer_of_not_keeps (h.sorts ▸ hkeeps)] at hsink' hpast
          have hone : v'.past = [.offered sink id e .filtered] ++ v.past := hpast
          refine ⟨_, _, h.quiet hsink' rfl h.gone rfl hone ?_⟩
          simp [Moment.concernsStream, Moment.delivery?, Moment.warnsOf, hkeeps]
  | read s₁ events rest hsink hbuffer hsink' hpast =>
      obtain rfl := Option.some.inj (hsink.symm.trans h.state)
      have hone : v'.past = [.taken sink events] ++ v.past := hpast
      exact ⟨_, _, h.quiet hsink' rfl h.gone rfl hone (List.forall_mem_singleton.mpr rfl)⟩
  | closed s₁ hsink hsink' hpast =>
      obtain rfl := Option.some.inj (hsink.symm.trans h.state)
      have hnone : v'.past = [] ++ v.past := hpast
      exact ⟨_, _, h.quiet hsink' rfl rfl rfl hnone (by simp)⟩

end World.Muted

/-- A client gets from the first world to the second, outside of handlers or inside. -/
inductive World.Later (w : World) : World → Prop
  | refl : w.Later w
  | run {α : Type} {v : World} (hv : w.Later v) {m : Run α} (hm : Client m) : w.Later (m v).2
  | handler {v u : World} (hv : w.Later v) {handle : Handlers} (hhandle : handle.Client)
      {c : Context} {operation : Operation} {t : Thread} {d o : Name} {n : Notice}
      (hcall : Consults (fun handle => Scenario.perform handle c operation) handle v t d o n u) :
      w.Later u

/-- What every occurrence keeps holds from then on. -/
theorem World.Later.upholds {I : List Activity → World → Prop} (hI : Occurrence.Keep I)
    {s : List Activity} {w v : World} (h : w.Later v) (hw : I s w) : ∃ s', I s' v := by
  induction h with
  | refl => exact ⟨s, hw⟩
  | run _ hm ih =>
      obtain ⟨s', hkept⟩ := ih
      exact ⟨s', (hm.upholds hI hkept).kept⟩
  | handler _ hhandle hcall ih =>
      obtain ⟨s', hkept⟩ := ih
      obtain ⟨base, -, hcalled⟩ := hcall.begins hI hhandle hkept
      exact ⟨_, hcalled.kept hI⟩

/-! ## Warnings -/

variable {w : World} {sink : Name} {config : SinkConfig}

/-- The journal is right about all sinks and has their warnings, wherever clients get to. -/
theorem Reached.streams (hw : Reached w) (sink : Name) : w.Streamed sink ∧ w.Warned sink := by
  obtain ⟨stack, hinside⟩ := hw.inside
  obtain ⟨-, -, hstreams⟩ := hinside.upholds
    (I := fun _ w => w.Streamed sink ∧ w.Warned sink)
    (fun hoccurs hw => ⟨hw.1.move (hoccurs.streamMove sink),
      hw.2.move hw.1 (hoccurs.streamMove sink)⟩)
    ⟨.empty sink, fun s config hsink => nomatch hsink⟩
  exact hstreams

/-- As long as somebody can read the stream of a sink, the journal has a warning right after a lost
delivery exactly if the delivery before it was not lost or there was none, and the warning names the
document and the number of the lost one. So there are as many warnings as there are runs of losses,
and reading the stream adds none. When nobody can read any more, whatever clients do from then on,
each delivery is lost and counted, and there is no warning. -/
theorem Reached.overflow_warned (hw : Reached w) (hmade : .sinkMade sink config ∈ w.past) :
    ∃ s, (w.observer sink).sink? = some s ∧
      (s.connected = true →
        w.past.filter (·.concernsStream config.filter sink) =
          Journal.streamLog config.filter sink w.past ∧
        w.past.countP (·.warnsOf sink) =
          lossRuns (Journal.deliveries config.filter sink w.past) ∧
        ∀ handle c operation, operation.reads? = some sink →
          (Scenario.perform handle c operation w).2.past.filter
              (·.concernsStream config.filter sink) =
            w.past.filter (·.concernsStream config.filter sink)) ∧
      (s.connected = false → ∀ v, w.Later v →
        ∃ s' news, World.Muted config.filter sink w v s s' news) := by
  obtain ⟨hstreamed, hwarned⟩ := hw.streams sink
  cases hsink : (w.observer sink).sink? with
  | none => exact absurd rfl (hstreamed.unmade hsink _ hmade)
  | some s =>
      obtain ⟨config', hunique, haccount, -⟩ := hstreamed.made s hsink
      obtain rfl := (hunique config).mp hmade
      refine ⟨s, rfl, fun hconnected => ?_, fun hgone v hv => ?_⟩
      · have hlog := (hwarned s config hsink hmade hconnected).log
        refine ⟨hlog, Journal.countP_warnsOf hlog, fun handle c operation hreads => ?_⟩
        obtain ⟨answer, events, rest, -, -, hran⟩ :=
          Sink.Account.reads hsink hconnected handle c hreads
        rcases hran with ⟨hran, -⟩ | hran
        · rw [hran]
        · rw [hran, readStream, past_record, past_updateSink]
          exact List.filter_cons_of_neg Bool.false_ne_true
      · have hstart : World.Muted config.filter sink w w s s [] :=
          .refl hsink haccount.filter hgone
        have hkeep : Occurrence.Keep fun _ v =>
            ∃ s' news, World.Muted config.filter sink w v s s' news := by
          rintro _ _ _ _ hoccurs ⟨s', news, hmuted⟩
          exact hmuted.move (hoccurs.streamMove sink)
        obtain ⟨-, hmuted⟩ := hv.upholds hkeep (s := []) ⟨s, [], hstart⟩
        exact hmuted

/-- A stream with one place. Three events come, of which two are lost; one is read, and two more
events come, of which one is lost. -/
def flooded : World :=
  (Session.runFrom 1 none .empty
    [.perform none (.createDocument "d" {}),
      .perform none (.createSink "k" { bufferSize := 1 } (some none)),
      .iterate none 3 [.perform none (.raise none .beginLoad)],
      .perform none (.receive "k" .never),
      .iterate none 2 [.perform none (.raise none .endLoad)]]).2

/-- The stream is given up. -/
def floodedAlone : World := (Scenario.perform (Scenario.respond 1) .top (.dropStream "k") flooded).2

/-- One more event comes. -/
def floodedAgain : World :=
  (Scenario.perform (Scenario.respond 1) .top (.raise none .beginLoad) floodedAlone).2

theorem overflow_warned_flooded :
    flooded.past.filter (·.concernsStream .all "k") =
      [.sinkFull "k" ⟨1⟩ 4, .offered "k" ⟨1⟩ .endLoad (.lost 4 true),
        .offered "k" ⟨1⟩ .endLoad .stored, .offered "k" ⟨1⟩ .beginLoad (.lost 2 false),
        .sinkFull "k" ⟨1⟩ 1, .offered "k" ⟨1⟩ .beginLoad (.lost 1 true),
        .offered "k" ⟨1⟩ .beginLoad .stored] ∧
    flooded.past.countP (·.warnsOf "k") = 2 ∧
    ∃ s s' news, World.Muted .all "k" floodedAlone floodedAgain s s' news ∧ s.dropped = 3 ∧
      s'.dropped = 4 := by
  have hreached : Reached flooded := Session.runFrom_reached 1 none _ .start
  have halone : Reached floodedAlone := hreached.run (.perform (Scenario.respond_client 1) _ _)
  have hlater : floodedAlone.Later floodedAgain :=
    .run .refl (.perform (Scenario.respond_client 1) _ _)
  have hconnected : (flooded.observer "k").sink?.map (·.connected) = some true := by decide +kernel
  have hgone : (floodedAlone.observer "k").sink?.map (fun s => (s.connected, s.dropped)) =
      some (false, 3) := by
    decide +kernel
  have hdropped : (floodedAgain.observer "k").sink?.map (·.dropped) = some 4 := by decide +kernel
  obtain ⟨s, hsink, hwarned, -⟩ :=
    hreached.overflow_warned (by decide +kernel : .sinkMade "k" { bufferSize := 1 } ∈ flooded.past)
  rw [hsink] at hconnected
  obtain ⟨hlog, hcount, -⟩ := hwarned (Option.some.inj hconnected)
  obtain ⟨k, hk, -, hmuted⟩ := halone.overflow_warned
    (by decide +kernel : .sinkMade "k" { bufferSize := 1 } ∈ floodedAlone.past)
  rw [hk, Option.map_some, Option.some.injEq, Prod.mk.injEq] at hgone
  obtain ⟨k', news, hlast⟩ := hmuted hgone.1 floodedAgain hlater
  rw [hlast.state] at hdropped
  refine ⟨hlog.trans ?_, hcount.trans ?_, k, k', news, hlast, hgone.2, Option.some.inj hdropped⟩
  · decide +kernel
  · decide +kernel

end ChangeNotice
