import ChangeNotice.Proofs.Inside
import ChangeNotice.Proofs.SinkAccount

/-! # What happens to streams

All that happens to a sink in a world is that it is made, is offered an event, is read or
loses its reader. The journal keeps the deliveries and what was taken.
-/

namespace ChangeNotice

open World Delivery

/-! ## Reading the journal -/

namespace Moment

/-- The sink that the moment tells of. -/
def stream? : Moment → Option Name
  | sinkMade o _ | offered o _ _ _ | sinkFull o _ _ | taken o _ => some o
  | _ => none

def delivery? (filter : Filter) (sink : Name) : Moment → Option Delivery
  | offered o id e outcome =>
    if o = sink && filter.keeps e.category then some ⟨id, e, outcome⟩ else none
  | _ => none

def takenFrom (sink : Name) : Moment → List Recorded
  | taken o events => if o = sink then events else []
  | _ => []

variable {sink : Name} {m : Moment}

theorem stream?_of_not_isNotable (h : m.isNotable = false) : m.stream? = none := by
  cases m <;> first | rfl | exact absurd h (by simp [isNotable])

theorem delivery?_of_stream? (h : m.stream? ≠ some sink) (filter : Filter) :
    m.delivery? filter sink = none := by
  unfold delivery?
  split
  next o id e outcome =>
    have hne : o ≠ sink := fun heq => h (congrArg some heq)
    simp [hne]
  next => rfl

theorem takenFrom_of_stream? (h : m.stream? ≠ some sink) : m.takenFrom sink = [] := by
  unfold takenFrom
  split
  · exact if_neg fun heq => h (congrArg some heq)
  · rfl

end Moment

namespace Journal

/-- The deliveries of a sink with this filter, in the order in which they came. -/
def deliveries (filter : Filter) (sink : Name) (past : List Moment) : List Delivery :=
  past.reverse.filterMap (·.delivery? filter sink)

/-- What has been taken from the stream of the sink, in the order in which it was taken. -/
def taken (sink : Name) (past : List Moment) : List Recorded :=
  past.reverse.flatMap (·.takenFrom sink)

/-- How many events wait in the stream of the sink. -/
def waiting (filter : Filter) (sink : Name) (past : List Moment) : Nat :=
  (enqueued (deliveries filter sink past)).length - (taken sink past).length

variable {filter : Filter} {sink : Name} {m : Moment} {news past : List Moment}

theorem deliveries_cons :
    deliveries filter sink (m :: past) =
      deliveries filter sink past ++ (m.delivery? filter sink).toList := by
  unfold deliveries
  rw [List.reverse_cons, List.filterMap_append]
  cases hdelivery : m.delivery? filter sink <;> simp [hdelivery]

theorem taken_cons : taken sink (m :: past) = taken sink past ++ m.takenFrom sink := by
  simp [taken]

theorem deliveries_append (hnews : ∀ m ∈ news, m.delivery? filter sink = none) :
    deliveries filter sink (news ++ past) = deliveries filter sink past := by
  induction news with
  | nil => rfl
  | cons m news ih =>
      obtain ⟨hm, hnews⟩ := List.forall_mem_cons.mp hnews
      rw [List.cons_append, deliveries_cons, hm, ih hnews]
      exact List.append_nil _

theorem taken_append (hnews : ∀ m ∈ news, m.takenFrom sink = []) :
    taken sink (news ++ past) = taken sink past := by
  induction news with
  | nil => rfl
  | cons m news ih =>
      obtain ⟨hm, hnews⟩ := List.forall_mem_cons.mp hnews
      rw [List.cons_append, taken_cons, hm, ih hnews, List.append_nil]

end Journal

/-- What became of an event that the sink is meant to keep: it is lost, with its number, exactly if
the stream is full when it comes. -/
def Moment.Counted (config : SinkConfig) (sink : Name) (past : List Moment) (m : Moment) : Prop :=
  ∀ id e outcome, m = .offered sink id e outcome → config.filter.keeps e.category = true →
    if Journal.waiting config.filter sink past = config.capacity then
      ∃ warn, outcome = .lost (.ofNat (Journal.deliveries config.filter sink past).length) warn
    else outcome = .stored

theorem Moment.counted_of_delivery? {config : SinkConfig} {sink : Name} {m : Moment}
    (h : m.delivery? config.filter sink = none) (past : List Moment) :
    m.Counted config sink past := by
  rintro id e outcome rfl hkeeps
  simp [delivery?, hkeeps] at h

/-! ## What happens to one sink -/

/-- The warning that a loss is worth. -/
def Offered.warning (sink : Name) (id : DocumentId) : Offered → List Moment
  | lost position true => [.sinkFull sink id position]
  | _ => []

theorem Offered.mem_warning {sink : Name} {id : DocumentId} {outcome : Offered} {m : Moment}
    (h : m ∈ outcome.warning sink id) : ∃ position, m = .sinkFull sink id position := by
  unfold warning at h
  split at h
  next position => exact ⟨position, List.mem_singleton.mp h⟩
  next => exact absurd h List.not_mem_nil

section

variable {filter : Filter} {sink : Name} {id : DocumentId} {e : Event} {outcome : Offered}
  {past : List Moment}

theorem Offered.silent_of_mem_warning {m : Moment} (h : m ∈ outcome.warning sink id) :
    (∀ filter, m.delivery? filter sink = none) ∧ m.takenFrom sink = [] := by
  obtain ⟨position, rfl⟩ := mem_warning h
  exact ⟨fun _ => rfl, rfl⟩

theorem Journal.deliveries_offered :
    deliveries filter sink (outcome.warning sink id ++ .offered sink id e outcome :: past) =
      deliveries filter sink past ++
        if filter.keeps e.category then [⟨id, e, outcome⟩] else [] := by
  rw [deliveries_append fun m hm => (Offered.silent_of_mem_warning hm).1 filter, deliveries_cons]
  cases hkeeps : filter.keeps e.category <;> simp [Moment.delivery?, hkeeps]

theorem Journal.taken_offered :
    taken sink (outcome.warning sink id ++ .offered sink id e outcome :: past) =
      taken sink past := by
  rw [taken_append fun m hm => (Offered.silent_of_mem_warning hm).2, taken_cons]
  exact List.append_nil _

end

theorem past_offer {w : World} {sink : Name} {s : Sink} (hsink : (w.observer sink).sink? = some s)
    (id : DocumentId) (e : Event) :
    (Scenario.offer sink id e w).past =
      (s.offer id e).2.warning sink id ++ .offered sink id e (s.offer id e).2 :: w.past := by
  unfold Scenario.offer
  rw [hsink]
  simp only
  split
  next position heq =>
    rw [heq, ← past_updateSink w sink fun _ => (s.offer id e).1]
    rfl
  next hwarn =>
    have hnone : (s.offer id e).2.warning sink id = [] := by
      unfold Offered.warning
      split
      next position heq => exact absurd heq (hwarn position)
      next => rfl
    rw [hnone, ← past_updateSink w sink fun _ => (s.offer id e).1]
    rfl

theorem sink?_offer {w : World} {sink : Name} {s : Sink} (hsink : (w.observer sink).sink? = some s)
    (id : DocumentId) (e : Event) (x : Name) :
    ((Scenario.offer sink id e w).observer x).sink? =
      if x = sink then some (s.offer id e).1 else (w.observer x).sink? := by
  have hupdate := sink?_updateSink w sink x fun _ => (s.offer id e).1
  rw [hsink, Option.map_some] at hupdate
  unfold Scenario.offer
  rw [hsink]
  simp only
  split <;> exact hupdate

/-- What one occurrence does to the sink. -/
inductive StreamMove (sink : Name) (w w' : World) : Prop
  | still (hsink : (w'.observer sink).sink? = (w.observer sink).sink?)
      (hquiet : w.Adds (fun m => m.stream? ≠ some sink) w')
  | made (config : SinkConfig) (hnone : (w.observer sink).sink? = none)
      (hsink : (w'.observer sink).sink? = some (.new config))
      (hpast : w'.past = .sinkMade sink config :: w.past)
  | offered (s : Sink) (id : DocumentId) (e : Event) (hsink : (w.observer sink).sink? = some s)
      (hsink' : (w'.observer sink).sink? = some (s.offer id e).1)
      (hpast : w'.past =
        (s.offer id e).2.warning sink id ++ .offered sink id e (s.offer id e).2 :: w.past)
  | read (s : Sink) (events rest : List Recorded) (hsink : (w.observer sink).sink? = some s)
      (hbuffer : s.buffer = events ++ rest)
      (hsink' : (w'.observer sink).sink? = some { s with buffer := rest })
      (hpast : w'.past = .taken sink events :: w.past)
  | closed (s : Sink) (hsink : (w.observer sink).sink? = some s)
      (hsink' : (w'.observer sink).sink? = some s.disconnect) (hpast : w'.past = w.past)

namespace World

variable {w v : World} {sink o : Name}

theorem sink?_hold : ((w.hold o).observer sink).sink? = (w.observer sink).sink? := by
  rw [observer_hold]
  split
  next heq => rw [heq]; rfl
  next => rfl

theorem sink?_unhold : ((w.unhold o).observer sink).sink? = (w.observer sink).sink? := by
  rw [observer_unhold]
  split
  next heq => rw [heq]; rfl
  next => rfl

theorem sink?_disown : ((w.disown o).observer sink).sink? = (w.observer sink).sink? := by
  rw [observer_disown]
  split
  next heq => rw [heq]; rfl
  next => rfl

theorem sink?_of_not_contains (h : w.observers.contains o = false) :
    (w.observer o).sink? = none := by
  rw [observer, Table.get_of_not_contains h]
  rfl

/-- Nothing is said of streams when somebody lets go of an observer. -/
theorem adds_of_let_go {m : Moment} {alive : Bool} (hm : m.stream? = none)
    (hpast : v.past = if alive then m :: w.past else .freed o :: m :: w.past) :
    w.Adds (fun m => m.stream? ≠ some sink) v := by
  cases alive with
  | true => exact .cons hpast (by simp [hm])
  | false =>
      have hfreed : (Moment.freed o).stream? = none := rfl
      exact ⟨[.freed o, m], hpast, by simp [hm, hfreed]⟩

theorem Beside.adds_stream (h : w.Beside v) : w.Adds (fun m => m.stream? ≠ some sink) v := by
  refine h.past.mono fun m hm => ?_
  rw [Moment.stream?_of_not_isNotable hm]
  simp

end World

/-- Everything that happens is one of these for every sink. -/
theorem Occurrence.streamMove {s s' : List Activity} {w w' : World} (h : Occurrence s w s' w')
    (sink : Name) : StreamMove sink w w' := by
  have hhold : ∀ {w v : World} {o : Name}, (w.hold o).Beside v →
      (v.observer sink).sink? = (w.observer sink).sink? ∧
        w.Adds (fun m => m.stream? ≠ some sink) v := by
    intro w v o hheld
    refine ⟨by rw [hheld.observer, sink?_hold], .trans (.cons (m := .held o) rfl ?_)
      hheld.adds_stream⟩
    simp [Moment.stream?]
  cases h with
  | beside h => exact .still (congrArg Observer.sink? (h.observer sink)) h.adds_stream
  | create o role hnew hrole =>
      refine .still ?_ (.of_past rfl)
      by_cases heq : sink = o
      · subst heq
        rw [sink?_of_not_contains hnew]
        cases role with
        | sink k => exact absurd rfl (hrole k)
        | recorder r => simp [observer, Observer.sink?, Observer.new]
        | quiet binding => simp [observer, Observer.sink?, Observer.new]
      · simp [observer, heq]
  | createSink o config hnew =>
      by_cases heq : sink = o
      · subst heq
        refine .made config (sink?_of_not_contains hnew) ?_ rfl
        simp [observer, Observer.sink?, Observer.new]
      · refine .still (by simp [observer, heq]) (.cons (m := .sinkMade o config) rfl ?_)
        simp [Moment.stream?, Ne.symm heq]
  | remember o f =>
      exact .still (sink?_updateRecorder w o sink f) (.of_past (past_updateRecorder w o f))
  | offer o id e =>
      cases hsink : (w.observer o).sink? with
      | none =>
          have hsame : Scenario.offer o id e w = w := by
            unfold Scenario.offer
            rw [hsink]
          rw [hsame]
          exact .still rfl (.of_past rfl)
      | some k =>
          by_cases heq : sink = o
          · subst heq
            refine .offered k id e hsink ?_ (past_offer hsink id e)
            rw [sink?_offer hsink, if_pos rfl]
          · refine .still (by rw [sink?_offer hsink, if_neg heq]) ?_
            refine ⟨_ ++ [_], by rw [past_offer hsink, List.append_cons], ?_⟩
            intro m hm
            rcases List.mem_append.mp hm with hm | hm
            · obtain ⟨position, rfl⟩ := Offered.mem_warning hm
              simp [Moment.stream?, Ne.symm heq]
            · rw [List.mem_singleton.mp hm]
              simp [Moment.stream?, Ne.symm heq]
  | read o k hsink events rest hbuffer =>
      have hpast : (w.readStream o { k with buffer := rest } events).past =
          .taken o events :: w.past :=
        congrArg _ (past_updateSink w o _)
      have hupdate : ((w.readStream o { k with buffer := rest } events).observer sink).sink? = _ :=
        sink?_updateSink w o sink fun _ => { k with buffer := rest }
      by_cases heq : sink = o
      · subst heq
        rw [if_pos rfl, hsink] at hupdate
        exact .read k events rest hsink hbuffer hupdate hpast
      · rw [if_neg heq] at hupdate
        exact .still hupdate (.cons hpast (by simp [Moment.stream?, Ne.symm heq]))
  | disconnect o =>
      have hupdate := sink?_updateSink w o sink Sink.disconnect
      by_cases heq : sink = o
      · subst heq
        rw [if_pos rfl] at hupdate
        cases hsink : (w.observer sink).sink? with
        | none =>
            rw [hsink] at hupdate
            exact .still (hupdate.trans hsink.symm) (.of_past (past_updateSink w sink _))
        | some k =>
            rw [hsink] at hupdate
            exact .closed k hsink hupdate (past_updateSink w sink _)
      · rw [if_neg heq] at hupdate
        exact .still hupdate (.of_past (past_updateSink w o _))
  | disown o hown =>
      exact .still sink?_disown (adds_of_let_go (m := .disowned o) rfl (past_disown w o))
  | @call s w v t d o n halive hheld =>
      obtain ⟨hsink, hquiet⟩ := hhold hheld
      exact .still hsink (hquiet.trans (.cons rfl (by simp [Moment.stream?])))
  | «return» o =>
      exact .still sink?_unhold (adds_of_let_go (m := .unheld o) rfl (past_unhold w o))
  | @glance s w v o halive hheld =>
      obtain ⟨hsink, hquiet⟩ := hhold hheld
      exact .still (sink?_unhold.trans hsink)
        (hquiet.trans (adds_of_let_go (m := .unheld o) rfl (past_unhold v o)))
  | enterPass p hserial =>
      refine .still ?_ (.cons (congrArg _ (past_updateRegistry w _ _)) (by simp [Moment.stream?]))
      exact congrArg Observer.sink? (observer_updateRegistry w sink p.registry _)
  | finishPass p r =>
      refine .still rfl (.trans (.cons (m := .passFinished p r) rfl ?_)
        (.cons (m := .passLeft p) rfl ?_))
      · simp [Moment.stream?]
      · simp [Moment.stream?]
  | abandonPass p => exact .still rfl (.cons (m := .passLeft p) rfl (by simp [Moment.stream?]))

end ChangeNotice
