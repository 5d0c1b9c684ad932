import ChangeNotice.Proofs.Outermost
import ChangeNotice.Proofs.PassExact

/-! # The turns of a pass

A pass is followed from one turn to the next, with the world in which each slot has its
turn, and also if it is unwound on the way. Whose handlers the pass calls, what they are
shown, what they answer and what the pass reports are then read off this one list.
-/

namespace ChangeNotice

open World

/-- A slot of a pass, and the world in which it has its turn. -/
structure SlotTurn where
  entry : Entry
  world : World

namespace SlotTurn

variable (p : PassInfo) (t : Thread) (d : Name) (n : Notice) (s : SlotTurn)

/-- What has become of the slot by its turn. -/
def found : Resolved := s.world.resolve p.registry p.removal s.entry

/-- The observer is invoked, and it has a handler for the notice. -/
def isHandled : Bool := s.found p = .live && (s.world.observer s.entry.key).supports n.kind

/-- The observer is invoked, but it has no handler for the notice. -/
def isUnsupported : Bool := s.found p = .live && !(s.world.observer s.entry.key).supports n.kind

/-- The observer is held for its turn. -/
def invoked : World := (s.world.hold s.entry.key).record (.invoking p s.entry.key)

/-- What its handler is called with, and what it is shown of the document. -/
def call : Call := s.world.callOf t d s.entry.key n

/-- Where its handler begins. -/
def entrance : World := (s.invoked p).record (.called (s.call t d n))

/-- What its handler returns, if it does. -/
def answer (handle : Handlers) : Except Unwind Verdict :=
  (handle t d s.entry.key n (s.entrance p t d n)).1

end SlotTurn

namespace Pass

/-- The slots that have their turns in a walk. A turn that is unwound is the last one. -/
def slotTurns (p : PassInfo) (visit : Name → Run (Option Verdict)) :
    Snapshot → World → List SlotTurn
  | [], _ => []
  | e :: rest, w =>
    ⟨e, w⟩ :: match turn p visit e w with
      | (.ok _, v) => slotTurns p visit rest v
      | (.error _, _) => []

/-- A walk over the slots takes these turns and comes to this end. -/
inductive TakesTurns (p : PassInfo) (visit : Name → Run (Option Verdict)) :
    Snapshot → World → List SlotTurn → Except Unwind (Report × List Verdict) × World → Prop
  | done (w : World) : TakesTurns p visit [] w [] (.ok (.empty, []), w)
  | stop {e : Entry} {rest : Snapshot} {w v : World} {x : Unwind}
      (hturn : turn p visit e w = (.error x, v)) :
      TakesTurns p visit (e :: rest) w [⟨e, w⟩] (.error x, v)
  | next {e : Entry} {rest : Snapshot} {w v : World} {found : Resolved × Option Verdict}
      {turns : List SlotTurn} {outcome : Except Unwind (Report × List Verdict) × World}
      (hturn : turn p visit e w = (.ok found, v))
      (hrest : TakesTurns p visit rest v turns outcome) :
      TakesTurns p visit (e :: rest) w (⟨e, w⟩ :: turns) (outcome.1.map (addTurn found), outcome.2)

theorem walk_takesTurns (p : PassInfo) (visit : Name → Run (Option Verdict)) (slots : Snapshot)
    (w : World) :
    TakesTurns p visit slots w (slotTurns p visit slots w) (walk p visit slots w) := by
  induction slots generalizing w with
  | nil => exact .done w
  | cons e rest ih =>
      rw [walk_cons_apply, slotTurns]
      cases hturn : turn p visit e w with
      | mk result v =>
          cases result with
          | error x => exact .stop hturn
          | ok found => exact .next hturn (ih v)

theorem map_addTurn_eq_ok {result : Except Unwind (Report × List Verdict)}
    {found : Resolved × Option Verdict} {told : Report × List Verdict} :
    result.map (addTurn found) = .ok told ↔
      ∃ told', result = .ok told' ∧ addTurn found told' = told := by
  cases result <;> simp [Except.map]

namespace TakesTurns

variable {origin w : World} {p : PassInfo} {visit : Name → Run (Option Verdict)} {slots : Snapshot}
  {turns : List SlotTurn} {outcome : Except Unwind (Report × List Verdict) × World}

/-- The slots have their turns in order, and all of them unless the walk is unwound. -/
theorem entries (h : TakesTurns p visit slots w turns outcome) :
    turns.map SlotTurn.entry <+: slots ∧
      ∀ told, outcome.1 = .ok told → turns.map SlotTurn.entry = slots := by
  induction h with
  | done w => exact ⟨List.prefix_rfl, fun _ _ => rfl⟩
  | stop hturn => exact ⟨⟨_, rfl⟩, fun told htold => by simp at htold⟩
  | next hturn hrest ih =>
      refine ⟨List.cons_prefix_cons.mpr ⟨rfl, ih.1⟩, fun told htold => ?_⟩
      obtain ⟨told', htold', -⟩ := map_addTurn_eq_ok.mp htold
      rw [List.map_cons, ih.2 told' htold']

/-- What every turn keeps, all turns keep. -/
theorem ordered {R : World → World → Prop} (hrefl : ∀ v, R v v)
    (htrans : ∀ {u v v'}, R u v → R v v' → R u v') (h : TakesTurns p visit slots w turns outcome)
    (hstep : ∀ s ∈ turns, ∀ found v, turn p visit s.entry s.world = (.ok found, v) →
      R s.world v) :
    (∀ s ∈ turns, R w s.world) ∧ turns.Pairwise (fun s s' => R s.world s'.world) ∧
      ∀ told, outcome.1 = .ok told → R w outcome.2 := by
  induction h with
  | done w => exact ⟨by simp, .nil, fun _ _ => hrefl w⟩
  | @stop e rest w v x hturn =>
      exact ⟨by simp [hrefl w], List.pairwise_singleton _ _, fun told htold => by simp at htold⟩
  | @next e rest w v found turns outcome hturn hrest ih =>
      obtain ⟨hfirst, hlater⟩ := List.forall_mem_cons.mp hstep
      have hwv : R w v := hfirst found v hturn
      obtain ⟨hall, hpairs, hend⟩ := ih hlater
      have hw : ∀ s ∈ turns, R w s.world := fun s hs => htrans hwv (hall s hs)
      refine ⟨List.forall_mem_cons.mpr ⟨hrefl w, hw⟩, List.pairwise_cons.mpr ⟨hw, hpairs⟩, ?_⟩
      intro told htold
      obtain ⟨told', htold', -⟩ := map_addTurn_eq_ok.mp htold
      exact htrans hwv (hend told' htold')

/-- At each turn the pass is under way. -/
theorem underway (hsound : origin.Sound) (hvisit : VisitsTrack origin visit visit)
    (h : TakesTurns p visit slots w turns outcome) (hw : Underway origin w p slots) :
    ∀ s ∈ turns, ∃ rest, Underway origin s.world p (s.entry :: rest) := by
  induction h with
  | done w => simp
  | @stop e rest w v x hturn => simpa using ⟨rest, hw⟩
  | @next e rest w v found turns outcome hturn hrest ih =>
      obtain ⟨-, htaken⟩ := turn_taken hw hsound hvisit
      rw [hturn] at htaken
      exact List.forall_mem_cons.mpr ⟨⟨rest, hw⟩, ih htaken.underway⟩

end TakesTurns

end Pass

/-! ## The calls of a pass in the journal -/

namespace Journal

/-- The calls of handlers that the pass has made, in the order in which they came. -/
def ownCalls (serial : Nat) (past : List Moment) : List Call :=
  (calls serial (since serial past)).reverse

variable {serial : Nat} {m : Moment} {news past : List Moment}

theorem calls_cons (h : ∀ c, m ≠ .called c) : calls serial (m :: past) = calls serial past := by
  rw [calls.eq_def]
  split
  next c p o rest heq => exact absurd (List.cons.inj heq).1 (h c)
  next heq => rw [(List.cons.inj heq).2]
  next heq => simp at heq

/-- A call belongs to the pass only if the turn of a slot comes right before it. -/
theorem calls_cons_of_turn? (h : ∀ m' ∈ past.head?, m'.turn? serial = none) :
    calls serial (m :: past) = calls serial past := by
  rw [calls.eq_def]
  split
  next c p o rest heq =>
    obtain ⟨rfl, rfl⟩ := List.cons.inj heq
    have hother : p.serial ≠ serial := by simpa [Moment.turn?] using h _ rfl
    rw [if_neg hother, calls_cons (by simp)]
  next heq => rw [(List.cons.inj heq).2]
  next heq => simp at heq

theorem calls_append (hnews : ∀ m ∈ news, m.turn? serial = none)
    (hpast : ∀ m ∈ past.head?, m.turn? serial = none) :
    calls serial (news ++ past) = calls serial past := by
  induction news with
  | nil => rfl
  | cons m news ih =>
      obtain ⟨-, hlater⟩ := List.forall_mem_cons.mp hnews
      have hhead : ∀ m' ∈ (news ++ past).head?, m'.turn? serial = none := by
        cases news with
        | nil => exact hpast
        | cons m' news => simpa using hlater m' List.mem_cons_self
      rw [List.cons_append, calls_cons_of_turn? hhead, ih hlater]

theorem ownCalls_cons (hopens : m.opens? serial = none) (h : ∀ c, m ≠ .called c) :
    ownCalls serial (m :: past) = ownCalls serial past := by
  rw [ownCalls, since_cons hopens, calls_cons h]
  rfl

theorem ownCalls_cons_of_opens {opened : PassInfo × List Name}
    (h : m.opens? serial = some opened) : ownCalls serial (m :: past) = [] := by
  rw [ownCalls, since_cons_of_opens h]
  rfl

theorem ownCalls_called {p : PassInfo} {o : Name} {c : Call} (hp : p.serial = serial) :
    ownCalls serial (.called c :: .invoking p o :: past) = ownCalls serial past ++ [c] := by
  rw [ownCalls, since_cons rfl, since_cons rfl, calls, if_pos hp, List.reverse_cons]
  rfl

theorem ownCalls_append (hnews : ∀ m ∈ news, m.SilentOn serial)
    (hpast : ∀ m ∈ past.head?, m.turn? serial = none) :
    ownCalls serial (news ++ past) = ownCalls serial past := by
  have hhead : ∀ m ∈ (since serial past).head?, m.turn? serial = none := by
    intro m hm
    rw [since, List.head?_takeWhile] at hm
    exact hpast m (Option.mem_filter_iff.mp hm).1
  rw [ownCalls, since_append fun m hm => (hnews m hm).1,
    calls_append (fun m hm => (hnews m hm).2) hhead]
  rfl

theorem ownCalls_unhold (w : World) (o : Name) (serial : Nat) :
    ownCalls serial (w.unhold o).past = ownCalls serial w.past := by
  rw [past_unhold]
  split
  · exact ownCalls_cons rfl (by simp)
  · rw [ownCalls_cons rfl (by simp), ownCalls_cons rfl (by simp)]

end Journal

/-! ## Passes that deliver a notice -/

namespace Notify

variable {w : World} {handle : Handlers} {t : Thread} {d o : Name} {n : Notice}

theorem deliver_supported (h : (w.observer o).supports n.kind = true) :
    deliver handle t d n o w =
      match handle t d o n (w.record (.called (w.callOf t d o n))) with
      | (.ok v, u) => (.ok (some v), u.record (.handled (w.callOf t d o n) v))
      | (.error x, u) => (.error x, u) := by
  simp only [deliver_eq, Run.note, Run.bind_apply, Run.read_apply, Run.change_apply, h, if_true]
  cases handle t d o n (w.record (.called (w.callOf t d o n))) with
  | mk result u => cases result <;> rfl

theorem deliver_unsupported (h : (w.observer o).supports n.kind = false) :
    deliver handle t d n o w = (.ok none, w) := by
  simp only [deliver_eq, Run.bind_apply, Run.read_apply, h]
  rfl

end Notify

namespace SlotTurn

variable {p : PassInfo} {t : Thread} {d : Name} {n : Notice} {s : SlotTurn} {handle : Handlers}

theorem isHandled_iff : s.isHandled p n = true ↔
    s.found p = .live ∧ (s.world.observer s.entry.key).supports n.kind = true := by
  simp [isHandled]

theorem isUnsupported_iff : s.isUnsupported p n = true ↔
    s.found p = .live ∧ (s.world.observer s.entry.key).supports n.kind = false := by
  simp [isUnsupported]

theorem isHandled_of_isUnsupported (h : s.isUnsupported p n = true) : s.isHandled p n = false := by
  simp [isHandled, (isUnsupported_iff.mp h).2]

theorem isHandled_of_found (h : s.found p ≠ .live) : s.isHandled p n = false := by
  simp [isHandled, h]

theorem supports_invoked (p : PassInfo) (n : Notice) (s : SlotTurn) :
    ((s.invoked p).observer s.entry.key).supports n.kind =
      (s.world.observer s.entry.key).supports n.kind := by
  simp [invoked, Observer.supports, Observer.hasBinding]

/-- What the turn of a slot comes to, in a pass that delivers a notice. -/
inductive Turn (handle : Handlers) (p : PassInfo) (t : Thread) (d : Name) (n : Notice)
    (s : SlotTurn) : Except Unwind (Resolved × Option Verdict) × World → Prop
  /-- The handler is called and returns. -/
  | handled {v : Verdict} {u : World} (hsupported : s.isHandled p n = true)
      (hcall : handle t d s.entry.key n (s.entrance p t d n) = (.ok v, u)) :
      Turn handle p t d n s
        (.ok (.live, some v), (u.record (.handled (s.call t d n) v)).unhold s.entry.key)
  /-- The handler is called and unwound. -/
  | unwound {x : Unwind} {u : World} (hsupported : s.isHandled p n = true)
      (hcall : handle t d s.entry.key n (s.entrance p t d n) = (.error x, u)) :
      Turn handle p t d n s (.error x, u.unhold s.entry.key)
  | ignored (hunsupported : s.isUnsupported p n = true) :
      Turn handle p t d n s (.ok (.live, none), (s.invoked p).unhold s.entry.key)
  | skipped (hfound : s.found p = .unregistered) :
      Turn handle p t d n s (.ok (.unregistered, none), s.world.record (.skipping p s.entry.key))
  | missed (hfound : s.found p = .dropped) :
      Turn handle p t d n s (.ok (.dropped, none), s.world.record (.missing p s.entry.key))

theorem turn_spec (handle : Handlers) (p : PassInfo) (t : Thread) (d : Name) (n : Notice)
    (s : SlotTurn) :
    s.Turn handle p t d n (Pass.turn p (Notify.deliver handle t d n) s.entry s.world) := by
  cases hfound : s.found p with
  | live =>
      rw [Pass.turn_live _ hfound, ← invoked]
      cases hsupports : (s.world.observer s.entry.key).supports n.kind with
      | true =>
          have hsupported : s.isHandled p n = true := isHandled_iff.mpr ⟨hfound, hsupports⟩
          have hdeliver : Notify.deliver handle t d n s.entry.key (s.invoked p) =
              match handle t d s.entry.key n (s.entrance p t d n) with
              | (.ok v, u) => (.ok (some v), u.record (.handled (s.call t d n) v))
              | (.error x, u) => (.error x, u) :=
            Notify.deliver_supported (by rw [supports_invoked, hsupports])
          rw [hdeliver]
          cases hcall : handle t d s.entry.key n (s.entrance p t d n) with
          | mk result u =>
              cases result with
              | ok v => exact .handled hsupported hcall
              | error x => exact .unwound hsupported hcall
      | false =>
          rw [Notify.deliver_unsupported (by rw [supports_invoked, hsupports])]
          exact .ignored (isUnsupported_iff.mpr ⟨hfound, hsupports⟩)
  | unregistered =>
      rw [Pass.turn_unregistered _ hfound]
      exact .skipped hfound
  | dropped =>
      rw [Pass.turn_dropped _ hfound]
      exact .missed hfound

theorem Turn.of_eq {outcome : Except Unwind (Resolved × Option Verdict) × World}
    (h : Pass.turn p (Notify.deliver handle t d n) s.entry s.world = outcome) :
    s.Turn handle p t d n outcome := h ▸ s.turn_spec handle p t d n

section Leads

variable {origin : World} {rest : Snapshot} (hsound : origin.Sound) (hhandle : handle.Client)
  (hs : Pass.Underway origin s.world p (s.entry :: rest))

include hs

theorem entrance_leads (hsupported : s.isHandled p n = true) :
    origin.Leads (s.entrance p t d n) := by
  have hinvoke : Change origin s.world (s.invoked p) :=
    .invoke p s.entry hs.own hs.due (isHandled_iff.mp hsupported).1
  have hleads : origin.Leads (s.invoked p) := Relation.ReflTransGen.tail hs.settles.leads hinvoke
  have hheld : 0 < ((s.invoked p).observer s.entry.key).holds := by simp [invoked]
  exact hleads.trans (.of_change (.call t d s.entry.key n hheld))

include hsound hhandle

theorem handler_leads (hsupported : s.isHandled p n = true) : (s.entrance p t d n).Leads
    (handle t d s.entry.key n (s.entrance p t d n)).2 :=
  ((hhandle t d s.entry.key n).tracks (Evolves.sound (entrance_leads hs hsupported) hsound)).leads

/-- A turn calls the handler of the observer, if it has one, and the pass makes no other calls
meanwhile. -/
theorem Turn.ownCalls {outcome : Except Unwind (Resolved × Option Verdict) × World}
    (h : s.Turn handle p t d n outcome) :
    Journal.ownCalls p.serial outcome.2.past = Journal.ownCalls p.serial s.world.past ++
      if s.isHandled p n then [s.call t d n] else [] := by
  have hentrance : Journal.ownCalls p.serial (s.entrance p t d n).past =
      Journal.ownCalls p.serial s.world.past ++ [s.call t d n] := by
    refine (Journal.ownCalls_called rfl).trans ?_
    rw [past_hold, Journal.ownCalls_cons rfl (by simp)]
  -- Whatever the handler does, it does in passes of its own.
  have hhandled : ∀ {result u}, handle t d s.entry.key n (s.entrance p t d n) = (result, u) →
      s.isHandled p n = true → Journal.ownCalls p.serial u.past =
        Journal.ownCalls p.serial s.world.past ++ [s.call t d n] := by
    intro result u hcall hsupported
    obtain ⟨news, hpast, hsilent⟩ :=
      Evolves.news (handler_leads hsound hhandle hs hsupported) le_rfl
    rw [hcall] at hpast
    have hstarted : p.serial < (s.entrance p t d n).passes := hs.started
    rw [hpast, Journal.ownCalls_append (fun m hm => hsilent m hm p.serial hstarted) ?_, hentrance]
    rintro m ⟨⟩
    rfl
  cases h with
  | handled hsupported hcall =>
      rw [Journal.ownCalls_unhold, past_record, Journal.ownCalls_cons rfl (by simp),
        hhandled hcall hsupported, if_pos hsupported]
  | unwound hsupported hcall =>
      rw [Journal.ownCalls_unhold, hhandled hcall hsupported, if_pos hsupported]
  | ignored hunsupported =>
      rw [Journal.ownCalls_unhold, invoked, past_record, Journal.ownCalls_cons rfl (by simp),
        past_hold, Journal.ownCalls_cons rfl (by simp), isHandled_of_isUnsupported hunsupported]
      exact (List.append_nil _).symm
  | skipped hfound =>
      rw [past_record, Journal.ownCalls_cons rfl (by simp), isHandled_of_found (by simp [hfound])]
      exact (List.append_nil _).symm
  | missed hfound =>
      rw [past_record, Journal.ownCalls_cons rfl (by simp), isHandled_of_found (by simp [hfound])]
      exact (List.append_nil _).symm

end Leads

/-- What a pass that had these slots and no others reports. -/
def reportOf (p : PassInfo) (n : Notice) (turns : List SlotTurn) : Report where
  delivered := turns.countP (·.isHandled p n)
  unregistered := turns.countP (·.found p = .unregistered)
  dropped := turns.countP (·.found p = .dropped)
  unsupported := turns.countP (·.isUnsupported p n)

/-- The answer of the slot, if it is asked for one, and its place in the report. -/
theorem Turn.addTurn {found : Resolved × Option Verdict} {v : World}
    (h : s.Turn handle p t d n (.ok found, v)) (turns : List SlotTurn) (answers : List Verdict) :
    Pass.addTurn found (reportOf p n turns, answers) =
      (reportOf p n (s :: turns), found.2.toList ++ answers) ∧
    (if s.isHandled p n then [s.answer p t d n handle] else []) = found.2.toList.map .ok := by
  cases h with
  | handled hsupported hcall =>
      obtain ⟨hlive, hsupports⟩ := isHandled_iff.mp hsupported
      have hanswer : s.answer p t d n handle = .ok _ := congrArg Prod.fst hcall
      simp [Pass.addTurn, Pass.count, Report.countVisit, reportOf, isHandled, hlive, hanswer,
        isUnsupported, hsupports]
  | ignored hunsupported =>
      obtain ⟨hlive, hsupports⟩ := isUnsupported_iff.mp hunsupported
      simp [Pass.addTurn, Pass.count, Report.countVisit, reportOf, isUnsupported, hlive, isHandled,
        hsupports]
  | skipped hfound => simp [Pass.addTurn, Pass.count, reportOf, hfound, isHandled, isUnsupported]
  | missed hfound => simp [Pass.addTurn, Pass.count, reportOf, hfound, isHandled, isUnsupported]

end SlotTurn

namespace Pass.TakesTurns

variable {origin w : World} {handle : Handlers} {p : PassInfo} {t : Thread} {d : Name} {n : Notice}
  {slots : Snapshot} {turns : List SlotTurn}
  {outcome : Except Unwind (Report × List Verdict) × World}

theorem map_filter_cons {α β : Type} (q : α → Bool) (f : α → β) (a : α) (l : List α) :
    ((a :: l).filter q).map f = (if q a then [f a] else []) ++ (l.filter q).map f := by
  cases hq : q a <;> simp [hq]

/-- The pass makes the calls of the slots that have handlers, in order, and no others. -/
theorem ownCalls (hsound : origin.Sound) (hhandle : handle.Client)
    (h : TakesTurns p (Notify.deliver handle t d n) slots w turns outcome)
    (hw : Underway origin w p slots) :
    Journal.ownCalls p.serial outcome.2.past = Journal.ownCalls p.serial w.past ++
      (turns.filter (·.isHandled p n)).map (·.call t d n) := by
  have hvisit : VisitsTrack origin (Notify.deliver handle t d n) (Notify.deliver handle t d n) :=
    visitsTrack_of_visiting hsound fun o => .deliver hhandle t d n
  induction h with
  | done w => exact (List.append_nil _).symm
  | @stop e rest w v x hturn =>
      have hcalls := (SlotTurn.Turn.of_eq (s := ⟨e, w⟩) hturn).ownCalls hsound hhandle hw
      rw [hcalls, map_filter_cons]
      exact congrArg _ (List.append_nil _).symm
  | @next e rest w v found turns outcome hturn hrest ih =>
      have hcalls := (SlotTurn.Turn.of_eq (s := ⟨e, w⟩) hturn).ownCalls hsound hhandle hw
      obtain ⟨-, htaken⟩ := turn_taken hw hsound hvisit
      rw [hturn] at htaken
      rw [ih htaken.underway, hcalls, List.append_assoc, map_filter_cons]

/-- A walk that returns reports what became of its slots, and the answers of those that were
asked. -/
theorem told (h : TakesTurns p (Notify.deliver handle t d n) slots w turns outcome) {r : Report}
    {answers : List Verdict} (hreturn : outcome.1 = .ok (r, answers)) :
    r = SlotTurn.reportOf p n turns ∧
      (turns.filter (·.isHandled p n)).map (·.answer p t d n handle) = answers.map .ok := by
  induction h generalizing r answers with
  | done w =>
      obtain ⟨rfl, rfl⟩ := Prod.mk.inj (Except.ok.inj hreturn)
      exact ⟨rfl, rfl⟩
  | stop hturn => simp at hreturn
  | @next e rest w v found turns outcome hturn hrest ih =>
      obtain ⟨⟨r', answers'⟩, htold, hadd⟩ := map_addTurn_eq_ok.mp hreturn
      obtain ⟨rfl, hanswers⟩ := ih htold
      obtain ⟨hcount, hanswer⟩ :=
        (SlotTurn.Turn.of_eq (s := ⟨e, w⟩) hturn).addTurn turns answers'
      rw [hcount] at hadd
      obtain ⟨rfl, rfl⟩ := Prod.mk.inj hadd
      refine ⟨rfl, ?_⟩
      rw [List.map_append, ← hanswers, ← hanswer, map_filter_cons]

/-- A walk is unwound only by a handler that it has called. -/
theorem unwound (h : TakesTurns p (Notify.deliver handle t d n) slots w turns outcome) {x : Unwind}
    (hunwound : outcome.1 = .error x) :
    ∃ s ∈ turns.filter (·.isHandled p n), s.answer p t d n handle = .error x := by
  induction h with
  | done w => simp at hunwound
  | @stop e rest w v y hturn =>
      obtain rfl : y = x := Except.error.inj hunwound
      cases SlotTurn.Turn.of_eq (s := ⟨e, w⟩) hturn with
      | unwound hsupported hcall =>
          exact ⟨⟨e, w⟩, List.mem_filter.mpr ⟨List.mem_singleton_self _, hsupported⟩,
            congrArg Prod.fst hcall⟩
  | @next e rest w v found turns outcome hturn hrest ih =>
      have hlater : outcome.1 = .error x := by
        cases hresult : outcome.1 with
        | ok told => simp [hresult, Except.map] at hunwound
        | error y => simpa [hresult, Except.map] using hunwound
      obtain ⟨s, hs, hanswer⟩ := ih hlater
      refine ⟨s, ?_, hanswer⟩
      rw [List.mem_filter] at hs ⊢
      exact ⟨List.mem_cons_of_mem _ hs.1, hs.2⟩

/-- A walk returns exactly if all the handlers that it calls do. -/
theorem returns_iff (h : TakesTurns p (Notify.deliver handle t d n) slots w turns outcome) :
    (∃ told, outcome.1 = .ok told) ↔
      ∀ s ∈ turns.filter (·.isHandled p n), ∃ v, s.answer p t d n handle = .ok v := by
  constructor
  · rintro ⟨told, htold⟩ s hs
    obtain ⟨-, hanswers⟩ := h.told htold
    have hmem := List.mem_map_of_mem (f := (·.answer p t d n handle)) hs
    rw [hanswers] at hmem
    obtain ⟨v, -, hv⟩ := List.mem_map.mp hmem
    exact ⟨v, hv.symm⟩
  · intro hall
    cases hresult : outcome.1 with
    | ok told => exact ⟨told, rfl⟩
    | error x =>
        obtain ⟨s, hs, hanswer⟩ := h.unwound hresult
        obtain ⟨v, hv⟩ := hall s hs
        rw [hanswer] at hv
        cases hv

end Pass.TakesTurns

end ChangeNotice
