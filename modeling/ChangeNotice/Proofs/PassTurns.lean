import ChangeNotice.Proofs.Tracks

/-! # The turns of a pass

A pass takes its snapshot and then gives every slot its turn. What a pass knows
between two turns is stated once; one turn keeps it, whatever the observer does,
and so does the whole walk.
-/

namespace ChangeNotice

open World

namespace Pass

/-- The turn of one slot. -/
def turn (p : PassInfo) (visit : Name → Run (Option Verdict)) (e : Entry) :
    Run (Resolved × Option Verdict) := do
  match ← Run.read (·.resolve p.registry p.removal e) with
  | .live =>
    let answer ← Run.holding e.key do
      Run.note (.invoking p e.key)
      visit e.key
    pure (.live, answer)
  | .unregistered =>
    Run.note (.skipping p e.key)
    pure (.unregistered, none)
  | .dropped =>
    Run.note (.missing p e.key)
    pure (.dropped, none)

/-- Counts a turn. -/
def count (r : Report) : Resolved × Option Verdict → Report
  | (.live, answer) => r.countVisit answer
  | (.unregistered, _) => { r with unregistered := r.unregistered + 1 }
  | (.dropped, _) => { r with dropped := r.dropped + 1 }

/-- A pass gives the slots their turns one after the other. -/
theorem walk_cons (p : PassInfo) (visit : Name → Run (Option Verdict)) (e : Entry)
    (rest : Snapshot) :
    walk p visit (e :: rest) = (do
      let t ← turn p visit e
      let (r, answers) ← walk p visit rest
      pure (count r t, t.2.toList ++ answers)) := by
  funext w
  rw [walk, turn]
  simp only [Run.bind_apply, Run.read_apply]
  cases w.resolve p.registry p.removal e with
  | live =>
      simp only [Run.bind_apply]
      cases Run.holding e.key (do Run.note (.invoking p e.key); visit e.key) w with
      | mk result v => cases result <;> rfl
  | unregistered => rfl
  | dropped => rfl

/-- Adds a turn to what the later turns have told. -/
def addTurn (t : Resolved × Option Verdict) (told : Report × List Verdict) :
    Report × List Verdict :=
  (count told.1 t, t.2.toList ++ told.2)

theorem walk_cons_apply (p : PassInfo) (visit : Name → Run (Option Verdict)) (e : Entry)
    (rest : Snapshot) (w : World) :
    walk p visit (e :: rest) w =
      match turn p visit e w with
      | (.error x, v) => (.error x, v)
      | (.ok t, v) => ((walk p visit rest v).1.map (addTurn t), (walk p visit rest v).2) := by
  rw [walk_cons, Run.bind_apply]
  cases turn p visit e w with
  | mk result v =>
      cases result with
      | error x => rfl
      | ok t =>
          simp only [Run.bind_apply]
          cases walk p visit rest v with
          | mk result u => cases result <;> rfl

/-- A pass that began in `origin` is under way, and these slots are still to come. -/
structure Underway (origin w : World) (p : PassInfo) (slots : Snapshot) : Prop where
  settles : origin.Settles w
  own : origin.passes ≤ p.serial
  started : p.serial < w.passes
  snapshotEntry : ∀ e ∈ slots, w.SnapshotEntry p e
  opening : Journal.opening? p.serial w.past =
    some (p, Journal.visitedKeys p.serial w.past ++ slots.map (·.key))

/-- From every world of the run, both visits do the same to an observer that is held. -/
def VisitsTrack (origin : World) (visit visit' : Name → Run (Option Verdict)) : Prop :=
  ∀ v o, origin.Settles v → 0 < (v.observer o).holds → Run.Tracks v (visit o) (visit' o)

variable {origin w : World} {p : PassInfo} {visit visit' : Name → Run (Option Verdict)} {e : Entry}
  {rest : Snapshot}

/-- A run inside a pass leaves the turns of the pass alone. -/
theorem turns_of_leads {v : World} {serial : Nat} (h : w.Leads v) (hserial : serial < w.passes) :
    Journal.turns serial v.past = Journal.turns serial w.past ∧
      Journal.opening? serial v.past = Journal.opening? serial w.past := by
  obtain ⟨news, hpast, hsilent⟩ := Evolves.news h le_rfl
  rw [hpast]
  exact Journal.silent_append news fun m hm => hsilent m hm serial hserial

theorem turns_unhold (w : World) (o : Name) (serial : Nat) :
    Journal.turns serial (w.unhold o).past = Journal.turns serial w.past ∧
      Journal.opening? serial (w.unhold o).past = Journal.opening? serial w.past := by
  rw [past_unhold]
  split
  · exact Journal.silent_append [_] (by simp [Moment.SilentOn, Moment.opens?, Moment.turn?])
  · exact Journal.silent_append [_, _]
      (by simp [Moment.SilentOn, Moment.opens?, Moment.turn?])

namespace Underway

theorem due (h : Underway origin w p (e :: rest)) : w.Due p e where
  next := ⟨rest.map Entry.key, h.opening⟩
  snapshotEntry := h.snapshotEntry e List.mem_cons_self

theorem invoked (h : Underway origin w p (e :: rest))
    (hlive : w.resolve p.registry p.removal e = .live) :
    origin.Settles ((w.hold e.key).record (.invoking p e.key)) :=
  ⟨Relation.ReflTransGen.tail h.settles.leads (.invoke p e h.own h.due hlive), h.settles.slots⟩

/-- Once a slot has had its turn, the rest of the slots are still to come. -/
theorem next (h : Underway origin w p (e :: rest)) (hsound : origin.Sound) {v : World}
    {found : Resolved} (hevolves : Evolves origin w v) (hslots : v.inFlight = w.inFlight)
    (hturns : Journal.turns p.serial v.past = Journal.turns p.serial w.past ++ [(e.key, found)])
    (hopening : Journal.opening? p.serial v.past = Journal.opening? p.serial w.past) :
    Underway origin v p rest where
  settles := ⟨Relation.ReflTransGen.trans h.settles.leads hevolves, by rw [hslots, h.settles.slots]⟩
  own := h.own
  started := h.started.trans_le hevolves.passes_le
  snapshotEntry e' he' := hevolves.snapshotEntry (Evolves.sound h.settles.leads hsound) h.started
    (h.snapshotEntry e' (List.mem_cons_of_mem e he'))
  opening := by
    rw [hopening, h.opening]
    simp [Journal.visitedKeys, hturns]

end Underway

/-- What a turn does: it finds the observer alive, removed or dead, says so, and leaves the pass to
its remaining slots. -/
structure TurnTaken (origin w : World) (p : PassInfo) (e : Entry) (rest : Snapshot)
    (outcome : Except Unwind (Resolved × Option Verdict) × World) : Prop where
  evolves : Evolves origin w outcome.2
  turns : Journal.turns p.serial outcome.2.past =
    Journal.turns p.serial w.past ++ [(e.key, w.resolve p.registry p.removal e)]
  underway : Underway origin outcome.2 p rest
  found : ∀ t, outcome.1 = .ok t → t.1 = w.resolve p.registry p.removal e

theorem turn_of_not_live (h : Underway origin w p (e :: rest)) (hsound : origin.Sound)
    {m : Moment} {found : Resolved} (hfound : w.resolve p.registry p.removal e = found)
    (hm : m.opens? p.serial = none ∧ m.turn? p.serial = some (e.key, found))
    (hchange : Change origin w (w.record m)) {answer : Option Verdict} :
    TurnTaken origin w p e rest (.ok (found, answer), w.record m) := by
  have hturns : Journal.turns p.serial (w.record m).past =
      Journal.turns p.serial w.past ++ [(e.key, found)] := by
    rw [past_record, Journal.turns_cons hm.1, hm.2]
    rfl
  have hevolves : Evolves origin w (w.record m) := Relation.ReflTransGen.single hchange
  refine ⟨hevolves, hfound ▸ hturns, ?_, ?_⟩
  · exact h.next hsound hevolves rfl hturns (Journal.opening?_cons hm.1)
  · rintro t ht
    rw [hfound, ← Except.ok.inj ht]

/-- The turn of a live observer: it is held, invoked and let go, and whatever it does meanwhile is
no turn of this pass. -/
theorem turn_of_live (h : Underway origin w p (e :: rest)) (hsound : origin.Sound)
    (hlive : w.resolve p.registry p.removal e = .live) {m m' : Run (Option Verdict)}
    (hm : ∀ v, origin.Settles v → 0 < (v.observer e.key).holds → Run.Tracks v m m') :
    let v := (w.hold e.key).record (.invoking p e.key)
    m v = m' v ∧ ∀ result : Except Unwind (Resolved × Option Verdict),
      (∀ t, result = .ok t → t.1 = .live) →
        TurnTaken origin w p e rest (result, (m v).2.unhold e.key) := by
  intro v
  have hinvoke : Change origin w v := .invoke p e h.own h.due hlive
  have hstartv : origin.Settles v := h.invoked hlive
  have hheld : (v.observer e.key).holds = (w.observer e.key).holds + 1 := by
    simp [v]
  have htracks := hm v hstartv (by omega)
  have hinner := htracks.leads
  refine ⟨htracks.same, ?_⟩
  intro result hresult
  have hbelow := h.settles.leads.below.holds e.key
  have hstill := hinner.below.holds e.key
  have hrelease : Change origin (m v).2 ((m v).2.unhold e.key) := .unhold e.key (by omega)
  have hevolves : Evolves origin w ((m v).2.unhold e.key) :=
    Relation.ReflTransGen.tail
      (Relation.ReflTransGen.head hinvoke (hinner.lower hstartv.leads.below)) hrelease
  have hslots : ((m v).2.unhold e.key).inFlight = w.inFlight := by
    rw [inFlight_unhold, htracks.settles.inFlight]
    rfl
  have hstarted : p.serial < v.passes := h.started
  obtain ⟨hturns, hopening⟩ := turns_of_leads hinner hstarted
  obtain ⟨hturns', hopening'⟩ := turns_unhold (m v).2 e.key p.serial
  have hv : Journal.turns p.serial v.past = Journal.turns p.serial w.past ++ [(e.key, .live)] := by
    simp only [v, past_record, past_hold]
    rw [Journal.turns_cons (by rfl), Journal.turns_cons (by rfl)]
    simp [Moment.turn?]
  have hopened : Journal.opening? p.serial v.past = Journal.opening? p.serial w.past := rfl
  have hafter := (hturns'.trans hturns).trans hv
  refine ⟨hevolves, hlive ▸ hafter, ?_, ?_⟩
  · exact h.next hsound hevolves hslots hafter ((hopening'.trans hopening).trans hopened)
  · intro t ht
    rw [hlive]
    exact hresult t ht

/-- The turn of a live observer is the run of its visit, while it is held. -/
theorem turn_live (visit : Name → Run (Option Verdict))
    (hlive : w.resolve p.registry p.removal e = .live) :
    turn p visit e w =
      match visit e.key ((w.hold e.key).record (.invoking p e.key)) with
      | (.ok answer, v) => (.ok (.live, answer), v.unhold e.key)
      | (.error x, v) => (.error x, v.unhold e.key) := by
  simp only [turn, Run.holding, Run.note, Run.bind_apply, Run.read_apply, Run.change_apply,
    Run.ensuring_apply, hlive]
  cases visit e.key ((w.hold e.key).record (.invoking p e.key)) with
  | mk result v => cases result <;> rfl

theorem turn_unregistered (visit : Name → Run (Option Verdict))
    (hgone : w.resolve p.registry p.removal e = .unregistered) :
    turn p visit e w = (.ok (.unregistered, none), w.record (.skipping p e.key)) := by
  simp only [turn, Run.bind_apply, Run.read_apply, hgone]
  rfl

theorem turn_dropped (visit : Name → Run (Option Verdict))
    (hdead : w.resolve p.registry p.removal e = .dropped) :
    turn p visit e w = (.ok (.dropped, none), w.record (.missing p e.key)) := by
  simp only [turn, Run.bind_apply, Run.read_apply, hdead]
  rfl

/-- One turn keeps the pass under way. -/
theorem turn_taken (h : Underway origin w p (e :: rest)) (hsound : origin.Sound)
    (hvisit : VisitsTrack origin visit visit') :
    turn p visit e w = turn p visit' e w ∧ TurnTaken origin w p e rest (turn p visit e w) := by
  cases hfound : w.resolve p.registry p.removal e with
  | live =>
      obtain ⟨hsame, htaken⟩ := turn_of_live h hsound hfound fun v hv hheld =>
        hvisit v e.key hv hheld
      rw [turn_live visit hfound, turn_live visit' hfound, ← hsame]
      refine ⟨rfl, ?_⟩
      cases hrun : visit e.key ((w.hold e.key).record (.invoking p e.key)) with
      | mk result v =>
          rw [hrun] at htaken
          cases result with
          | ok answer => exact htaken _ fun t ht => by rw [← Except.ok.inj ht]
          | error x => exact htaken _ fun t ht => by simp at ht
  | unregistered =>
      rw [turn_unregistered visit hfound, turn_unregistered visit' hfound]
      exact ⟨rfl, turn_of_not_live h hsound hfound (by simp [Moment.opens?, Moment.turn?])
        (.skip p e h.own h.due hfound)⟩
  | dropped =>
      rw [turn_dropped visit hfound, turn_dropped visit' hfound]
      exact ⟨rfl, turn_of_not_live h hsound hfound (by simp [Moment.opens?, Moment.turn?])
        (.miss p e h.own h.due hfound)⟩

/-- The whole walk, by one turn after the other. -/
theorem walk_tracks (hsound : origin.Sound) (hvisit : VisitsTrack origin visit visit')
    (slots : Snapshot) (h : Underway origin w p slots) :
    walk p visit slots w = walk p visit' slots w ∧ Evolves origin w (walk p visit slots w).2 ∧
      origin.Settles (walk p visit slots w).2 := by
  induction slots generalizing w with
  | nil => exact ⟨rfl, .refl, h.settles⟩
  | cons e rest ih =>
      obtain ⟨hsame, htaken⟩ := turn_taken h hsound hvisit
      rw [walk_cons_apply, walk_cons_apply, ← hsame]
      cases hrun : turn p visit e w with
      | mk result v =>
          rw [hrun] at htaken
          cases result with
          | error x => exact ⟨rfl, htaken.evolves, htaken.underway.settles⟩
          | ok t =>
              obtain ⟨hrest, hevolves, hsettles⟩ := ih htaken.underway
              dsimp only
              rw [← hrest]
              exact ⟨rfl, Relation.ReflTransGen.trans htaken.evolves hevolves, hsettles⟩

/-! ## From the snapshot on -/

/-- The pass that is started next. -/
def infoOf (registry issuer : Owner) (t : Thread) (dispatcher : Dispatcher) (kind : Kind)
    (depth : Nat) (w : World) : PassInfo :=
  ⟨w.passes, t, issuer, registry, dispatcher.document, kind, depth, dispatcher.removal⟩

/-- The entries that a pass over the registry freezes. -/
def snapshotOf (w : World) (registry : Owner) : Snapshot :=
  ((w.registry registry).prune w.isAlive).entries

theorem keys_snapshotOf (w : World) (registry : Owner) :
    (snapshotOf w registry).map (·.key) = w.keys registry :=
  Registry.keys_prune

/-- The end of a pass, by whatever way its walk ended. -/
def leave (p : PassInfo) :
    Except Unwind (Report × List Verdict) × World → Except Unwind (Report × List Verdict) × World
  | (.ok (r, answers), v) =>
    (.ok (r, answers), (v.record (.passFinished p r)).record (.passLeft p))
  | (.error x, v) => (.error x, v.record (.passLeft p))

/-- The last entries of a span: only a pass that was not unwound reports. -/
def closing (p : PassInfo) : Except Unwind (Report × List Verdict) → List Moment
  | .ok (r, _) => [.passFinished p r, .passLeft p]
  | .error _ => [.passLeft p]

theorem leave_fst {outcome : Except Unwind (Report × List Verdict) × World} :
    (leave p outcome).1 = outcome.1 := by
  obtain ⟨result, v⟩ := outcome
  cases result <;> rfl

theorem past_leave (p : PassInfo) (result : Except Unwind (Report × List Verdict)) (v : World) :
    (leave p (result, v)).2.past = (closing p result).reverse ++ v.past := by
  cases result <;> rfl

theorem passLeft_mem_closing (p : PassInfo) (result : Except Unwind (Report × List Verdict)) :
    .passLeft p ∈ closing p result := by
  cases result <;> simp [closing]

theorem start_apply {registry issuer : Owner} {t : Thread} {dispatcher : Dispatcher} {kind : Kind}
    {depth : Nat} (visit : Name → Run (Option Verdict)) {w : World}
    (hp : p = infoOf registry issuer t dispatcher kind depth w) :
    start registry issuer t dispatcher kind depth visit w =
      leave p (walk p visit (snapshotOf w registry) (w.enterPass p)) := by
  subst hp
  have hpasses : (w.prune registry).passes = w.passes := passes_updateRegistry w registry _
  have hslots : ((w.prune registry).registry registry).entries = snapshotOf w registry := by
    rw [registry_prune, if_pos rfl]
    rfl
  simp only [start, run, Run.note, Run.bind_apply, Run.read_apply, Run.change_apply,
    Run.ensuring_apply, infoOf, enterPass, hpasses, hslots]
  cases walk _ visit (snapshotOf w registry) _ with
  | mk result v =>
      cases result <;> rfl

/-- A pass that has just taken its snapshot has all slots before it. -/
theorem enterPass_underway (hsound : w.Sound) (hhosts : w.Hosts p.registry)
    (hserial : p.serial = w.passes) :
    Underway w (w.enterPass p) p (snapshotOf w p.registry) := by
  have henter : Change w w (w.enterPass p) := .enterPass p hhosts hserial
  have hopens : (Moment.passEntered p (w.keys p.registry)).opens? p.serial =
      some (p, w.keys p.registry) := by
    simp [Moment.opens?]
  have hregistry : (w.enterPass p).registry p.registry =
      (w.registry p.registry).prune w.isAlive := by
    rw [registry_enterPass, if_pos rfl]
  have hslots : (w.enterPass p).inFlight = w.inFlight := inFlight_updateRegistry w p.registry _
  refine ⟨.of_change henter hslots, hserial.ge, ?_, ?_, ?_⟩
  · rw [passes_enterPass]
    omega
  · intro e he
    have hlive : w.isAlive e.key = true := (List.mem_filter.mp he).2
    refine ⟨henter.move.hosts hhosts, henter.move.known (contains_of_isAlive hlive), ?_⟩
    rw [hregistry]
    refine .of_mem ((hsound.registry _).prune _) he ?_
    rw [past_enterPass, Journal.since_cons_of_opens hopens]
    exact List.not_mem_nil
  · rw [past_enterPass, Journal.opening?_cons_of_opens hopens, Journal.visitedKeys,
      Journal.turns_cons_of_opens hopens, keys_snapshotOf]
    rfl

theorem start_tracks {registry issuer : Owner} {t : Thread} {dispatcher : Dispatcher} {kind : Kind}
    {depth : Nat} (hsound : w.Sound) (hhosts : w.Hosts registry)
    (hvisit : VisitsTrack w visit visit') :
    Run.Tracks w (start registry issuer t dispatcher kind depth visit)
      (start registry issuer t dispatcher kind depth visit') := by
  obtain ⟨hsame, -, hsettles⟩ := walk_tracks hsound hvisit _
    (enterPass_underway (p := infoOf registry issuer t dispatcher kind depth w) hsound hhosts rfl)
  have hremark : ∀ {v : World} {m : Moment}, w.Settles v → m.isRemark = true →
      w.Settles (v.record m) :=
    fun hv hm => hv.trans (.of_change (.remark _ hm) rfl)
  have hleave : ∀ {p : PassInfo} {outcome : Except Unwind (Report × List Verdict) × World},
      w.Settles outcome.2 → w.Settles (leave p outcome).2 := by
    intro p outcome houtcome
    match outcome with
    | (.ok (r, answers), v) => exact hremark (hremark houtcome rfl) rfl
    | (.error x, v) => exact hremark houtcome rfl
  refine ⟨?_, ?_⟩
  · rw [start_apply visit rfl, start_apply visit' rfl]
    exact congrArg (leave _) hsame
  · rw [start_apply visit rfl]
    exact hleave hsettles

end Pass

end ChangeNotice
