import ChangeNotice.Proofs.Client

/-! # What a pass does, exactly

A pass that is not unwound gives every observer that was registered at its start
one turn, in order, and invokes an observer exactly if it is alive at its turn and
its removal, if any, is not honoured. What the handlers do in between decides who
is alive and who has been removed, and nothing else.
-/

namespace ChangeNotice

open World

namespace Pass

variable {origin w w' : World} {p : PassInfo} {visit : Name → Run (Option Verdict)} {e : Entry}
  {rest slots : Snapshot} {r : Report}

/-- The world in which a slot has its turn: what the slots before it lead to. -/
def stage (p : PassInfo) (visit : Name → Run (Option Verdict)) (slots : Snapshot) (w : World)
    (i : Nat) : World :=
  (walk p visit (slots.take i) w).2

/-- What becomes of every slot at its turn. -/
def findings (p : PassInfo) (visit : Name → Run (Option Verdict)) (slots : Snapshot) (w : World) :
    List (Name × Resolved) :=
  slots.mapIdx fun i e => (e.key, (stage p visit slots w i).resolve p.registry p.removal e)

theorem stage_zero : stage p visit slots w 0 = w := rfl

/-- The slots after the first have their turns in the worlds that its turn leads to. -/
theorem stage_succ {found : Resolved × Option Verdict} {v : World}
    (hturn : turn p visit e w = (.ok found, v)) (i : Nat) :
    stage p visit (e :: rest) w (i + 1) = stage p visit rest v i := by
  unfold stage
  rw [List.take_succ_cons, walk_cons]
  simp only [Run.bind_apply, hturn]
  cases hwalk : walk p visit (rest.take i) v with
  | mk result u => cases result <;> rfl

theorem findings_cons {found : Resolved × Option Verdict} {v : World}
    (hturn : turn p visit e w = (.ok found, v)) :
    findings p visit (e :: rest) w =
      (e.key, w.resolve p.registry p.removal e) :: findings p visit rest v := by
  unfold findings
  rw [List.mapIdx_cons]
  congr 1
  simp only [stage_succ hturn]

@[simp]
theorem length_findings : (findings p visit slots w).length = slots.length := by
  simp [findings]

theorem keys_findings : (findings p visit slots w).map Prod.fst = slots.map (·.key) := by
  apply List.ext_getElem
  · simp
  · intro i hi hi'
    simp [findings]

/-- The slots that were found alive. -/
def liveTurns (turns : List (Name × Resolved)) : List (Name × Resolved) :=
  turns.filter fun turn => turn.2 = .live

theorem visited_count (r : Report) (t : Resolved × Option Verdict) :
    (count r t).visited = r.visited + 1 := by
  obtain ⟨found, answer⟩ := t
  cases found with
  | live => cases answer <;> simp only [count, Report.countVisit, Report.visited] <;> omega
  | unregistered => simp only [count, Report.visited]; omega
  | dropped => simp only [count, Report.visited]; omega

theorem live_count (r : Report) (t : Resolved × Option Verdict) :
    (count r t).delivered + (count r t).unsupported =
      r.delivered + r.unsupported + if t.1 = .live then 1 else 0 := by
  obtain ⟨found, answer⟩ := t
  cases found with
  | live => cases answer <;> simp [count, Report.countVisit] <;> omega
  | unregistered => simp [count]
  | dropped => simp [count]

/-- The account of a walk that was not unwound. -/
structure Walked (origin w : World) (p : PassInfo) (visit : Name → Run (Option Verdict))
    (slots : Snapshot) (r : Report) (w' : World) : Prop where
  turns : Journal.turns p.serial w'.past =
    Journal.turns p.serial w.past ++ findings p visit slots w
  visited : r.visited = slots.length
  live : r.delivered + r.unsupported = (liveTurns (findings p visit slots w)).length
  evolves : Evolves origin w w'
  stages : ∀ i ≤ slots.length, Underway origin (stage p visit slots w i) p (slots.drop i) ∧
    Evolves origin (stage p visit slots w i) w' ∧
    Journal.turns p.serial (stage p visit slots w i).past =
      Journal.turns p.serial w.past ++ (findings p visit slots w).take i
  steps : ∀ i e, slots[i]? = some e →
    stage p visit slots w (i + 1) = (turn p visit e (stage p visit slots w i)).2
  ends : stage p visit slots w slots.length = w'

theorem Walked.nil (h : Underway origin w p []) : Walked origin w p visit [] .empty w where
  turns := (List.append_nil _).symm
  visited := rfl
  live := rfl
  evolves := .refl
  stages := by
    intro i hi
    have hzero : i = 0 := Nat.le_zero.mp hi
    subst hzero
    exact ⟨h, .refl, (List.append_nil _).symm⟩
  steps := by simp
  ends := rfl

theorem Walked.cons {found : Resolved × Option Verdict} {v : World}
    (h : Underway origin w p (e :: rest)) (hturn : turn p visit e w = (.ok found, v))
    (htaken : TurnTaken origin w p e rest (.ok found, v))
    (hrest : Walked origin v p visit rest r w') :
    Walked origin w p visit (e :: rest) (count r found) w' := by
  have hfound : found.1 = w.resolve p.registry p.removal e := htaken.found found rfl
  have hturns : Journal.turns p.serial v.past =
      Journal.turns p.serial w.past ++ [(e.key, w.resolve p.registry p.removal e)] := htaken.turns
  refine ⟨?_, ?_, ?_, htaken.evolves.trans hrest.evolves, ?_, ?_, ?_⟩
  · rw [hrest.turns, hturns, findings_cons hturn, List.append_assoc]
    rfl
  · rw [visited_count, hrest.visited]
    rfl
  · rw [live_count, hrest.live, findings_cons hturn, hfound]
    cases w.resolve p.registry p.removal e <;> simp [liveTurns]
  · intro i hi
    cases i with
    | zero =>
        refine ⟨h, htaken.evolves.trans hrest.evolves, ?_⟩
        rw [stage_zero, List.take_zero, List.append_nil]
    | succ i =>
        obtain ⟨hunderway, hevolves, hstage⟩ := hrest.stages i (Nat.le_of_succ_le_succ hi)
        rw [stage_succ hturn, findings_cons hturn]
        refine ⟨hunderway, hevolves, ?_⟩
        rw [hstage, hturns, List.append_assoc]
        rfl
  · intro i e' he'
    rw [stage_succ hturn]
    cases i with
    | zero =>
        have heq : e = e' := Option.some.inj he'
        subst heq
        rw [stage_zero, stage_zero, hturn]
    | succ i =>
        rw [stage_succ hturn]
        exact hrest.steps i e' he'
  · rw [List.length_cons, stage_succ hturn, hrest.ends]

/-- One turn after the other, a walk that is not unwound comes to its end. -/
theorem walk_walked (hsound : origin.Sound) (hvisit : VisitsTrack origin visit visit)
    (slots : Snapshot) (h : Underway origin w p slots) {answers : List Verdict}
    (hwalk : walk p visit slots w = (.ok (r, answers), w')) :
    Walked origin w p visit slots r w' := by
  induction slots generalizing w r answers with
  | nil =>
      simp only [walk, Run.pure_apply, Prod.mk.injEq, Except.ok.injEq] at hwalk
      obtain ⟨⟨rfl, -⟩, rfl⟩ := hwalk
      exact .nil h
  | cons e rest ih =>
      obtain ⟨-, htaken⟩ := turn_taken h hsound hvisit
      rw [walk_cons] at hwalk
      simp only [Run.bind_apply] at hwalk
      cases hturn : turn p visit e w with
      | mk result v =>
          rw [hturn] at htaken
          cases result with
          | error x => simp [hturn] at hwalk
          | ok found =>
              simp only [hturn] at hwalk
              cases hafter : walk p visit rest v with
              | mk result u =>
                  cases result with
                  | error x => simp [hafter] at hwalk
                  | ok told =>
                      simp only [hafter, Run.pure_apply, Prod.mk.injEq, Except.ok.injEq] at hwalk
                      obtain ⟨⟨rfl, -⟩, rfl⟩ := hwalk
                      exact .cons h hturn htaken (ih htaken.underway hafter)

/-- After the turn of a slot nothing has happened but its visit, if it was found alive. -/
theorem turn_leaves (visit : Name → Run (Option Verdict)) :
    (w.resolve p.registry p.removal e = .live → (turn p visit e w).2 =
      (visit e.key ((w.hold e.key).record (.invoking p e.key))).2.unhold e.key) ∧
    (w.resolve p.registry p.removal e ≠ .live → ∃ m, (turn p visit e w).2 = w.record m) := by
  cases hfound : w.resolve p.registry p.removal e with
  | live =>
      refine ⟨fun _ => ?_, fun hnot => absurd rfl hnot⟩
      rw [turn_live visit hfound]
      cases visit e.key ((w.hold e.key).record (.invoking p e.key)) with
      | mk result v => cases result <;> rfl
  | unregistered =>
      refine ⟨fun hlive => absurd hlive (by decide), fun _ => ⟨.skipping p e.key, ?_⟩⟩
      rw [turn_unregistered visit hfound]
  | dropped =>
      refine ⟨fun hlive => absurd hlive (by decide), fun _ => ⟨.missing p e.key, ?_⟩⟩
      rw [turn_dropped visit hfound]

theorem turns_enterPass (w : World) (p : PassInfo) :
    Journal.turns p.serial (w.enterPass p).past = [] := by
  have hopens : (Moment.passEntered p (w.keys p.registry)).opens? p.serial =
      some (p, w.keys p.registry) := by
    simp [Moment.opens?]
  rw [past_enterPass, Journal.turns_cons_of_opens hopens]

theorem turns_left (w : World) (p : PassInfo) (r : Report) (serial : Nat) :
    Journal.turns serial ((w.record (.passFinished p r)).record (.passLeft p)).past =
      Journal.turns serial w.past :=
  (Journal.silent_append [.passLeft p, .passFinished p r]
    (by simp [Moment.SilentOn, Moment.opens?, Moment.turn?])).1

theorem turns_getElem? {i : Nat} (he : slots[i]? = some e) :
    (findings p visit slots w)[i]? =
      some (e.key, (stage p visit slots w i).resolve p.registry p.removal e) := by
  simp [findings, he]

/-- The entry of a slot is kept track of until its turn, and by then the slots before it have had
theirs. -/
theorem Walked.slot {slots : Snapshot} {r : Report} {i : Nat}
    (h : Walked origin w p visit slots r w') (he : slots[i]? = some e) :
    (stage p visit slots w i).SnapshotEntry p e ∧
      Journal.turns p.serial (stage p visit slots w i).past =
        Journal.turns p.serial w.past ++ (findings p visit slots w).take i := by
  obtain ⟨hi, hget⟩ := List.getElem?_eq_some_iff.mp he
  obtain ⟨hunderway, -, hturns⟩ := h.stages i hi.le
  refine ⟨hunderway.snapshotEntry e ?_, hturns⟩
  rw [List.drop_eq_getElem_cons hi, hget]
  exact List.mem_cons_self

/-- A pass that returns has walked its snapshot and returns what the walk does. -/
theorem walk_of_start {registry issuer : Owner} {t : Thread} {dispatcher : Dispatcher} {kind : Kind}
    {depth : Nat} {answers : List Verdict}
    (hp : p = infoOf registry issuer t dispatcher kind depth w)
    (hrun : start registry issuer t dispatcher kind depth visit w = (.ok (r, answers), w')) :
    ∃ u, walk p visit (snapshotOf w registry) (w.enterPass p) = (.ok (r, answers), u) ∧
      w' = (u.record (.passFinished p r)).record (.passLeft p) := by
  rw [start_apply visit hp] at hrun
  cases hwalk : walk p visit (snapshotOf w registry) (w.enterPass p) with
  | mk result u =>
      rw [hwalk] at hrun
      cases result with
      | error x => simp [leave] at hrun
      | ok told =>
          simp only [leave, Prod.mk.injEq, Except.ok.injEq] at hrun
          obtain ⟨⟨rfl, rfl⟩, rfl⟩ := hrun
          exact ⟨u, rfl, rfl⟩

/-- A pass that returns has walked its whole snapshot. -/
theorem start_walked {registry issuer : Owner} {t : Thread} {dispatcher : Dispatcher} {kind : Kind}
    {depth : Nat} {answers : List Verdict} (hsound : w.Sound) (hhosts : w.Hosts registry)
    (hvisit : ∀ o, Visiting o (visit o)) (hp : p = infoOf registry issuer t dispatcher kind depth w)
    (hrun : start registry issuer t dispatcher kind depth visit w = (.ok (r, answers), w')) :
    ∃ u, w' = (u.record (.passFinished p r)).record (.passLeft p) ∧
      Walked w (w.enterPass p) p visit (snapshotOf w registry) r u := by
  obtain ⟨u, hwalk, hw'⟩ := walk_of_start hp hrun
  have hunderway : Underway w (w.enterPass p) p (snapshotOf w registry) := by
    subst hp
    exact enterPass_underway hsound hhosts rfl
  exact ⟨u, hw', walk_walked hsound (visitsTrack_of_visiting hsound hvisit) _ hunderway hwalk⟩

/-- A pass over a registry whose handlers do whatever clients can do. If it is not unwound, every
observer that was registered and alive has one turn, in order; `world i` is where slot `i` has it.
It is invoked exactly if it is then alive and either removals are not honoured or it has not been
removed from this registry since the snapshot. -/
theorem start_exact {registry issuer : Owner} {t : Thread} {dispatcher : Dispatcher} {kind : Kind}
    {depth : Nat} {visit : Name → Run (Option Verdict)} {w w' : World} {r : Report}
    {answers : List Verdict} (hsound : w.Sound) (hhosts : w.Hosts registry)
    (hvisit : ∀ o, Visiting o (visit o))
    (hrun : start registry issuer t dispatcher kind depth visit w = (.ok (r, answers), w')) :
    let p := infoOf registry issuer t dispatcher kind depth w
    let keys := w.keys registry
    let world := stage p visit (snapshotOf w registry) (w.enterPass p)
    let turns := Journal.turns p.serial w'.past
    let invoked := Journal.invokedKeys p.serial w'.past
    (world 0 = w.enterPass p ∧
      w' = ((world keys.length).record (.passFinished p r)).record (.passLeft p)) ∧
    turns.map Prod.fst = keys ∧
    (∀ i key, keys[i]? = some key →
      (turns[i]? = some (key, .live) ↔ (world i).isAlive key = true ∧
        (dispatcher.removal = .deliver ∨
          .unregistered registry key ∉ Journal.since p.serial (world i).past)) ∧
      Journal.turns p.serial (world i).past = turns.take i ∧
      (turns[i]? = some (key, .live) → world (i + 1) =
        (visit key (((world i).hold key).record (.invoking p key))).2.unhold key) ∧
      (turns[i]? ≠ some (key, .live) → ∃ m, world (i + 1) = (world i).record m)) ∧
    (invoked.Sublist keys ∧ invoked.Nodup) ∧
    r.visited = keys.length ∧ r.delivered + r.unsupported = invoked.length := by
  intro p keys world turns invoked
  obtain ⟨u, hw', hwalked⟩ := start_walked (p := p) hsound hhosts hvisit rfl hrun
  have hkeys : (snapshotOf w registry).map (·.key) = keys := keys_snapshotOf w registry
  have hlength : (snapshotOf w registry).length = keys.length := by
    rw [← hkeys, List.length_map]
  have hturns : turns = findings p visit (snapshotOf w registry) (w.enterPass p) := by
    have hafter := hwalked.turns
    rw [turns_enterPass, List.nil_append] at hafter
    rw [← hafter, ← turns_left u p r p.serial, ← hw']
  have hfirst : turns.map Prod.fst = keys := by
    rw [hturns, keys_findings, hkeys]
  have hinvoked : invoked.Sublist keys := by
    rw [← hfirst]
    exact List.Sublist.map _ List.filter_sublist
  have hnodup : keys.Nodup := by
    rw [← hkeys]
    exact ((hsound.registry registry).prune _).keys
  refine ⟨⟨rfl, ?_⟩, hfirst, ?_, ⟨hinvoked, hnodup.sublist hinvoked⟩, ?_, ?_⟩
  · rw [hw', ← hwalked.ends, hlength]
  · intro i key hkey
    rw [← hkeys, List.getElem?_map, Option.map_eq_some_iff] at hkey
    obtain ⟨e, he, rfl⟩ := hkey
    obtain ⟨hentry, hstage⟩ := hwalked.slot he
    have hlive : turns[i]? = some (e.key, .live) ↔
        (world i).resolve p.registry p.removal e = .live := by
      rw [hturns, turns_getElem? he]
      simp [world]
    have hleaves := turn_leaves (w := world i) (p := p) (e := e) visit
    rw [hlive, ne_eq, hlive]
    have hstep : world (i + 1) = (turn p visit e (world i)).2 := hwalked.steps i e he
    refine ⟨hentry.resolve_live_iff, ?_, ?_, ?_⟩
    · rw [turns_enterPass, List.nil_append, ← hturns] at hstage
      exact hstage
    · rw [hstep]
      exact hleaves.1
    · rw [hstep]
      exact hleaves.2
  · rw [hwalked.visited, hlength]
  · rw [hwalked.live, ← hturns]
    exact (List.length_map _).symm

/-- Four observers. The handler of the first removes the second, removes the third and registers it
again, registers a fifth, announces the event once more and drops the fourth. -/
def intrusion : List Step :=
  [.perform none (.createDocument "d" {}),
    .createRecorder none "a" false .proceed
      [⟨.beginLoad, none, some 1,
        [.perform none (.unregister (.document none) "b"),
          .perform none (.unregister (.document none) "c"),
          .perform none (.register (.document none) "c"),
          .perform none (.register (.document none) "f"),
          .perform none (.notify none .beginLoad),
          .perform none (.drop "e")], 0⟩],
    .perform none (.createQuiet "b" false), .perform none (.createQuiet "c" false),
    .perform none (.createQuiet "e" false), .perform none (.createQuiet "f" false),
    .perform none (.register (.document none) "a"), .perform none (.register (.document none) "b"),
    .perform none (.register (.document none) "c"), .perform none (.register (.document none) "e")]

def intruded : World := (Session.runFrom 3 none .empty intrusion).2

/-- The pass that is intruded upon. -/
def intrudedPass : Except Unwind (Report × List Verdict) × World :=
  start (.document "d") (.document "d") 0 (intruded.document "d").dispatcher .beginLoad 1
    (Notify.deliver (Scenario.respond 3) 0 "d" (.event .beginLoad)) intruded

theorem intrudedPass_eq :
    start (.document "d") (.document "d") 0 (intruded.document "d").dispatcher .beginLoad 1
      (Notify.deliver (Scenario.respond 3) 0 "d" (.event .beginLoad)) intruded = intrudedPass := rfl

/-- The third observer is passed over although it is registered again at its turn. -/
theorem start_exact_intruded :
    intruded.Sound ∧ intruded.Hosts (.document "d") ∧
    intrudedPass.1 = .ok (⟨1, 2, 1, 0⟩, [.proceed]) ∧
    (Journal.turns intruded.passes intrudedPass.2.past).map Prod.fst = ["a", "b", "c", "e"] ∧
    Journal.invokedKeys intruded.passes intrudedPass.2.past = ["a"] := by
  have hreached : Reached intruded := Session.runFrom_reached 3 none intrusion .start
  have hhosts : intruded.Hosts (.document "d") := by
    unfold World.Hosts
    decide +kernel
  have hresult : intrudedPass.1 = .ok (⟨1, 2, 1, 0⟩, [.proceed]) := by decide +kernel
  have hkeys : intruded.keys (.document "d") = ["a", "b", "c", "e"] := by decide +kernel
  have hrun : intrudedPass = (.ok (⟨1, 2, 1, 0⟩, [.proceed]), intrudedPass.2) := by
    rw [← hresult]
  have hexact := start_exact hreached.sound hhosts
    (fun o => .deliver (Scenario.respond_client 3) 0 "d" (.event .beginLoad))
    (intrudedPass_eq.trans hrun)
  refine ⟨hreached.sound, hhosts, hresult, hexact.2.1.trans hkeys, ?_⟩
  decide +kernel

end Pass

end ChangeNotice
