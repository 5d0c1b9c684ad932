import ChangeNotice.Proofs.PassExact

/-! # What skipped slots are counted as

A pass that honours removals counts the slots that it passes over in two numbers.
An entry that has left the registry counts as unregistered. Most entries leave by a
removal; but the entry of a dead observer also leaves when the registry is pruned,
and then its slot counts as unregistered although nobody has removed the observer.
So the number of dropped observers is short by the slots that were pruned before
their turn, and by the observers that are still held after their owner let go.
-/

namespace ChangeNotice

open World

namespace Pass

variable {w w' : World} {p : PassInfo} {visit : Name → Run (Option Verdict)} {e : Entry}
  {slots : Snapshot} {r : Report}

/-- The observer has been removed from the registry of the pass since the snapshot. -/
def removed (p : PassInfo) (v : World) (e : Entry) : Bool :=
  decide (Moment.unregistered p.registry e.key ∈ Journal.since p.serial v.past)

/-- The owner of the observer has let go, and nobody has removed the observer. -/
def disowned (p : PassInfo) (v : World) (e : Entry) : Bool :=
  !removed p v e && !v.isOwned e.key

/-- So it is, but a call still holds the observer. -/
def outlived (p : PassInfo) (v : World) (e : Entry) : Bool :=
  disowned p v e && v.isAlive e.key

/-- So it is, and the observer is dead. -/
def dead (p : PassInfo) (v : World) (e : Entry) : Bool :=
  disowned p v e && !v.isAlive e.key

/-- So it is, and the registry has been pruned since the observer died. -/
def pruned (p : PassInfo) (v : World) (e : Entry) : Bool :=
  dead p v e && !(v.registry p.registry).isCurrent e

/-- How many slots are in this condition at their turns. -/
def tally (p : PassInfo) (visit : Name → Run (Option Verdict)) (slots : Snapshot) (w : World)
    (q : PassInfo → World → Entry → Bool) : Nat :=
  slots.zipIdx.countP fun slot => q p (stage p visit slots w slot.2) slot.1

/-- Where each slot counts once on both sides, the numbers of slots agree. -/
theorem countP_eq_add {α : Type} {l : List α} {q a b : α → Bool}
    (h : ∀ x ∈ l, (q x).toNat = (a x).toNat + (b x).toNat) :
    l.countP q = l.countP a + l.countP b := by
  induction l with
  | nil => rfl
  | cons x rest ih =>
      have hx := h x List.mem_cons_self
      rw [List.countP_cons, List.countP_cons, List.countP_cons,
        ih fun y hy => h y (List.mem_cons_of_mem x hy)]
      cases hq : q x <;> cases ha : a x <;> cases hb : b x <;> simp_all <;> omega

/-- A turn is counted as what the slot was found to be. -/
theorem turn_found {found : Resolved × Option Verdict} {v : World}
    (hturn : turn p visit e w = (.ok found, v)) : found.1 = w.resolve p.registry p.removal e := by
  cases hfound : w.resolve p.registry p.removal e with
  | live =>
      rw [turn_live visit hfound] at hturn
      split at hturn
      next => rw [← Except.ok.inj (Prod.mk.inj hturn).1]
      next => simp at hturn
  | unregistered =>
      rw [turn_unregistered visit hfound] at hturn
      rw [← Except.ok.inj (Prod.mk.inj hturn).1]
  | dropped =>
      rw [turn_dropped visit hfound] at hturn
      rw [← Except.ok.inj (Prod.mk.inj hturn).1]

theorem skips_count (r : Report) (t : Resolved × Option Verdict) :
    (count r t).unregistered = r.unregistered + (decide (t.1 = .unregistered)).toNat ∧
    (count r t).dropped = r.dropped + (decide (t.1 = .dropped)).toNat := by
  obtain ⟨found, answer⟩ := t
  cases found with
  | live => cases answer <;> exact ⟨rfl, rfl⟩
  | unregistered => exact ⟨rfl, rfl⟩
  | dropped => exact ⟨rfl, rfl⟩

theorem walk_counts {answers : List Verdict}
    (hwalk : walk p visit slots w = (.ok (r, answers), w')) :
    r.unregistered = (findings p visit slots w).countP (fun turn => turn.2 = .unregistered) ∧
    r.dropped = (findings p visit slots w).countP (fun turn => turn.2 = .dropped) := by
  induction slots generalizing w w' r answers with
  | nil =>
      simp only [walk, Run.pure_apply, Prod.mk.injEq, Except.ok.injEq] at hwalk
      obtain ⟨⟨rfl, -⟩, -⟩ := hwalk
      exact ⟨rfl, rfl⟩
  | cons e rest ih =>
      rw [walk_cons] at hwalk
      simp only [Run.bind_apply] at hwalk
      cases hturn : turn p visit e w with
      | mk result v =>
          cases result with
          | error x => simp [hturn] at hwalk
          | ok found =>
              simp only [hturn] at hwalk
              cases hafter : walk p visit rest v with
              | mk result u =>
                  cases result with
                  | error x => simp [hafter] at hwalk
                  | ok told =>
                      simp only [hafter, Run.pure_apply, Prod.mk.injEq, Except.ok.injEq] at hwalk
                      obtain ⟨⟨rfl, -⟩, -⟩ := hwalk
                      obtain ⟨hunregistered, hdropped⟩ := ih hafter
                      obtain ⟨hmore, hmore'⟩ := skips_count told.1 found
                      rw [hmore, hmore', hunregistered, hdropped, findings_cons hturn,
                        List.countP_cons, List.countP_cons, turn_found hturn]
                      cases w.resolve p.registry p.removal e <;> exact ⟨rfl, rfl⟩

/-- What has become of a slot, where removals are honoured. -/
theorem resolve_of_snapshotEntry (h : w.SnapshotEntry p e) (hskip : p.removal = .skip) :
    w.resolve p.registry p.removal e =
      if removed p w e || pruned p w e then .unregistered
      else if w.isAlive e.key then .live
      else .dropped := by
  have hentry := h.entry
  simp only [World.resolve, Registry.resolve, hskip, Removal.honoured, Bool.true_and]
  by_cases hremoved : removed p w e = true
  · have hgone := hentry.gone (of_decide_eq_true hremoved)
    simp [hgone, hremoved]
  · have hstays : removed p w e = false := by simpa using hremoved
    -- An entry that nobody has removed is still there, unless it was pruned.
    rcases hentry.stands (of_decide_eq_false hstays) with hmem | ⟨hgone, hdead⟩
    · have hcurrent := Registry.isCurrent_of_mem hmem
      simp [hcurrent, hstays, pruned]
    · have howner : w.isOwned e.key = false := by
        by_contra hown
        exact hdead (isAlive_of_isOwned (by simpa using hown))
      simp [hgone, hstays, pruned, dead, disowned, hdead, howner]

/-- A slot that counts as unregistered has been removed or pruned, and not both. -/
theorem toNat_unregistered (p : PassInfo) (v : World) (e : Entry) :
    (decide ((if removed p v e || pruned p v e then Resolved.unregistered
      else if v.isAlive e.key then .live else .dropped) = .unregistered)).toNat =
      (removed p v e).toNat + (pruned p v e).toNat := by
  cases hremoved : removed p v e with
  | true => simp [pruned, dead, disowned, hremoved]
  | false => cases pruned p v e <;> cases v.isAlive e.key <;> simp

/-- A dead observer that nobody has removed counts as dropped, unless its slot has been pruned. -/
theorem toNat_dead (p : PassInfo) (v : World) (e : Entry) :
    (dead p v e).toNat =
      (decide ((if removed p v e || pruned p v e then Resolved.unregistered
        else if v.isAlive e.key then .live else .dropped) = .dropped)).toNat +
      (pruned p v e).toNat := by
  cases hremoved : removed p v e with
  | true => simp [pruned, dead, disowned, hremoved]
  | false =>
      cases halive : v.isAlive e.key with
      | true => simp [pruned, dead, halive]
      | false =>
          have howner : v.isOwned e.key = false := by
            by_contra hown
            have hlive := isAlive_of_isOwned (by simpa using hown : v.isOwned e.key = true)
            rw [halive] at hlive
            exact absurd hlive (by decide)
          have hdead : dead p v e = true := by
            simp [dead, disowned, hremoved, howner, halive]
          cases pruned p v e <;> simp [hdead]

theorem toNat_disowned (p : PassInfo) (v : World) (e : Entry) :
    (disowned p v e).toNat = (dead p v e).toNat + (outlived p v e).toNat := by
  unfold dead outlived
  cases disowned p v e <;> cases v.isAlive e.key <;> rfl

/-- A pass that honours removals and is not unwound. The slots that it counts as unregistered are
those that have been removed, and those that were pruned before their turn; it counts as dropped the
slots whose owner has let go and who have not been removed, except for those that were pruned and
those that are still held. So the two numbers are what they are called exactly if there are no such
exceptions. -/
theorem skips_attributed {registry issuer : Owner} {t : Thread} {dispatcher : Dispatcher}
    {kind : Kind} {depth : Nat} {visit : Name → Run (Option Verdict)} {w w' : World} {r : Report}
    {answers : List Verdict} (hsound : w.Sound) (hhosts : w.Hosts registry)
    (hvisit : ∀ o, Visiting o (visit o)) (hskip : dispatcher.removal = .skip)
    (hrun : start registry issuer t dispatcher kind depth visit w = (.ok (r, answers), w')) :
    let p := infoOf registry issuer t dispatcher kind depth w
    let slots := snapshotOf w registry
    let world := stage p visit slots (w.enterPass p)
    let tally := tally p visit slots (w.enterPass p)
    (∀ i e, slots[i]? = some e → (Journal.turns p.serial w'.past)[i]? =
      some (e.key,
        if removed p (world i) e || pruned p (world i) e then .unregistered
        else if (world i).isAlive e.key then .live
        else .dropped)) ∧
    r.unregistered = tally removed + tally pruned ∧
    r.dropped + tally pruned + tally outlived = tally disowned ∧
    ((r.unregistered = tally removed ∧ r.dropped = tally disowned) ↔
      tally pruned = 0 ∧ tally outlived = 0) := by
  intro p slots world tally
  obtain ⟨u, hw', hwalked⟩ := start_walked (p := p) hsound hhosts hvisit rfl hrun
  obtain ⟨_, hwalk, -⟩ := walk_of_start (p := p) rfl hrun
  have hturns : Journal.turns p.serial w'.past = findings p visit slots (w.enterPass p) := by
    have hafter := hwalked.turns
    rw [turns_enterPass, List.nil_append] at hafter
    rw [← hafter, ← turns_left u p r p.serial, ← hw']
  have hfound : ∀ i e, slots[i]? = some e → (world i).resolve p.registry p.removal e =
      if removed p (world i) e || pruned p (world i) e then .unregistered
      else if (world i).isAlive e.key then .live
      else .dropped :=
    fun i e he => resolve_of_snapshotEntry (hwalked.slot he).1 hskip
  -- Slots are counted where they have their turns.
  have hcount : ∀ found : Resolved,
      (findings p visit slots (w.enterPass p)).countP (fun turn => turn.2 = found) =
        slots.zipIdx.countP fun slot =>
          (world slot.2).resolve p.registry p.removal slot.1 = found := by
    intro found
    unfold findings
    rw [List.mapIdx_eq_zipIdx_map, List.countP_map]
    rfl
  obtain ⟨hunregistered, hdropped⟩ := walk_counts hwalk
  rw [hcount] at hunregistered hdropped
  have hleft : r.unregistered = tally removed + tally pruned := by
    rw [hunregistered]
    refine countP_eq_add fun slot hslot => ?_
    rw [hfound slot.2 slot.1 (List.mem_zipIdx_iff_getElem?.mp hslot)]
    exact toNat_unregistered p _ _
  have hdead : tally dead = r.dropped + tally pruned := by
    rw [hdropped]
    refine countP_eq_add fun slot hslot => ?_
    rw [hfound slot.2 slot.1 (List.mem_zipIdx_iff_getElem?.mp hslot)]
    exact toNat_dead p _ _
  have hlost : tally disowned = tally dead + tally outlived :=
    countP_eq_add fun slot _ => toNat_disowned p _ _
  refine ⟨?_, hleft, by omega, ?_⟩
  · intro i e he
    rw [hturns, turns_getElem? he, hfound i e he]
  · omega

/-- Four observers. The handler of the first removes the third, drops the second, registers itself
once more, which does nothing but prune the registry, and drops the fourth. -/
def mixedSkips : World :=
  (Session.runFrom 3 none .empty
    [.perform none (.createDocument "d" {}),
      .createRecorder none "a" false .proceed
        [⟨.beginLoad, none, some 1,
          [.perform none (.unregister (.document none) "y"), .perform none (.drop "x"),
            .perform none (.register (.document none) "a"), .perform none (.drop "z")], 0⟩],
      .perform none (.createQuiet "x" false), .perform none (.createQuiet "y" false),
      .perform none (.createQuiet "z" false),
      .perform none (.register (.document none) "a"),
      .perform none (.register (.document none) "x"),
      .perform none (.register (.document none) "y"),
      .perform none (.register (.document none) "z")]).2

def mixedSkipsVisit : Name → Run (Option Verdict) :=
  Notify.deliver (Scenario.respond 3) 0 "d" (.event .beginLoad)

/-- The pass in which this happens. -/
def mixedSkipsPass : Except Unwind (Report × List Verdict) × World :=
  start (.document "d") (.document "d") 0 (mixedSkips.document "d").dispatcher .beginLoad 1
    mixedSkipsVisit mixedSkips

theorem mixedSkipsPass_eq :
    start (.document "d") (.document "d") 0 (mixedSkips.document "d").dispatcher .beginLoad 1
      mixedSkipsVisit mixedSkips = mixedSkipsPass := rfl

/-- How many of its slots are in this condition at their turns. -/
def mixedSkipsTally : (PassInfo → World → Entry → Bool) → Nat :=
  let p :=
    infoOf (.document "d") (.document "d") 0 (mixedSkips.document "d").dispatcher .beginLoad 1
    mixedSkips
  tally p mixedSkipsVisit (snapshotOf mixedSkips (.document "d")) (mixedSkips.enterPass p)

/-- Two slots count as unregistered and one as dropped. -/
theorem skips_attributed_mixed :
    mixedSkipsPass.1 = .ok (⟨1, 2, 1, 0⟩, [.proceed]) ∧
    2 = mixedSkipsTally removed + mixedSkipsTally pruned ∧
    1 + mixedSkipsTally pruned + mixedSkipsTally outlived = mixedSkipsTally disowned := by
  have hreached : Reached mixedSkips := Session.runFrom_reached 3 none _ .start
  have hhosts : mixedSkips.Hosts (.document "d") := by
    unfold World.Hosts
    decide +kernel
  have hskip : (mixedSkips.document "d").dispatcher.removal = .skip := by decide +kernel
  have hresult : mixedSkipsPass.1 = .ok (⟨1, 2, 1, 0⟩, [.proceed]) := by decide +kernel
  have hrun : mixedSkipsPass = (.ok (⟨1, 2, 1, 0⟩, [.proceed]), mixedSkipsPass.2) := by
    rw [← hresult]
  have hskips := skips_attributed hreached.sound hhosts
    (fun o => .deliver (Scenario.respond_client 3) 0 "d" (.event .beginLoad)) hskip
    (mixedSkipsPass_eq.trans hrun)
  exact ⟨hresult, hskips.2.1, hskips.2.2.1⟩

/-- One observer has been removed and two have been dropped by their owners. The one of them whose
slot was pruned counts as unregistered. -/
theorem dropped_counts_as_unregistered :
    mixedSkipsPass.1 = .ok (⟨1, 2, 1, 0⟩, [.proceed]) ∧
    mixedSkipsTally removed = 1 ∧ mixedSkipsTally disowned = 2 ∧ mixedSkipsTally pruned = 1 := by
  refine ⟨?_, ?_, ?_, ?_⟩
  · decide +kernel
  · decide +kernel
  · decide +kernel
  · decide +kernel

end Pass

end ChangeNotice
