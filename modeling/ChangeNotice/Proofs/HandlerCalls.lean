import ChangeNotice.Proofs.SlotTurns
import ChangeNotice.Proofs.EndUpdate

/-! # Whose handlers a notification calls

A notification that gets a slot prepares its document and then lets one pass run. The
turns of this pass tell whose handlers are called for the notification and in what
order; the journal and the report of the pass tell the same.
-/

namespace ChangeNotice

open World

/-- No observer is registered twice. -/
theorem World.Sound.nodup_keys {w : World} (h : w.Sound) (owner : Owner) :
    (w.keys owner).Nodup := by
  rw [← Pass.keys_snapshotOf]
  exact ((h.registry owner).prune _).keys

namespace Notify

/-- Where a notification has taken its slot and prepared its document. -/
def prepared (t : Thread) (d : Name) (n : Notice) (w : World) : World :=
  (w.takeSlot d t n ((w.document d).dispatcher.take t)).prepare d n

/-- The pass of the notification. -/
def passOf (t : Thread) (d : Name) (n : Notice) (w : World) : PassInfo :=
  Pass.infoOf (.document d) (.document d) t ((w.document d).dispatcher.take t) n.kind
    (w.inFlight d t + 1) (prepared t d n w)

/-- How the pass ends. -/
def passed (handle : Handlers) (t : Thread) (d : Name) (n : Notice) (w : World) :
    Except Unwind (Report × List Verdict) × World :=
  announce handle t d n (w.inFlight d t + 1) (prepared t d n w)

/-- The slots that have their turns in the pass. -/
def slotTurns (handle : Handlers) (t : Thread) (d : Name) (n : Notice) (w : World) :
    List SlotTurn :=
  Pass.slotTurns (passOf t d n w) (deliver handle t d n)
    (Pass.snapshotOf (prepared t d n w) (.document d))
    ((prepared t d n w).enterPass (passOf t d n w))

/-- The slots whose handlers the pass calls. -/
def handledTurns (handle : Handlers) (t : Thread) (d : Name) (n : Notice) (w : World) :
    List SlotTurn :=
  (slotTurns handle t d n w).filter (·.isHandled (passOf t d n w) n)

/-- The notification finds a slot, and all handlers that its pass calls return. -/
def Completes (handle : Handlers) (t : Thread) (d : Name) (n : Notice) (w : World) : Prop :=
  (w.document d).dispatcher.isFull t = false ∧
    ∀ s ∈ handledTurns handle t d n w, ∃ v, s.answer (passOf t d n w) t d n handle = .ok v

variable {α : Type} {handle : Handlers} {t : Thread} {d : Name} {n : Notice} {w : World}

theorem prepared_actsOn (t : Thread) (d : Name) (n : Notice) (w : World) :
    ActsOn d w (prepared t d n w) :=
  accept_actsOn w d t n _

theorem dispatcher_prepared :
    ((prepared t d n w).document d).dispatcher = (w.document d).dispatcher.take t := by
  rw [prepared, dispatcher_prepare]
  simp [takeSlot]

/-- The pass is the next one to be started. -/
@[simp]
theorem serial_passOf : (passOf t d n w).serial = w.passes :=
  (prepared_actsOn t d n w).passes

/-- A scope is open before anybody hears of it. -/
theorem scope_prepared_opening {m : UpdateMask} :
    (prepared t d (.event (.beginUpdate m)) w).scope (.document d) =
      (w.scope (.document d)).enter m := by
  simp [prepared, prepare, World.openScope, setScope, takeSlot, World.scope]

/-- A scope is not closed before all have heard of it. -/
theorem scope_prepared_closing {m : UpdateMask} :
    (prepared t d (.event (.endUpdate m)) w).scope (.document d) = w.scope (.document d) := by
  simp [prepared, prepare, takeSlot, World.scope]

theorem keys_prepared : (prepared t d n w).keys (.document d) = w.keys (.document d) := by
  have hacts := prepared_actsOn t d n w
  have halive : (prepared t d n w).isAlive = w.isAlive := hacts.isAlive
  rw [World.keys, hacts.registry_eq, halive]
  rfl

theorem passed_eq : passed handle t d n w =
    Pass.leave (passOf t d n w) (Pass.walk (passOf t d n w) (deliver handle t d n)
      (Pass.snapshotOf (prepared t d n w) (.document d))
      ((prepared t d n w).enterPass (passOf t d n w))) := by
  simp only [passed, announce, Run.bind_apply, Run.read_apply]
  rw [dispatcher_prepared]
  exact Pass.start_apply _ rfl

/-- The pass goes through its turns and leaves. -/
theorem takesTurns_of_passed (handle : Handlers) (t : Thread) (d : Name) (n : Notice) (w : World) :
    ∃ outcome, passed handle t d n w = Pass.leave (passOf t d n w) outcome ∧
      Pass.TakesTurns (passOf t d n w) (deliver handle t d n)
        (Pass.snapshotOf (prepared t d n w) (.document d))
        ((prepared t d n w).enterPass (passOf t d n w)) (slotTurns handle t d n w) outcome :=
  ⟨_, passed_eq, Pass.walk_takesTurns _ _ _ _⟩

end Notify

namespace Pass

variable {p : PassInfo} {outcome : Except Unwind (Report × List Verdict) × World}

theorem ownCalls_enterPass (w : World) (p : PassInfo) :
    Journal.ownCalls p.serial (w.enterPass p).past = [] := by
  rw [past_enterPass]
  exact Journal.ownCalls_cons_of_opens (if_pos rfl)

theorem ownCalls_leave (serial : Nat) :
    Journal.ownCalls serial (leave p outcome).2.past = Journal.ownCalls serial outcome.2.past := by
  obtain ⟨result, v⟩ := outcome
  cases result with
  | ok told =>
      refine (Journal.ownCalls_cons rfl (by simp)).trans ?_
      exact Journal.ownCalls_cons rfl (by simp)
  | error x => exact Journal.ownCalls_cons rfl (by simp)

theorem scope_leave (owner : Owner) : (leave p outcome).2.scope owner = outcome.2.scope owner := by
  obtain ⟨result, v⟩ := outcome
  cases result <;> cases owner <;> rfl

end Pass

namespace Notify

variable {α : Type} {handle : Handlers} {t : Thread} {d : Name} {n : Notice} {w : World}

/-- The pass returns exactly if all handlers that it calls do. -/
theorem passed_returns_iff : (∃ told, (passed handle t d n w).1 = .ok told) ↔
    ∀ s ∈ handledTurns handle t d n w, ∃ v, s.answer (passOf t d n w) t d n handle = .ok v := by
  obtain ⟨outcome, hpassed, hturns⟩ := takesTurns_of_passed handle t d n w
  rw [hpassed, Pass.leave_fst]
  exact hturns.returns_iff

theorem completes_iff (hroom : (w.document d).dispatcher.isFull t = false) :
    Completes handle t d n w ↔ ∃ told, (passed handle t d n w).1 = .ok told := by
  rw [passed_returns_iff]
  exact and_iff_right hroom

theorem unwound_of_passed {x : Unwind} (h : (passed handle t d n w).1 = .error x) :
    ∃ s ∈ handledTurns handle t d n w, s.answer (passOf t d n w) t d n handle = .error x := by
  obtain ⟨outcome, hpassed, hturns⟩ := takesTurns_of_passed handle t d n w
  rw [hpassed, Pass.leave_fst] at h
  exact hturns.unwound h

/-- A pass that returns reports what became of its slots, and the answers of those that were
asked. -/
theorem told_of_passed {r : Report} {answers : List Verdict}
    (h : (passed handle t d n w).1 = .ok (r, answers)) :
    r = SlotTurn.reportOf (passOf t d n w) n (slotTurns handle t d n w) ∧
      (handledTurns handle t d n w).map (·.answer (passOf t d n w) t d n handle) =
        answers.map .ok := by
  obtain ⟨outcome, hpassed, hturns⟩ := takesTurns_of_passed handle t d n w
  rw [hpassed, Pass.leave_fst] at h
  exact hturns.told h

/-- The slots are those of the observers that were registered, in order. -/
theorem keys_slotTurns : (slotTurns handle t d n w).map (·.entry.key) <+: w.keys (.document d) ∧
    ((∃ told, (passed handle t d n w).1 = .ok told) →
      (slotTurns handle t d n w).map (·.entry.key) = w.keys (.document d)) := by
  obtain ⟨outcome, hpassed, hturns⟩ := takesTurns_of_passed handle t d n w
  obtain ⟨hsome, hall⟩ := hturns.entries
  have hkeys : (Pass.snapshotOf (prepared t d n w) (.document d)).map (·.key) =
      w.keys (.document d) := by
    rw [Pass.keys_snapshotOf, keys_prepared]
  have hmap : (slotTurns handle t d n w).map (·.entry.key) =
      ((slotTurns handle t d n w).map (·.entry)).map (·.key) := by
    rw [List.map_map]
    rfl
  rw [hmap, ← hkeys, hpassed, Pass.leave_fst]
  refine ⟨hsome.map _, ?_⟩
  rintro ⟨told, htold⟩
  rw [hall told htold]

section SlotTurns

theorem leads_prepared (hroom : (w.document d).dispatcher.isFull t = false) :
    w.Leads (prepared t d n w) :=
  (accept_reaches (Dispatcher.enter?_of_room hroom)).leads

variable (hsound : w.Sound) (hdocument : w.documents.contains d = true)
  (hroom : (w.document d).dispatcher.isFull t = false) (hhandle : handle.Client)

include hsound hdocument hroom

theorem underway_prepared :
    Pass.Underway (prepared t d n w) ((prepared t d n w).enterPass (passOf t d n w))
      (passOf t d n w) (Pass.snapshotOf (prepared t d n w) (.document d)) := by
  have hhosts : (prepared t d n w).Hosts (.document d) :=
    (prepared_actsOn t d n w).contains d hdocument
  exact Pass.enterPass_underway (p := passOf t d n w)
    (Evolves.sound (leads_prepared hroom) hsound) hhosts rfl

include hhandle

/-- Each turn comes in a world that the call leads to. -/
theorem underway_slotTurns {s : SlotTurn} (hs : s ∈ slotTurns handle t d n w) : ∃ rest,
    Pass.Underway (prepared t d n w) s.world (passOf t d n w) (s.entry :: rest) := by
  have hprepared := Evolves.sound (leads_prepared (n := n) hroom) hsound
  obtain ⟨outcome, -, hturns⟩ := takesTurns_of_passed handle t d n w
  have hvisit := visitsTrack_of_visiting hprepared
    fun o => Visiting.deliver (o := o) hhandle t d n
  exact hturns.underway hprepared hvisit (underway_prepared hsound hdocument hroom) s hs

/-- A slot is invoked exactly if its observer is alive at its turn and has not been removed, or if
removals are not honoured. -/
theorem found_live_iff {s : SlotTurn} (hs : s ∈ slotTurns handle t d n w) :
    s.found (passOf t d n w) = .live ↔ s.world.isAlive s.entry.key = true ∧
      ((w.document d).dispatcher.removal = .deliver ∨
        .unregistered (.document d) s.entry.key ∉ Journal.since w.passes s.world.past) := by
  obtain ⟨rest, hunderway⟩ := underway_slotTurns hsound hdocument hroom hhandle hs
  have hlive := (hunderway.snapshotEntry s.entry List.mem_cons_self).resolve_live_iff
  rw [serial_passOf] at hlive
  exact hlive

/-- The journal shows the calls of those who hear of the notification, in order, and no others. -/
theorem ownCalls_passed : Journal.ownCalls w.passes (passed handle t d n w).2.past =
    (handledTurns handle t d n w).map (·.call t d n) := by
  have hprepared := Evolves.sound (leads_prepared (n := n) hroom) hsound
  obtain ⟨outcome, hpassed, hturns⟩ := takesTurns_of_passed handle t d n w
  have hcalls := hturns.ownCalls hprepared hhandle (underway_prepared hsound hdocument hroom)
  rw [Pass.ownCalls_enterPass, List.nil_append, serial_passOf] at hcalls
  rw [hpassed, Pass.ownCalls_leave, hcalls]
  rfl

end SlotTurns

/-! ## What a call makes of its pass -/

theorem ownCalls_released (serial : Nat) (outcome : α × World) :
    Journal.ownCalls serial (released t d outcome).2.past =
      Journal.ownCalls serial outcome.2.past :=
  Journal.ownCalls_cons rfl (by simp)

/-- A call that finds no scope to close never returns well. -/
theorem violation_map_ne {β : Type} (u : World) (d : Name) (m : UpdateMask) (f : α → β) (b : β) :
    (violation d m u : Except Unwind (Except NotifyError α) × World).1.map (Except.map f) ≠
      .ok (.ok b) := by
  have hnone := (violation_past (α := α) u d m).1
  intro h
  match hresult : (violation d m u : Except Unwind (Except NotifyError α) × World).1, h with
  | .ok (.ok told), h => exact hnone told hresult

section Room

variable (hroom : (w.document d).dispatcher.isFull t = false)

include hroom

/-- A call whose slot is there and that only answers when its pass is over. -/
theorem withSlot_passed {body : Nat → Run (Except NotifyError α)}
    {answer : Report × List Verdict → Run (Except NotifyError α)}
    (hbody : body (w.inFlight d t + 1) (w.takeSlot d t n ((w.document d).dispatcher.take t)) =
      (announce handle t d n (w.inFlight d t + 1) >>= answer) (prepared t d n w)) :
    withSlot t d n body w = released t d (match passed handle t d n w with
      | (.error x, u) => (.error x, u)
      | (.ok told, u) => answer told u) := by
  have hslot : (w.document d).dispatcher.enter? t =
      some (w.inFlight d t + 1, (w.document d).dispatcher.take t) :=
    Dispatcher.enter?_of_room hroom
  rw [withSlot_taken hslot, hbody, Run.bind_apply, ← passed]
  cases passed handle t d n w with
  | mk result u => cases result <;> rfl

theorem openScope_passed (m : UpdateMask) :
    openScope handle t d m w =
      released t d (match passed handle t d (.event (.beginUpdate m)) w with
        | (.error x, u) => (.error x, u)
        | (.ok told, u) => (.ok (.ok ((w.scope (.document d)).enter m, told.1)), u)) := by
  refine withSlot_passed hroom ?_
  rw [← scope_prepared_opening]
  rfl

theorem closeScope_passed {m : UpdateMask} (hopen : (w.scope (.document d)).depth ≠ 0) :
    closeScope handle t d m w =
      released t d (match passed handle t d (.event (.endUpdate m)) w with
        | (.error x, u) => (.error x, u)
        | (.ok told, u) =>
          match (u.scope (.document d)).leave m with
          | .error _ => violation d m u
          | .ok s => (.ok (.ok (s, told.1)), u.closeScope (.document d) m s)) := by
  have hpass : closingPass handle t d m w = passed handle t d (.event (.endUpdate m)) w := by
    simp only [passed, announce, Run.bind_apply, Run.read_apply]
    rw [dispatcher_prepared]
    rfl
  rw [closeScope_opened hroom hopen, hpass]
  cases passed handle t d (.event (.endUpdate m)) w with
  | mk result u => cases result <;> rfl

theorem queryScript_passed (content : ContentId) (parser : ParserId) :
    queryScript handle t d content parser w =
      released t d (match passed handle t d (.script content parser) w with
        | (.error x, u) => (.error x, u)
        | (.ok told, u) => (.ok (.ok (Verdict.ofAnswers told.2)),
          if (Verdict.ofAnswers told.2).isBlocked then
            u.record (.scriptBlocked d (u.document d).id content)
          else u)) := by
  refine (withSlot_passed hroom rfl).trans (congrArg _ ?_)
  cases passed handle t d (.script content parser) w with
  | mk result u =>
      cases result with
      | error x => rfl
      | ok told =>
          simp only
          cases (Verdict.ofAnswers told.2).isBlocked <;> rfl

/-- What a call does after its pass concerns no pass. -/
theorem ownCalls_openScope (m : UpdateMask) (serial : Nat) :
    Journal.ownCalls serial (openScope handle t d m w).2.past =
      Journal.ownCalls serial (passed handle t d (.event (.beginUpdate m)) w).2.past := by
  rw [openScope_passed hroom, ownCalls_released]
  cases passed handle t d (.event (.beginUpdate m)) w with
  | mk result u => cases result <;> rfl

theorem ownCalls_closeScope {m : UpdateMask} (hopen : (w.scope (.document d)).depth ≠ 0)
    (serial : Nat) : Journal.ownCalls serial (closeScope handle t d m w).2.past =
      Journal.ownCalls serial (passed handle t d (.event (.endUpdate m)) w).2.past := by
  rw [closeScope_passed hroom hopen, ownCalls_released]
  cases passed handle t d (.event (.endUpdate m)) w with
  | mk result u =>
      cases result with
      | error x => rfl
      | ok told =>
          cases hleave : (u.scope (.document d)).leave m with
          | error e =>
              simp only [hleave]
              rw [(violation_past u d m).2]
              exact Journal.ownCalls_cons rfl (by simp)
          | ok s =>
              simp only [hleave, World.closeScope, setScope, past_record, past_updateDocument]
              rw [Journal.ownCalls_cons rfl (by simp)]
              split
              · rfl
              · exact Journal.ownCalls_cons rfl (by simp)

theorem ownCalls_queryScript (content : ContentId) (parser : ParserId) (serial : Nat) :
    Journal.ownCalls serial (queryScript handle t d content parser w).2.past =
      Journal.ownCalls serial (passed handle t d (.script content parser) w).2.past := by
  rw [queryScript_passed hroom, ownCalls_released]
  cases passed handle t d (.script content parser) w with
  | mk result u =>
      cases result with
      | error x => rfl
      | ok told =>
          simp only
          split
          · exact Journal.ownCalls_cons rfl (by simp)
          · rfl

end Room

end Notify

end ChangeNotice
