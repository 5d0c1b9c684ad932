import ChangeNotice.Proofs.CallStack
import ChangeNotice.Proofs.Refusal
import ChangeNotice.Proofs.ScopeAccount

/-! # Closing a scope, from the call to its return

A call to close a scope looks at the counter twice: before its observers hear of it, and
after. Between the two looks the handlers may open and close scopes as they like, so that
the second look can find what the first did not. Here is said what the call returns and
leaves behind in every case. A call that finds no scope to close at either look leaves the
counter idle, because a document that has no open scope has gathered nothing.
-/

namespace ChangeNotice

open World

variable {floor w w' : World} {d : Name}

/-! ## What no call changes -/

theorem World.violation_updateRegistry (w : World) (d : Name) (owner : Owner)
    (change : Registry → Registry) :
    ((w.updateRegistry owner change).document d).violation = (w.document d).violation := by
  cases owner with
  | document d' => by_cases h : d = d' <;> simp [updateRegistry, h]
  | standalone number => rfl

theorem World.violation_prepare (w : World) (d : Name) (n : Notice) :
    ((w.prepare d n).document d).violation = (w.document d).violation := by
  unfold prepare
  split
  · simp [openScope, setScope]
  · split <;> simp [setLoad]
  · split <;> simp [setLoad]
  · rfl

/-- What is done to one document leaves the others alone. -/
theorem World.ActsOn.violation_eq {d₁ : Name} (h : ActsOn d₁ w w')
    (hsame : (w'.document d₁).violation = (w.document d₁).violation) (d : Name) :
    (w'.document d).violation = (w.document d).violation := by
  by_cases heq : d = d₁
  · rw [heq, hsame]
  · rw [h.elsewhere d heq]

/-- How a document answers a closing without an opening is settled when it is made. -/
theorem Change.violation_eq (h : Change floor w w') (hd : w.documents.contains d = true) :
    (w'.document d).violation = (w.document d).violation := by
  cases h with
  | accept d₁ t n depth left hleft =>
      refine (accept_actsOn w d₁ t n left).violation_eq ?_ d
      rw [violation_prepare]
      simp [World.takeSlot]
  | release d₁ t hown =>
      exact (releaseSlot_actsOn w d₁ t).violation_eq (by simp [World.releaseSlot]) d
  | close d₁ m s hs =>
      refine (closeScope_actsOn w d₁ m s).violation_eq ?_ d
      simp only [World.closeScope, setScope, document_record, document_updateDocument, if_pos]
      split <;> rfl
  | prune owner hhosts => exact violation_updateRegistry w d owner _
  | enterPass p hhosts hserial => exact violation_updateRegistry w d p.registry _
  | unhold o hown => rw [document_unhold]
  | disown o hown => rw [document_disown]
  | register owner key hhosts hown =>
      unfold World.register
      simp only
      split <;> exact violation_updateRegistry w d owner _
  | unregister owner key hhosts =>
      unfold World.unregister
      split
      · exact violation_updateRegistry w d owner _
      · rfl
  | createDocument name id config hnew =>
      have hne : d ≠ name := by
        rintro rfl
        simp [hnew] at hd
      simp [World.document, hne]
  | _ => rfl

theorem Evolves.violation_eq (h : Evolves floor w w') (hd : w.documents.contains d = true) :
    (w'.document d).violation = (w.document d).violation := by
  induction h with
  | refl => rfl
  | @tail v _ hsteps hstep ih =>
      have hhosts : w.Hosts (.document d) := hd
      have hknown : v.documents.contains d = true := Evolves.hosts hsteps hhosts
      rw [hstep.violation_eq hknown, ih]

theorem Evolves.id_eq (h : Evolves floor w w') (hd : w.documents.contains d = true) :
    (w'.document d).id = (w.document d).id := by
  unfold Document.id
  rw [Evolves.dispatcher_eq h hd]

/-- Documents without an open scope have gathered nothing. -/
def World.Tidy (w : World) : Prop :=
  ∀ d, (w.document d).scope.depth = 0 → (w.document d).scope = .idle

theorem ScopeMove.tidy (h : ScopeMove w w') (hw : w.Tidy) : w'.Tidy := by
  intro d hidle
  cases h with
  | quiet news hpast hnews hscope =>
      rw [hscope] at hidle ⊢
      exact hw d hidle
  | called t d' o n h =>
      subst h
      exact hw d hidle
  | opens d' t m s hpast hscope helsewhere =>
      by_cases heq : d = d'
      · -- the counter may have come to its end, but then it is far from zero
        subst heq
        rw [hscope] at hidle
        simp only [ScopeState.enter, ScopeState.maxDepth, UInt32.size] at hidle
        omega
      · rw [helsewhere d heq] at hidle ⊢
        exact hw d hidle
  | closes d' m s news hpast hnews hleave hscope helsewhere =>
      by_cases heq : d = d'
      · subst heq
        obtain ⟨hopen, rfl⟩ := ScopeState.leave_eq_ok.mp hleave
        rw [hscope] at hidle ⊢
        have hlast : (w.document d).scope.depth = 1 := by
          simp only at hidle
          omega
        rw [hlast]
        rfl
      · rw [helsewhere d heq] at hidle ⊢
        exact hw d hidle

theorem Evolves.tidy (h : Evolves floor w w') (hw : w.Tidy) : w'.Tidy := by
  induction h with
  | refl => exact hw
  | tail _ hstep ih => exact hstep.scopeMove.tidy ih

theorem Reached.tidy (h : Reached w) : w.Tidy := Evolves.tidy h.leads fun _ _ => rfl

/-- Of the scopes that are open one is closed, and with the last all that was gathered is gone. -/
theorem ScopeState.leave_of_open {s : ScopeState} (h : s.depth ≠ 0) (m : UpdateMask) :
    ∃ s', s.leave m = .ok s' ∧ s'.depth + 1 = s.depth ∧
      s'.mask = if s'.depth = 0 then .empty else s.mask := by
  refine ⟨_, ScopeState.leave_eq_ok.mpr ⟨h, rfl⟩, ?_, ?_⟩
  · simp only
    omega
  · by_cases hlast : s.depth = 1
    · simp [hlast]
    · have hmore : s.depth - 1 ≠ 0 := by omega
      simp [hlast, hmore]

/-- Nothing differs but the journal, and in what order a document lists the slots that are taken. -/
structure World.Unaltered (w v : World) : Prop where
  document : ∀ d, v.document d = { w.document d with
    dispatcher := { (w.document d).dispatcher with depths := (v.document d).dispatcher.depths } }
  slots : v.inFlight = w.inFlight
  rest : v = { w with documents := v.documents, past := v.past }

/-- A slot is taken and given back, and meanwhile only the journal is written. -/
theorem World.unaltered_of_slot {t : Thread} {n : Notice} {v : World}
    (hv : v = { w.takeSlot d t n ((w.document d).dispatcher.take t) with past := v.past }) :
    w.Unaltered (v.releaseSlot d t) := by
  have hdocument : ∀ d', v.document d' =
      (w.takeSlot d t n ((w.document d).dispatcher.take t)).document d' := by
    intro d'
    rw [hv]
    rfl
  refine ⟨fun d' => ?_, ?_, ?_⟩
  · by_cases heq : d' = d
    · subst heq
      simp [releaseSlot, hdocument, takeSlot, Dispatcher.take, Dispatcher.release]
    · simp [releaseSlot, hdocument, takeSlot, heq]
  · funext d' t'
    rw [inFlight_releaseSlot]
    unfold World.inFlight
    simp only [hdocument]
    by_cases hd : d' = d <;> by_cases ht : t' = t <;>
      simp [takeSlot, Dispatcher.take, Dispatcher.inFlight, hd, ht]
  · rw [hv]
    rfl

/-! ## The call -/

namespace Notify

variable {α β : Type} {handle : Handlers} {t : Thread} {m : UpdateMask}

/-- What a document says that stops at a closing without an opening. -/
def violationMessage (id : DocumentId) (m : UpdateMask) : String :=
  "document " ++ id.text ++ ": " ++ (ScopeError.unbalanced m).message

/-- Where a call to close a scope has taken its slot. -/
def closing (t : Thread) (d : Name) (m : UpdateMask) (w : World) : World :=
  w.takeSlot d t (.event (.endUpdate m)) ((w.document d).dispatcher.take t)

/-- The pass in which the observers hear of the closing. -/
def closingPass (handle : Handlers) (t : Thread) (d : Name) (m : UpdateMask) (w : World) :
    Except Unwind (Report × List Verdict) × World :=
  Pass.start (.document d) (.document d) t ((w.document d).dispatcher.take t) .endUpdate
    (w.inFlight d t + 1) (deliver handle t d (.event (.endUpdate m))) (closing t d m w)

/-- The slot is given back, however the call ends. -/
def released (t : Thread) (d : Name) (outcome : α × World) : α × World :=
  (outcome.1, outcome.2.releaseSlot d t)

/-- A call to close a scope that finds none in `u`: the policy of the document decides how it ends,
it gives its slot back, and it leaves the counter idle. -/
structure Violates (t : Thread) (d : Name) (m : UpdateMask) (w u : World)
    (outcome : Except Unwind (Except NotifyError α) × World) : Prop where
  clamped : (w.document d).violation = .clamp →
    outcome.1 = .ok (.error (.unbalanced (w.document d).id m))
  panicked : (w.document d).violation = .panic →
    outcome.1 = .error (.panic (violationMessage (w.document d).id m))
  leaves : outcome.2 = (u.record (.unbalanced d (w.document d).id m)).releaseSlot d t
  idle : outcome.2.scope (.document d) = .idle

/-- How a call to close a scope goes that finds a slot. `told` is what it tells of the new state and
of the report of its pass. -/
structure Ends (handle : Handlers) (t : Thread) (d : Name) (m : UpdateMask) (w : World)
    (told : ScopeState × Report → α) (outcome : Except Unwind (Except NotifyError α) × World) :
    Prop where
  /-- No scope is open: no pass is started, and nothing changes. -/
  unopened : (w.scope (.document d)).depth = 0 →
    Violates t d m w (closing t d m w) outcome ∧ w.Unaltered outcome.2 ∧
    outcome.2.past = .released d t :: .unbalanced d (w.document d).id m ::
      .admitted d t (.event (.endUpdate m)) :: w.past
  /-- A scope is open: one pass is run, in which the closing is delivered to the observers, and no
  other is started after it. -/
  opened : (w.scope (.document d)).depth ≠ 0 →
    ∃ result u, closingPass handle t d m w = (result, u) ∧ outcome.2.passes = u.passes ∧
      (∀ x, result = .error x → outcome = (.error x, u.releaseSlot d t)) ∧
      ∀ r answers, result = .ok (r, answers) →
        -- the handlers have closed all scopes: there is none left for the call
        ((u.scope (.document d)).depth = 0 → Violates t d m w u outcome) ∧
        -- else one is left, whatever it was opened for
        ((u.scope (.document d)).depth ≠ 0 →
          ∃ s, outcome =
              (.ok (.ok (told (s, r))), (u.closeScope (.document d) m s).releaseSlot d t) ∧
            outcome.2.scope (.document d) = s ∧ s.depth + 1 = (u.scope (.document d)).depth ∧
            s.mask = if s.depth = 0 then .empty else (u.scope (.document d)).mask)

theorem violation_violates {u : World}
    (hpolicy : (u.document d).violation = (w.document d).violation)
    (hid : (u.document d).id = (w.document d).id) (hidle : u.scope (.document d) = .idle) :
    Violates t d m w u
      (released t d (violation d m u : Except Unwind (Except NotifyError α) × World)) := by
  have hleft : ((u.record (.unbalanced d (w.document d).id m)).releaseSlot d t).scope
      (.document d) = .idle := by
    rw [← hidle]
    simp [releaseSlot, World.scope]
  simp only [released, violation, Run.note, Run.bind_apply, Run.read_apply, Run.change_apply]
  rw [hpolicy, hid]
  cases hclamp : (w.document d).violation with
  | panic => exact ⟨fun h => by simp [hclamp] at h, fun _ => rfl, rfl, hleft⟩
  | clamp => exact ⟨fun _ => rfl, fun h => by simp [hclamp] at h, rfl, hleft⟩

/-- What is told of a call that ended well makes no difference to how it goes. -/
theorem Ends.map {told : ScopeState × Report → α} {run : Run (Except NotifyError α)}
    (h : Ends handle t d m w told (run w)) (f : α → β) :
    Ends handle t d m w (f ∘ told) ((do return (← run).map f : Run (Except NotifyError β)) w) := by
  have hrun : (do return (← run).map f : Run (Except NotifyError β)) w =
      ((run w).1.map (Except.map f), (run w).2) := by
    rw [Run.bind_apply]
    cases run w with
    | mk result v => cases result <;> rfl
  have hviolates : ∀ u, Violates t d m w u (run w) →
      Violates t d m w u ((run w).1.map (Except.map f), (run w).2) := by
    intro u hu
    refine ⟨fun hclamp => ?_, fun hpanic => ?_, hu.leaves, hu.idle⟩
    · rw [hu.clamped hclamp]
      rfl
    · rw [hu.panicked hpanic]
      rfl
  rw [hrun]
  refine ⟨fun hidle => ?_, fun hopen => ?_⟩
  · obtain ⟨hviolation, hrest⟩ := h.unopened hidle
    exact ⟨hviolates _ hviolation, hrest⟩
  · obtain ⟨result, u, hpass, hpasses, hunwound, hreturned⟩ := h.opened hopen
    refine ⟨result, u, hpass, hpasses, fun x hx => ?_, fun r answers hr => ?_⟩
    · rw [hunwound x hx]
      rfl
    · obtain ⟨hnone, hleft⟩ := hreturned r answers hr
      refine ⟨fun hzero => hviolates u (hnone hzero), fun hsome => ?_⟩
      obtain ⟨s, houtcome, hscope, hdepth, hmask⟩ := hleft hsome
      refine ⟨s, ?_, hscope, hdepth, hmask⟩
      rw [houtcome]
      rfl

section Looks

variable (hroom : (w.document d).dispatcher.isFull t = false)

include hroom

/-- The first look finds no scope. -/
theorem closeScope_unopened (hidle : (w.scope (.document d)).depth = 0) :
    closeScope handle t d m w = released t d (violation d m (closing t d m w)) := by
  have hcheck : ((closing t d m w).scope (.document d)).check m = .error (.unbalanced m) := by
    refine if_pos ?_
    simpa [closing, takeSlot, World.scope] using hidle
  rw [closeScope, withSlot_taken (Dispatcher.enter?_of_room hroom), ← closing, Run.bind_apply,
    Run.read_apply]
  simp only [hcheck]
  rfl

/-- The first look finds a scope, so the pass is run. -/
theorem closeScope_opened (hopen : (w.scope (.document d)).depth ≠ 0) :
    closeScope handle t d m w = released t d (match closingPass handle t d m w with
      | (.error x, u) => (.error x, u)
      | (.ok (r, _), u) =>
        match (u.scope (.document d)).leave m with
        | .error _ => violation d m u
        | .ok s => (.ok (.ok (s, r)), u.closeScope (.document d) m s)) := by
  have hcheck : ((closing t d m w).scope (.document d)).check m = .ok () := by
    refine if_neg ?_
    simpa [closing, takeSlot, World.scope] using hopen
  have hannounce : announce handle t d (.event (.endUpdate m))
      ((w.document d).dispatcher.inFlight t + 1) (closing t d m w) =
        closingPass handle t d m w := by
    simp only [announce, Run.bind_apply, Run.read_apply, closingPass, closing]
    simp [takeSlot, Notice.kind, Event.kind, World.inFlight]
  rw [closeScope, withSlot_taken (Dispatcher.enter?_of_room hroom), ← closing, Run.bind_apply,
    Run.read_apply]
  simp only [hcheck, Run.bind_apply, hannounce]
  cases closingPass handle t d m w with
  | mk result u =>
      cases result with
      | error x => rfl
      | ok told =>
          simp only [Run.read_apply]
          cases (u.scope (.document d)).leave m <;> rfl

end Looks

theorem closeScope_ends (hw : Reached w) (hhandle : handle.Client)
    (hdocument : w.documents.contains d = true)
    (hroom : (w.document d).dispatcher.isFull t = false) (m : UpdateMask) :
    Ends handle t d m w id (closeScope handle t d m w) := by
  have hreaches : w.Reaches (slotOf d t) (closing t d m w) :=
    accept_reaches (n := .event (.endUpdate m)) (Dispatcher.enter?_of_room hroom)
  -- wherever the call gets to, the document is as it was made, and tidy
  have hviolates : ∀ u : World, w.Leads u → (u.scope (.document d)).depth = 0 →
      Violates t d m w u
        (released t d (violation d m u :
          Except Unwind (Except NotifyError (ScopeState × Report)) × World)) := by
    intro u hu hidle
    exact violation_violates (Evolves.violation_eq hu hdocument) (Evolves.id_eq hu hdocument)
      (Evolves.tidy hu hw.tidy d hidle)
  refine ⟨fun hidle => ?_, fun hopen => ?_⟩
  · have hviolation := hviolates (closing t d m w) hreaches.leads
      (by simpa [closing, takeSlot, World.scope] using hidle)
    rw [closeScope_unopened hroom hidle]
    refine ⟨hviolation, ?_, ?_⟩
    · rw [hviolation.leaves]
      exact unaltered_of_slot rfl
    · rw [hviolation.leaves]
      rfl
  · have hleads : w.Leads (closingPass handle t d m w).2 := by
      have hsound := Evolves.sound hreaches.leads hw.sound
      have hhosts : (closing t d m w).Hosts (.document d) :=
        (takeSlot_actsOn w d t _ _).contains d hdocument
      exact hreaches.leads.trans (Pass.start_tracks hsound hhosts fun v o hv hheld =>
        deliver_tracks ((hhandle.track hsound).settled hv) _ hheld).leads
    rw [closeScope_opened hroom hopen]
    cases hpass : closingPass handle t d m w with
    | mk result u =>
        rw [hpass] at hleads
        cases result with
        | error x =>
            refine ⟨.error x, u, rfl, rfl, fun y hy => ?_, fun r answers hr => by simp at hr⟩
            rw [Except.error.injEq] at hy
            rw [← hy]
            rfl
        | ok told =>
            obtain ⟨r, answers⟩ := told
            by_cases hidle : (u.scope (.document d)).depth = 0
            · have hleave : (u.scope (.document d)).leave m = .error (.unbalanced m) := by
                simp [ScopeState.leave, ScopeState.check, hidle, bind, Except.bind]
              have hviolation := hviolates u hleads hidle
              simp only [hleave]
              refine ⟨.ok (r, answers), u, rfl, ?_, fun y hy => by simp at hy, fun r' answers' _ =>
                ⟨fun _ => hviolation, fun hleft => absurd hidle hleft⟩⟩
              rw [hviolation.leaves]
              rfl
            · obtain ⟨s, hleave, hdepth, hmask⟩ := ScopeState.leave_of_open hidle m
              simp only [hleave]
              refine ⟨.ok (r, answers), u, rfl, (closeScope_actsOn u d m s).passes,
                fun y hy => by simp at hy, fun r' answers' hr =>
                  ⟨fun hnone => absurd hnone hidle, fun _ => ⟨s, ?_, ?_, hdepth, hmask⟩⟩⟩
              · obtain ⟨rfl, rfl⟩ : r = r' ∧ answers = answers' := by simpa using hr
                rfl
              · simp [released, releaseSlot, World.scope, World.closeScope, setScope]

/-- A call to close a scope that gets a slot, be it by the method of its own or by that for all
events. Where no scope is open it starts no pass and alters nothing. Else it runs one pass, and
looks again when the handlers are done: where they have closed all scopes it fails as if none had
been open, and else it closes one. The counter forgets what it has gathered exactly when the last
scope is closed, whatever the call names as closed. -/
theorem end_update_exact (hw : Reached w) (hhandle : handle.Client)
    (hdocument : w.documents.contains d = true)
    (hroom : (w.document d).dispatcher.isFull t = false) (m : UpdateMask) :
    Ends handle t d m w Prod.fst (endUpdate handle t d m w) ∧
    Ends handle t d m w Prod.snd (notify handle t d (.endUpdate m) w) := by
  have hends := closeScope_ends hw hhandle hdocument hroom m
  exact ⟨hends.map Prod.fst, hends.map Prod.snd⟩

end Notify

/-- One scope is open, and an observer closes it when it hears of the closing. -/
def overclosed : World :=
  (Session.runFrom 3 none .empty
    [.perform none (.createDocument "d" { violation := .clamp }),
      .createRecorder none "a" false .proceed
        [⟨.endUpdate, none, some 1, [.perform none (.endUpdate none .style)], 0⟩],
      .perform none (.register (.document none) "a"),
      .perform none (.beginUpdate none .contentModel)]).2

/-- The observer leaves no scope for the call that it hears of: the call fails, and the counter is
idle. -/
theorem end_update_exact_overclosed :
    (overclosed.scope (.document "d")).depth = 1 ∧
    (Notify.endUpdate (Scenario.respond 3) 0 "d" .contentModel overclosed).1 =
      .ok (.error (.unbalanced (overclosed.document "d").id .contentModel)) ∧
    (Notify.endUpdate (Scenario.respond 3) 0 "d" .contentModel overclosed).2.scope (.document "d") =
      .idle := by
  have hreached : Reached overclosed := Session.runFrom_reached 3 none _ .start
  have hopen : (overclosed.scope (.document "d")).depth = 1 := by decide +kernel
  have hends := (Notify.end_update_exact (t := 0) hreached (Scenario.respond_client 3)
    (by decide +kernel : overclosed.documents.contains "d" = true) (by decide +kernel)
    .contentModel).1
  obtain ⟨result, u, hpass, -, -, hreturned⟩ := hends.opened (by rw [hopen]; decide)
  have hreturns : (Notify.closingPass (Scenario.respond 3) 0 "d" .contentModel overclosed).1.isOk =
      true := by decide +kernel
  have hsecond : ((Notify.closingPass (Scenario.respond 3) 0 "d" .contentModel overclosed).2.scope
      (.document "d")).depth = 0 := by decide +kernel
  rw [hpass] at hreturns hsecond
  cases result with
  | error x => exact absurd hreturns (by simp [Except.isOk, Except.toBool])
  | ok told =>
      have hviolates := (hreturned told.1 told.2 rfl).1 hsecond
      exact ⟨hopen, hviolates.clamped (by decide +kernel), hviolates.idle⟩

end ChangeNotice
