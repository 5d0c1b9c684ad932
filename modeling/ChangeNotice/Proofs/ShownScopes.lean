import ChangeNotice.Proofs.HandlerCalls
import ChangeNotice.Proofs.MaskLaws

/-! # What handlers are shown of update scopes

A scope is opened before its observers hear of it, and closed after. So the handlers of
one pass are all shown the same number of open scopes, provided that each of them closes
what it opens and nothing else; and what they are shown of the gathered kinds of change
can only grow from one to the next. What the two calls return is stated last. Opening
returns the state that it has made itself, closing the state that it leaves.
-/

namespace ChangeNotice

open World

/-- Below its limit the counter counts. -/
theorem ScopeState.enter_of_lt {s : ScopeState} (h : s.depth + 1 < 2 ^ 32) (m : UpdateMask) :
    s.enter m = ⟨s.depth + 1, s.mask ||| m⟩ := by
  have hmin : min (s.depth + 1) maxDepth = s.depth + 1 := by
    simp only [maxDepth, UInt32.size]
    omega
  rw [enter, hmin]

/-- The same number of scopes is open, and nothing that was gathered is gone. -/
structure ScopeState.Broadens (s s' : ScopeState) : Prop where
  depth : s'.depth = s.depth
  mask : s'.mask.contains s.mask = true

namespace ScopeState.Broadens

variable {s s' s'' : ScopeState}

theorem refl (s : ScopeState) : Broadens s s := ⟨rfl, UpdateMask.contains_refl s.mask⟩

theorem trans (h : Broadens s s') (h' : Broadens s' s'') : Broadens s s'' :=
  ⟨h'.depth.trans h.depth, UpdateMask.contains_trans h.mask h'.mask⟩

end ScopeState.Broadens

/-- A scope of the document is closed, which leaves fewer open than this. -/
def Moment.closesBelow (d : Name) (depth : Nat) : Moment → Bool
  | scopeClosed (.document d') s => d' = d && s.depth < depth
  | _ => false

/-- While the run lasts, no scope of the document is closed that was open before it, and if it
returns, all that were opened meanwhile are closed. -/
structure Run.BalancedOn {α : Type} (m : Run α) (d : Name) (w : World) : Prop where
  keeps : ∀ moment ∈ (m w).2.since w.past.length,
    moment.closesBelow d (w.scope (.document d)).depth = false
  restores : (m w).1.isOk = true →
    ((m w).2.scope (.document d)).depth = (w.scope (.document d)).depth

instance {α : Type} (m : Run α) (d : Name) (w : World) : Decidable (m.BalancedOn d w) :=
  decidable_of_iff (_ ∧ _) ⟨fun h => ⟨h.1, h.2⟩, fun h => ⟨h.keeps, h.restores⟩⟩

/-! ## What one change can do to a mask -/

section Masks

variable {floor w w' : World} {d : Name} {news : List Moment}

/-- What is gathered goes only with the last open scope. -/
theorem ScopeMove.mask_grows (h : ScopeMove w w') (hpast : w'.past = news ++ w.past)
    (hkeeps : ∀ s, .scopeClosed (.document d) s ∈ news → s.depth ≠ 0) :
    (w'.document d).scope.mask.contains (w.document d).scope.mask = true := by
  cases h with
  | quiet _ _ _ hscope =>
      rw [hscope d]
      exact UpdateMask.contains_refl _
  | called t d' o n h =>
      subst h
      exact UpdateMask.contains_refl _
  | opens d' t m s _ hscope helsewhere =>
      by_cases heq : d = d'
      · subst heq
        rw [hscope]
        exact UpdateMask.contains_or_left _ m
      · rw [helsewhere d heq]
        exact UpdateMask.contains_refl _
  | closes d' m s more hmore _ hleave hscope helsewhere =>
      by_cases heq : d = d'
      · subst heq
        obtain ⟨-, rfl⟩ := ScopeState.leave_eq_ok.mp hleave
        have hnews : news = .scopeClosed (.document d) _ :: more :=
          List.append_cancel_right (hpast.symm.trans hmore)
        have hleft : (w.document d).scope.depth ≠ 1 := by
          have hdepth := hkeeps _ (hnews ▸ List.mem_cons_self)
          simp only at hdepth
          omega
        rw [hscope]
        simp only [if_neg hleft]
        exact UpdateMask.contains_refl _
      · rw [helsewhere d heq]
        exact UpdateMask.contains_refl _

theorem Evolves.mask_grows (h : Evolves floor w w') (hpast : w'.past = news ++ w.past)
    (hkeeps : ∀ s, .scopeClosed (.document d) s ∈ news → s.depth ≠ 0)
    (hfloor : floor.passes ≤ w.passes) :
    (w'.document d).scope.mask.contains (w.document d).scope.mask = true := by
  induction h generalizing news with
  | refl => exact UpdateMask.contains_refl _
  | @tail v w' hsteps hstep ih =>
      -- the journal has grown up to the last change and once more with it
      obtain ⟨earlier, hearlier, -⟩ := Evolves.news hsteps hfloor
      obtain ⟨later, hlater, -⟩ := hstep.move.news (hfloor.trans (Evolves.passes_le hsteps))
      have hnews : news = later ++ earlier := by
        refine List.append_cancel_right (hpast.symm.trans ?_)
        rw [hlater, hearlier, List.append_assoc]
      subst hnews
      have hbefore := ih hearlier fun s hs => hkeeps s (List.mem_append_right later hs)
      have hlast := hstep.scopeMove.mask_grows (d := d) hlater
        fun s hs => hkeeps s (List.mem_append_left earlier hs)
      exact UpdateMask.contains_trans hbefore hlast

end Masks

/-! ## From one turn to the next -/

namespace SlotTurn

variable {origin : World} {rest : Snapshot} {handle : Handlers} {p : PassInfo} {t : Thread}
  {d : Name} {n : Notice} {s : SlotTurn}

/-- A handler that is balanced leaves as many scopes open as it has found, and with them all that
was gathered. -/
theorem handler_broadens (hsound : origin.Sound) (hhandle : handle.Client)
    (hs : Pass.Underway origin s.world p (s.entry :: rest)) (hsupported : s.isHandled p n = true)
    (hbalanced : (handle t d s.entry.key n).BalancedOn d (s.entrance p t d n))
    (hopen : (s.world.scope (.document d)).depth ≠ 0) {v : Verdict} {u : World}
    (hcall : handle t d s.entry.key n (s.entrance p t d n) = (.ok v, u)) :
    (s.world.scope (.document d)).Broadens (u.scope (.document d)) := by
  have hleads := handler_leads (t := t) (d := d) hsound hhandle hs hsupported
  obtain ⟨news, hpast, -⟩ := Evolves.news hleads le_rfl
  have hrestores := hbalanced.restores
  have hkeeps := hbalanced.keeps
  rw [hcall] at hleads hpast hrestores hkeeps
  rw [World.since_of_past hpast] at hkeeps
  have hlasting : ∀ s', .scopeClosed (.document d) s' ∈ news → s'.depth ≠ 0 := by
    intro s' hs' hzero
    have habove := hkeeps _ (List.mem_reverse.mpr hs')
    simp only [Moment.closesBelow, decide_true, Bool.true_and, decide_eq_false_iff_not,
      not_lt, hzero] at habove
    exact hopen (Nat.le_zero.mp habove)
  have hgrows := Evolves.mask_grows hleads hpast hlasting le_rfl
  exact ⟨hrestores rfl, hgrows⟩

theorem Turn.broadens (hsound : origin.Sound) (hhandle : handle.Client)
    (hs : Pass.Underway origin s.world p (s.entry :: rest))
    (hbalanced : s.isHandled p n = true →
      (handle t d s.entry.key n).BalancedOn d (s.entrance p t d n))
    (hopen : (s.world.scope (.document d)).depth ≠ 0) {found : Resolved × Option Verdict}
    {v : World} (h : s.Turn handle p t d n (.ok found, v)) :
    (s.world.scope (.document d)).Broadens (v.scope (.document d)) := by
  have hsame : ∀ u : World, (u.unhold s.entry.key).scope (.document d) = u.scope (.document d) :=
    fun u => congrArg Document.scope (document_unhold u s.entry.key d)
  cases h with
  | handled hsupported hcall =>
      have hafter :=
        handler_broadens hsound hhandle hs hsupported (hbalanced hsupported) hopen hcall
      rw [hsame]
      exact hafter
  | ignored hunsupported =>
      rw [hsame]
      exact .refl _
  | skipped hfound => exact .refl _
  | missed hfound => exact .refl _

end SlotTurn

namespace Notify

variable {handle : Handlers} {t : Thread} {d : Name} {n : Notice} {w : World}

/-- The handlers that the pass of a notification calls are balanced on its document. -/
def Balanced (handle : Handlers) (t : Thread) (d : Name) (n : Notice) (w : World) : Prop :=
  ∀ s ∈ handledTurns handle t d n w,
    (handle t d s.entry.key n).BalancedOn d (s.entrance (passOf t d n w) t d n)

instance (handle : Handlers) (t : Thread) (d : Name) (n : Notice) (w : World) :
    Decidable (Balanced handle t d n w) :=
  inferInstanceAs (Decidable (∀ s ∈ handledTurns handle t d n w, _))

/-- Each of these calls is shown no less than the one before, and the same number of scopes. -/
structure ShowsFrom (state : ScopeState) (calls : List Call) : Prop where
  shown : ∀ c ∈ calls, state.Broadens c.scope
  grows : calls.Pairwise fun c c' => c.scope.Broadens c'.scope

section

variable (hsound : w.Sound) (hdocument : w.documents.contains d = true)
  (hroom : (w.document d).dispatcher.isFull t = false) (hhandle : handle.Client)
  (hbalanced : Balanced handle t d n w)
  (hopen : ((prepared t d n w).scope (.document d)).depth ≠ 0)

include hsound hdocument hroom hhandle hbalanced hopen

/-- Where handlers are balanced, a pass that starts with an open scope keeps it open, and each turn
finds what the turns before it have gathered. -/
theorem slotTurns_broadens :
    ShowsFrom ((prepared t d n w).scope (.document d))
      ((handledTurns handle t d n w).map (·.call t d n)) ∧
    ((∃ told, (passed handle t d n w).1 = .ok told) →
      ((prepared t d n w).scope (.document d)).Broadens
        ((passed handle t d n w).2.scope (.document d))) := by
  obtain ⟨outcome, hpassed, hturns⟩ := takesTurns_of_passed handle t d n w
  have hprepared := Evolves.sound (leads_prepared (n := n) hroom) hsound
  have hstart : ((prepared t d n w).enterPass (passOf t d n w)).scope (.document d) =
      (prepared t d n w).scope (.document d) := scope_updateRegistry _ d (.document d) _
  -- one turn keeps an open scope, so the order of turns is that of growing masks
  obtain ⟨hall, hpairs, hend⟩ := hturns.ordered
    (R := fun v v' => (v.scope (.document d)).depth ≠ 0 →
      (v.scope (.document d)).Broadens (v'.scope (.document d)))
    (fun v _ => .refl _)
    (fun hfirst hsecond hv => (hfirst hv).trans (hsecond ((hfirst hv).depth ▸ hv)))
    (by
      intro s hs found v hturn hv
      obtain ⟨rest, hunderway⟩ := underway_slotTurns hsound hdocument hroom hhandle hs
      exact (SlotTurn.Turn.of_eq hturn).broadens hprepared hhandle hunderway
        (fun hsupported => hbalanced s (List.mem_filter.mpr ⟨hs, hsupported⟩)) hv)
  have hshown : ∀ s ∈ slotTurns handle t d n w,
      ((prepared t d n w).scope (.document d)).Broadens (s.world.scope (.document d)) := by
    intro s hs
    rw [← hstart]
    exact hall s hs (hstart ▸ hopen)
  refine ⟨⟨?_, ?_⟩, ?_⟩
  · intro c hc
    obtain ⟨s, hs, rfl⟩ := List.mem_map.mp hc
    exact hshown s (List.mem_filter.mp hs).1
  · rw [List.pairwise_map]
    refine (hpairs.imp_of_mem fun {s s'} hs _ hgrows => ?_).filter _
    exact hgrows ((hshown s hs).depth ▸ hopen)
  · rintro ⟨told, htold⟩
    rw [hpassed] at htold ⊢
    rw [Pass.leave_fst] at htold
    rw [Pass.scope_leave, ← hstart]
    exact hend told htold (hstart ▸ hopen)

end

/-! ## The two calls -/

variable {m : UpdateMask}

theorem beginUpdate_apply (handle : Handlers) (t : Thread) (d : Name) (m : UpdateMask) (w : World) :
    beginUpdate handle t d m w =
      ((openScope handle t d m w).1.map (Except.map Prod.fst), (openScope handle t d m w).2) :=
  Run.bind_pure_apply _ _ w

theorem endUpdate_apply (handle : Handlers) (t : Thread) (d : Name) (m : UpdateMask) (w : World) :
    endUpdate handle t d m w =
      ((closeScope handle t d m w).1.map (Except.map Prod.fst), (closeScope handle t d m w).2) :=
  Run.bind_pure_apply _ _ w

/-- What a closing returns is the state that it leaves. -/
theorem scope_of_endUpdate {s : ScopeState} (h : (endUpdate handle t d m w).1 = .ok (.ok s)) :
    (endUpdate handle t d m w).2.scope (.document d) = s := by
  rw [endUpdate_apply] at h ⊢
  cases hrun : closeScope handle t d m w with
  | mk result w' =>
      rw [hrun] at h
      match result, h with
      | .ok (.ok (s', r)), h =>
        obtain rfl : s' = s := by simpa [Except.map] using h
        exact scope_of_closeScope hrun

section

variable (hroom : (w.document d).dispatcher.isFull t = false)

include hroom

/-- Where a slot is left, opening a scope returns exactly if all handlers that hear of it do. -/
theorem beginUpdate_ok_iff {s : ScopeState} : (beginUpdate handle t d m w).1 = .ok (.ok s) ↔
    (∃ told, (passed handle t d (.event (.beginUpdate m)) w).1 = .ok told) ∧
      s = (w.scope (.document d)).enter m := by
  rw [beginUpdate_apply, openScope_passed hroom]
  cases passed handle t d (.event (.beginUpdate m)) w with
  | mk result u =>
      cases result with
      | error x => simp [released, Except.map]
      | ok told => simp [released, Except.map, eq_comm]

/-- Closing one returns if they do and a scope is left to be closed then. -/
theorem endUpdate_ok_iff (hopen : (w.scope (.document d)).depth ≠ 0) {s : ScopeState} :
    (endUpdate handle t d m w).1 = .ok (.ok s) ↔
      (∃ told, (passed handle t d (.event (.endUpdate m)) w).1 = .ok told) ∧
      ((passed handle t d (.event (.endUpdate m)) w).2.scope (.document d)).leave m = .ok s := by
  rw [endUpdate_apply, closeScope_passed hroom hopen]
  cases passed handle t d (.event (.endUpdate m)) w with
  | mk result u =>
      cases result with
      | error x => simp [released, Except.map]
      | ok told =>
          cases hleave : (u.scope (.document d)).leave m with
          | error e => simp [released, hleave, violation_map_ne]
          | ok s' => simp [released, hleave, Except.map]

theorem endUpdate_unwound (hopen : (w.scope (.document d)).depth ≠ 0) {x : Unwind}
    (h : (passed handle t d (.event (.endUpdate m)) w).1 = .error x) :
    (endUpdate handle t d m w).1 = .error x := by
  rw [endUpdate_apply, closeScope_passed hroom hopen]
  cases hpassed : passed handle t d (.event (.endUpdate m)) w with
  | mk result u =>
      rw [hpassed] at h
      obtain rfl : result = .error x := h
      rfl

end

/-- A call to open or to close a scope, where each handler that its own pass calls is balanced,
whatever nested scopes it opens. Handlers that hear of an opening are shown the new scope and what
it is opened for; those that hear of a closing are shown the scope still open, and then the call
closes it, unless one of them was unwound. In both cases the later ones are shown all that the
earlier ones were. -/
theorem scopes_shown (hw : Reached w) (hhandle : handle.Client)
    (hdocument : w.documents.contains d = true)
    (hroom : (w.document d).dispatcher.isFull t = false) (m : UpdateMask) :
    let before := w.scope (.document d)
    let opens : Notice := .event (.beginUpdate m)
    let closes : Notice := .event (.endUpdate m)
    (before.depth + 1 < 2 ^ 32 → Balanced handle t d opens w →
      let calls := Journal.ownCalls w.passes (beginUpdate handle t d m w).2.past
      calls = (handledTurns handle t d opens w).map (·.call t d opens) ∧
      ShowsFrom ⟨before.depth + 1, before.mask ||| m⟩ calls) ∧
    (1 ≤ before.depth → Balanced handle t d closes w →
      let calls := Journal.ownCalls w.passes (endUpdate handle t d m w).2.past
      calls = (handledTurns handle t d closes w).map (·.call t d closes) ∧
      ShowsFrom before calls ∧
      ((∃ after, (endUpdate handle t d m w).1 = .ok (.ok after) ∧
          after.depth = before.depth - 1) ∨
        ∃ s ∈ handledTurns handle t d closes w, ∃ x,
          s.answer (passOf t d closes w) t d closes handle = .error x ∧
          (endUpdate handle t d m w).1 = .error x)) := by
  intro before opens closes
  constructor
  · intro hfew hbalanced calls
    have hcalls : calls = (handledTurns handle t d opens w).map (·.call t d opens) := by
      rw [← ownCalls_passed hw.sound hdocument hroom hhandle, ← ownCalls_openScope hroom]
      simp only [calls, beginUpdate_apply]
    have hstate : (prepared t d opens w).scope (.document d) =
        ⟨before.depth + 1, before.mask ||| m⟩ := by
      rw [scope_prepared_opening, ScopeState.enter_of_lt hfew]
    obtain ⟨hshows, -⟩ := slotTurns_broadens hw.sound hdocument hroom hhandle hbalanced
      (by rw [hstate]; exact Nat.succ_ne_zero _)
    rw [hstate, ← hcalls] at hshows
    exact ⟨hcalls, hshows⟩
  · intro hopen hbalanced calls
    have hsome : (w.scope (.document d)).depth ≠ 0 := Nat.one_le_iff_ne_zero.mp hopen
    have hcalls : calls = (handledTurns handle t d closes w).map (·.call t d closes) := by
      rw [← ownCalls_passed hw.sound hdocument hroom hhandle, ← ownCalls_closeScope hroom hsome]
      simp only [calls, endUpdate_apply]
    have hstate : (prepared t d closes w).scope (.document d) = before := scope_prepared_closing
    obtain ⟨hshows, hkept⟩ := slotTurns_broadens hw.sound hdocument hroom hhandle hbalanced
      (by rw [hstate]; exact hsome)
    rw [hstate] at hshows hkept
    rw [← hcalls] at hshows
    refine ⟨hcalls, hshows, ?_⟩
    cases hpassed : (passed handle t d closes w).1 with
    | ok told =>
        have hdepth := (hkept ⟨told, hpassed⟩).depth
        obtain ⟨after, hleave, hafter, -⟩ :=
          ScopeState.leave_of_open (hdepth.symm ▸ hsome) m
        refine .inl ⟨after, (endUpdate_ok_iff hroom hsome).mpr ⟨⟨told, hpassed⟩, hleave⟩, ?_⟩
        omega
    | error x =>
        obtain ⟨s, hs, hanswer⟩ := unwound_of_passed hpassed
        exact .inr ⟨s, hs, x, hanswer, endUpdate_unwound hroom hsome hpassed⟩

end Notify

/-- One scope is open. The first of two observers opens and closes another one when it hears of an
opening and when it hears of a closing, once for each. -/
def layered : World :=
  (Session.runFrom 6 none .empty
    [.perform none (.createDocument "d" {}), .perform none (.beginUpdate none .contentModel),
      .createRecorder none "a" false .proceed
        [⟨.beginUpdate, none, some 1,
          [.perform none (.beginUpdate none ⟨4⟩), .perform none (.endUpdate none ⟨4⟩)], 0⟩,
        ⟨.endUpdate, none, some 1,
          [.perform none (.beginUpdate none ⟨8⟩), .perform none (.endUpdate none ⟨8⟩)], 0⟩],
      .perform none (.createQuiet "b" false), .perform none (.register (.document none) "a"),
      .perform none (.register (.document none) "b")]).2

/-- One more scope is opened. -/
def layeredOpening : Except Unwind (Except NotifyError ScopeState) × World :=
  Notify.beginUpdate (Scenario.respond 6) 0 "d" .style layered

theorem layeredOpening_eq :
    Notify.beginUpdate (Scenario.respond 6) 0 "d" .style layered = layeredOpening := rfl

/-- The scope that is open is closed. -/
def layeredClosing : Except Unwind (Except NotifyError ScopeState) × World :=
  Notify.endUpdate (Scenario.respond 6) 0 "d" .style layered

theorem layeredClosing_eq :
    Notify.endUpdate (Scenario.respond 6) 0 "d" .style layered = layeredClosing := rfl

/-- The second observer is shown what the first has gathered meanwhile, and no other number of open
scopes. -/
theorem scopes_shown_layered :
    Notify.Balanced (Scenario.respond 6) 0 "d" (.event (.beginUpdate .style)) layered ∧
    Notify.Balanced (Scenario.respond 6) 0 "d" (.event (.endUpdate .style)) layered ∧
    (Journal.ownCalls layered.passes layeredOpening.2.past).map (fun c => (c.observer, c.scope)) =
      [("a", ⟨2, ⟨3⟩⟩), ("b", ⟨2, ⟨15⟩⟩)] ∧
    Notify.ShowsFrom ⟨2, .contentModel ||| .style⟩
      (Journal.ownCalls layered.passes layeredOpening.2.past) ∧
    (Journal.ownCalls layered.passes layeredClosing.2.past).map (fun c => (c.observer, c.scope)) =
      [("a", ⟨1, ⟨1⟩⟩), ("b", ⟨1, ⟨13⟩⟩)] ∧
    Notify.ShowsFrom ⟨1, .contentModel⟩
      (Journal.ownCalls layered.passes layeredClosing.2.past) ∧
    ∃ after, layeredClosing.1 = .ok (.ok after) ∧ after.depth = 0 := by
  have hreached : Reached layered := Session.runFrom_reached 6 none _ .start
  have hscope : layered.scope (.document "d") = ⟨1, .contentModel⟩ := by decide +kernel
  have hbegin : Notify.Balanced (Scenario.respond 6) 0 "d" (.event (.beginUpdate .style))
      layered := by decide +kernel
  have hend : Notify.Balanced (Scenario.respond 6) 0 "d" (.event (.endUpdate .style)) layered := by
    decide +kernel
  have hreturns : layeredClosing.1.isOk = true := by decide +kernel
  have hshown := Notify.scopes_shown (t := 0) hreached (Scenario.respond_client 6)
    (by decide +kernel : layered.documents.contains "d" = true) (by decide +kernel) .style
  rw [hscope, layeredOpening_eq, layeredClosing_eq] at hshown
  obtain ⟨-, hopens⟩ := hshown.1 (by decide) hbegin
  obtain ⟨-, hcloses, hafter⟩ := hshown.2 (by decide) hend
  refine ⟨hbegin, hend, by decide +kernel, hopens, by decide +kernel, hcloses, ?_⟩
  rcases hafter with hafter | ⟨-, -, x, -, hunwound⟩
  · exact hafter
  · rw [hunwound] at hreturns
    exact absurd hreturns (by simp [Except.isOk, Except.toBool])

namespace Notify

/-- What the two calls return. Opening a scope returns, where a slot is left and no handler that
hears of it is unwound, the state before it with one more scope and what this was opened for;
neither the observers nor what they do with the document make a difference. Closing one returns,
where also a scope is open at first and one is left when all have heard of it, the state of the
document as it is then. -/
theorem scope_returned (handle : Handlers) (t : Thread) (d : Name) (m : UpdateMask) (w : World)
    (s : ScopeState) :
    let before := w.scope (.document d)
    ((beginUpdate handle t d m w).1 = .ok (.ok s) ↔
      Completes handle t d (.event (.beginUpdate m)) w ∧
      s = ⟨min (before.depth + 1) (2 ^ 32 - 1), before.mask ||| m⟩) ∧
    ((endUpdate handle t d m w).1 = .ok (.ok s) ↔
      Completes handle t d (.event (.endUpdate m)) w ∧
      before.depth ≠ 0 ∧
      ((passed handle t d (.event (.endUpdate m)) w).2.scope (.document d)).depth ≠ 0 ∧
      s = (endUpdate handle t d m w).2.scope (.document d)) := by
  intro before
  cases hroom : (w.document d).dispatcher.isFull t with
  | true =>
      have hslot := Dispatcher.enter?_of_full hroom
      have hopening : (beginUpdate handle t d m w).1 ≠ .ok (.ok s) := by
        rw [beginUpdate_apply, openScope, withSlot_full hslot]
        simp [Except.map]
      have hclosing : (endUpdate handle t d m w).1 ≠ .ok (.ok s) := by
        rw [endUpdate_apply, closeScope, withSlot_full hslot]
        simp [Except.map]
      simp [Completes, hroom, hopening, hclosing]
  | false =>
      rw [completes_iff hroom, completes_iff hroom]
      refine ⟨beginUpdate_ok_iff hroom, ?_⟩
      constructor
      · intro hreturned
        have hopen : before.depth ≠ 0 := by
          intro hidle
          rw [endUpdate_apply, closeScope_unopened hroom hidle] at hreturned
          exact violation_map_ne _ d m Prod.fst s hreturned
        obtain ⟨htold, hleave⟩ := (endUpdate_ok_iff hroom hopen).mp hreturned
        exact ⟨htold, hopen, (ScopeState.leave_eq_ok.mp hleave).1,
          (scope_of_endUpdate hreturned).symm⟩
      · rintro ⟨htold, hopen, hleft, rfl⟩
        obtain ⟨after, hleave, -, -⟩ := ScopeState.leave_of_open hleft m
        have hreturned := (endUpdate_ok_iff hroom hopen).mpr ⟨htold, hleave⟩
        rw [scope_of_endUpdate hreturned, hreturned]

end Notify

end ChangeNotice
