import ChangeNotice.Proofs.ScopeAccount

/-! # Which closing is the outermost

The handlers that hear of a closing scope are shown the counter before it closes,
so that one open scope seems to mean that the last one is closing. Handlers may
close scopes themselves, however, and then the call that ends with no open scope
has shown its handlers more than one. What they are shown is stated exactly here,
by what is opened and closed after they have been called.
-/

namespace ChangeNotice

open World

namespace Journal

/-- The calls of handlers that a pass has made, last one first. -/
def calls (serial : Nat) : List Moment → List Call
  | .called c :: .invoking p _ :: past =>
    if p.serial = serial then c :: calls serial past else calls serial past
  | _ :: past => calls serial past
  | [] => []

/-- Each of them stands in the journal. -/
theorem split_of_mem_calls {serial : Nat} {past : List Moment} {c : Call}
    (h : c ∈ calls serial past) : ∃ later earlier, past = later ++ .called c :: earlier := by
  fun_induction calls serial past with
  | case1 c' p o past hserial ih =>
      rcases List.mem_cons.mp h with rfl | hrest
      · exact ⟨[], _, rfl⟩
      · obtain ⟨later, earlier, rfl⟩ := ih hrest
        exact ⟨.called c' :: .invoking p o :: later, earlier, rfl⟩
  | case2 c' p o past hserial ih =>
      obtain ⟨later, earlier, rfl⟩ := ih h
      exact ⟨.called c' :: .invoking p o :: later, earlier, rfl⟩
  | case3 m past _ ih =>
      obtain ⟨later, earlier, rfl⟩ := ih h
      exact ⟨m :: later, earlier, rfl⟩
  | case4 => exact absurd h List.not_mem_nil

end Journal

variable {w w' : World}

/-- A call ends with no open scope of the document. Every handler that was called for the document,
by this call or before, was shown as many open scopes as have been closed since beyond those that
have been begun since, the closing of the call itself included. So it was shown the outermost one
exactly if since then as many scopes have been begun as other calls have closed. -/
theorem Notify.outermost_shown_iff {handle : Handlers} {t : Thread} {d : Name} {m : UpdateMask}
    {s : ScopeState} {r : Report} (hw : Reached w) (hdocument : w.documents.contains d = true)
    (hhandle : handle.Client) (hrun : closeScope handle t d m w = (.ok (.ok (s, r)), w'))
    (hlast : s.depth = 0) (hfew : Journal.begun d w'.past < 2 ^ 32) {later earlier : List Moment}
    {c : Call} (hcall : w'.past = later ++ .called c :: earlier) (hc : c.document = d) :
    c.scope.depth + Journal.begun d later = Journal.closed d later ∧
    (c.scope.isOutermost = true ↔ Journal.closed d later = Journal.begun d later + 1) := by
  subst hc
  have hleads : World.empty.Leads w' := by
    have hclosing : Composed handle ⟨t, none, none⟩ (.endUpdate (some c.document) m)
        (some c.document) none (fun _ => ()) w fun h => closeScope h t c.document m :=
      .closeScope hdocument ⟨some c.document, rfl, rfl⟩ fun _ _ _ _ => rfl
    have hcalled := (hclosing.tracks hw.sound (hhandle.track hw.sound)).leads
    rw [hrun] at hcalled
    exact hw.leads.trans hcalled
  obtain ⟨hscopes, hcalls⟩ := hleads.accounted
  have hend := (hscopes c.document hfew).depth
  rw [scope_of_closeScope hrun, hlast] at hend
  rw [hcall] at hcalls hend hfew
  simp only [Journal.begun_append, Journal.closed_append, Journal.begun_cons, Journal.closed_cons,
    Moment.begins?, Moment.closes, Option.isSome_none, Bool.false_eq_true, if_false] at hend hfew
  have hshown := hcalls.call (by omega)
  have hdepth : c.scope.depth + Journal.begun c.document later =
      Journal.closed c.document later := by
    omega
  refine ⟨hdepth, ?_⟩
  simp only [ScopeState.isOutermost, beq_iff_eq]
  omega

/-- Two scopes are open, and the handler that hears of a closing closes one itself, once. -/
def twiceOpen : World :=
  (Session.runFrom 3 none .empty
    [.perform none (.createDocument "d" {}),
      .createRecorder none "a" false .proceed
        [⟨.endUpdate, none, some 1, [.perform none (.endUpdate none .style)], 0⟩],
      .perform none (.register (.document none) "a"),
      .perform none (.beginUpdate none .style), .perform none (.beginUpdate none .style)]).2

/-- One more call to close a scope. -/
def closedTwice : Except Unwind (Except NotifyError (ScopeState × Report)) × World :=
  Notify.closeScope (Scenario.respond 3) 0 "d" .style twiceOpen

theorem closedTwice_eq :
    Notify.closeScope (Scenario.respond 3) 0 "d" .style twiceOpen = closedTwice := rfl

/-- What the handler that the pass of the call invoked was shown follows from what was closed since:
a scope in a handler, and then the last one. -/
theorem outermost_shown_iff_twice :
    closedTwice.1 = .ok (.ok (.idle, ⟨1, 0, 0, 0⟩)) ∧
    ∃ c later earlier, c ∈ Journal.calls twiceOpen.passes closedTwice.2.past ∧
      closedTwice.2.past = later ++ .called c :: earlier ∧
      (c.scope.isOutermost = true ↔ Journal.closed "d" later = Journal.begun "d" later + 1) := by
  have hreached : Reached twiceOpen := Session.runFrom_reached 3 none _ .start
  have hresult : closedTwice.1 = .ok (.ok (.idle, ⟨1, 0, 0, 0⟩)) := by decide +kernel
  have hrun : closedTwice = (.ok (.ok (.idle, ⟨1, 0, 0, 0⟩)), closedTwice.2) := by
    rw [← hresult]
  have hcalls : (Journal.calls twiceOpen.passes closedTwice.2.past).map Call.document = ["d"] := by
    decide +kernel
  obtain ⟨c, hmem, hc⟩ := List.mem_map.mp (hcalls ▸ List.mem_singleton_self "d")
  obtain ⟨later, earlier, hsplit⟩ := Journal.split_of_mem_calls hmem
  have hshown := Notify.outermost_shown_iff hreached (by decide +kernel)
    (Scenario.respond_client 3) (closedTwice_eq.trans hrun) rfl (by decide +kernel) hsplit hc
  exact ⟨hresult, c, later, earlier, hmem, hsplit, hshown.2⟩

/-- The call ends with no open scope, and the one handler that its pass invoked was shown two. -/
theorem outermost_missed :
    closedTwice.1 = .ok (.ok (.idle, ⟨1, 0, 0, 0⟩)) ∧
    (Journal.calls twiceOpen.passes closedTwice.2.past).map
      (fun c => (c.observer, c.notice, c.document, c.scope.depth, c.scope.isOutermost)) =
        [("a", .event (.endUpdate .style), "d", 2, false)] := by
  constructor
  · decide +kernel
  · decide +kernel

end ChangeNotice
