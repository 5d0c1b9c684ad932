import ChangeNotice.Proofs.Occurrence
import ChangeNotice.Proofs.Client

/-! # Inside of handlers

A world is reached together with the observers whose handlers are running there.
What every occurrence keeps holds in all of these worlds: operations and code of
clients are made of occurrences, and leave going on what they found going on.
-/

namespace ChangeNotice

open World Run

variable {I : List Activity → World → Prop} {s : List Activity} {w v : World}

section

variable (hI : Occurrence.Keep I)

include hI

/-! ## Operations -/

theorem Edit.upheld {at? : Option Name} {g : World → World} (h : Edit w at? g) (hw : I s w) :
    I s (g w) := by
  have hbeside : ∀ {v : World}, w.Beside v → I s v := fun h => hI (.beside h) hw
  cases h with
  | aside h =>
      obtain ⟨snapshots, dispatchers, guards, trackers, threads, hkept⟩ := h.kept w
      rw [hkept]
      exact hbeside (.of_eq rfl rfl)
  | reject hm =>
      apply hbeside
      apply Beside.record
      revert hm
      cases ‹Moment› <;> simp [Moment.isRejection, Moment.isNotable]
  | blockScript => exact hbeside (.record w rfl)
  | createQuiet hnew binding => exact hI (.create _ _ hnew (by simp)) hw
  | createSink hnew config => exact hI (.createSink _ config hnew) hw
  | createRegistry => exact hbeside (.of_eq rfl rfl)
  | disown hown => exact hI (.disown _ hown) hw
  | register => exact hbeside (.register w _ _)
  | unregister => exact hbeside (.unregister w _ _)
  | prune => exact hbeside (.updateRegistry w _ _)
  | readStream hsink hbuffer => exact hI (.read _ _ hsink _ _ hbuffer) hw
  | disconnect sink => exact hI (.disconnect sink) hw
  | openTracker => exact hbeside (.openScope w _ _)
  | closeScope => exact hbeside (.closeScope w _ _ _)

namespace Scenario

variable {handle handle' : Handlers} {c : Context}

theorem createObserver_upholds (name : Name) {role : Role} (hrole : ∀ k, role ≠ .sink k)
    (hw : I s w) :
    Upholds (I s) w (createObserver name role) (createObserver name role) := by
  refine ⟨rfl, ?_⟩
  rw [createObserver_apply]
  split
  next => exact hw
  next hnew => exact hI (.create name role (by simpa using hnew) hrole) hw

theorem visitsUphold_visit (hh : handle.Uphold I s handle') (visited : Visit) (p : PassInfo) :
    Pass.VisitsUphold I (.pass p :: s) (visit handle c visited) (visit handle' c visited) := by
  intro w v o hw halive hheld
  refine .note_bind ?_
  have hnoted : (w.hold o).Beside (v.record (.visited o)) := hheld.trans (.record v rfl)
  cases visited with
  | deliver e d =>
      refine .note_bind ?_
      exact Notify.deliver_upholds hI hh (.inr ⟨p, rfl⟩) hw halive
        (hnoted.trans (.record _ rfl))
  | answer supported => exact ⟨rfl, hI (.glance o halive hnoted) hw⟩

end Scenario

/-- Every part of an operation keeps what occurrences keep, if its handlers do. -/
theorem Composed.upholds {α γ : Type} {handle handle' : Handlers} {c : Context}
    {operation : Operation} {at? : Option Name} {slot : Option (Name × Thread × Nat)} {f : α → γ}
    {m : Handlers → Run α} (h : Composed handle c operation at? slot f w m)
    (hh : handle.Uphold I s handle') (hw : I s w) :
    Upholds (I s) w (m handle) (m handle') := by
  induction h with
  | pure a => exact .pure hw a
  | panic message => exact .unwind hw _
  | bind _ _ ihm ihr => exact (ihm hw).bind fun a v hv hrun => ihr a v hrun hv
  | map _ ih => exact (ih hw).map
  | read => exact .read hw _
  | edit hg => exact .change (hg.upheld hI hw)
  | target d _ ih => exact .note_bind (ih (hI (.beside (.record _ rfl)) hw))
  | @createDocument w =>
      apply Upholds.change
      exact hI (w := w) (.beside (.of_eq rfl rfl)) hw
  | slot _ hbody _ ih => exact Notify.withSlot_upholds hI _ _ (hbody handle) (hbody handle') hw ih
  | announce _ _ _ ih =>
      refine (Notify.announce_upholds hI hh _ hw).bind fun told v hv hrun => ?_
      exact (ih told v hrun hv).map
  | deliver _ halive =>
      exact .holding (Notify.deliver_upholds hI hh (.inl rfl) hw halive (.refl _))
  | @pass _ _ _ w _ _ guard =>
      have hkept : I s (w.keepGuard guard) := hI (w := w) (.beside (.of_eq rfl rfl)) hw
      refine .read_bind (.change_bind (.ensuring (J := I s) ?_ ?_))
      · exact Pass.start_upholds hI (Scenario.visitsUphold_visit hI hh _) hkept
      · exact fun v hv => hI (.beside (.leaveGuard v _)) hv

/-! ## Code of clients -/

/-- Code of clients keeps what occurrences keep. -/
theorem Client.upholds {α : Type} {m : Run α} (hm : Client m) (hw : I s w) :
    Upholds (I s) w m m := by
  induction hm generalizing s w with
  | pure a => exact .pure hw a
  | bind _ _ ihm ihf => exact (ihm hw).bind fun a v hv _ => ihf a hv
  | read f => exact .read hw f
  | unwind e => exact .unwind hw e
  | catching _ ih => exact (ih hw).catching
  | perform _ c operation ih =>
      apply (Scenario.perform_composed _ c operation w).upholds hI ?_ hw
      exact fun t d o n base v _ hv => ih t d o n (hv.kept hI)
  | createRecorder name r => exact Scenario.createObserver_upholds hI name (by simp) hw
  | remember o f => exact .change (hI (.remember o f) hw)
  | offer sink d e => exact .change (hI (.offer sink _ e) hw)
  | startThread => exact .change (hI (w := w) (.beside (.of_eq rfl rfl)) hw)
  | say m hm =>
      have hplain : m.isNotable = false := by
        cases m <;> first | rfl | exact absurd hm (by simp [Moment.isSaying])
      exact .change (hI (.beside (.record w hplain)) hw)

/-- Handlers are asked only where they begin: two families of handlers that agree there cannot be
told apart. -/
theorem Consults.begins {handle : Handlers} (hhandle : handle.Client) {c : Context}
    {operation : Operation} {t : Thread} {d o : Name} {n : Notice} (hw : I s w)
    (h : Consults (fun handle => Scenario.perform handle c operation) handle w t d o n v) :
    ∃ base, Activity.Within s base ∧ Activity.Begins I base t d o n v := by
  obtain ⟨other, hagree, hdiffer⟩ := h
  by_contra hnot
  have hother : handle.Uphold I s other := by
    intro t' d' o' n' base u hbase hu
    have hclient := Client.upholds hI (hhandle t' d' o' n') (hu.kept hI)
    have hne : (t', d', o', n', u) ≠ (t, d, o, n, v) := by
      intro heq
      simp only [Prod.mk.injEq] at heq
      obtain ⟨rfl, rfl, rfl, rfl, rfl⟩ := heq
      exact hnot ⟨base, hbase, hu⟩
    exact ⟨(hagree t' d' o' n' u hne).symm, hclient.kept⟩
  exact hdiffer ((Scenario.perform_composed handle c operation w).upholds hI hother hw).same.symm

end

/-! ## Reached worlds -/

/-- A world that some client gets to while handlers of these observers are running, the last called
first. -/
inductive Inside : List Name → World → Prop
  | start : Inside [] .empty
  | run {α : Type} {stack : List Name} {w : World} (hw : Inside stack w) {m : Run α}
      (hm : Client m) : Inside stack (m w).2
  | handler {stack : List Name} {w : World} (hw : Inside stack w) {handle : Handlers}
      (hhandle : handle.Client) {c : Context} {operation : Operation} {t : Thread} {d o : Name}
      {n : Notice} {v : World}
      (hcall : Consults (fun handle => Scenario.perform handle c operation) handle w t d o n v) :
      Inside (o :: stack) v

variable {stack : List Name}

theorem Reached.inside (h : Reached w) : ∃ stack, Inside stack w := by
  induction h with
  | start => exact ⟨[], .start⟩
  | run _ hm ih =>
      obtain ⟨stack, hstack⟩ := ih
      exact ⟨stack, hstack.run hm⟩
  | handler _ hhandle hcall ih =>
      obtain ⟨stack, hstack⟩ := ih
      exact ⟨_ :: stack, hstack.handler hhandle hcall⟩

/-- The observer whose handler is going on. -/
def Activity.handler? : Activity → Option Name
  | pass _ => none
  | handler o => some o

theorem Activity.Within.handlers {base : List Activity} (h : Activity.Within s base) :
    base.filterMap handler? = s.filterMap handler? := by
  rcases h with rfl | ⟨p, rfl⟩ <;> rfl

/-- What every occurrence keeps holds wherever clients get to. -/
theorem Inside.upholds (hI : Occurrence.Keep I) (hstart : I [] .empty) (hw : Inside stack w) :
    ∃ s, s.filterMap Activity.handler? = stack ∧ I s w := by
  induction hw with
  | start => exact ⟨[], rfl, hstart⟩
  | run _ hm ih =>
      obtain ⟨s, hs, hkept⟩ := ih
      exact ⟨s, hs, (hm.upholds hI hkept).kept⟩
  | @handler _ _ _ _ hhandle _ _ _ _ o _ _ hcall ih =>
      obtain ⟨s, hs, hkept⟩ := ih
      obtain ⟨base, hbase, hcalled⟩ := hcall.begins hI hhandle hkept
      refine ⟨.handler o :: base, ?_, hcalled.kept hI⟩
      show o :: base.filterMap Activity.handler? = _
      rw [hbase.handlers, hs]

/-- The worlds between the steps of a session are outside of all handlers. -/
theorem Session.runFrom_inside (depth : Nat) (chosen : Option Level) (steps : List Step)
    (hw : Inside stack w) : Inside stack (Session.runFrom depth chosen w steps).2 := by
  induction steps generalizing w with
  | nil => exact hw
  | cons s rest ih =>
      exact ih (hw.run (Scenario.runStep_client (Scenario.respond_client depth) .top s))

end ChangeNotice
