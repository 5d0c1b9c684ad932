import ChangeNotice.Proofs.PerformTracks
import ChangeNotice.Scenario.Session

/-! # Code of clients

A client calls the operations of the library, looks at whatever it likes, decides
by what it has seen, panics and catches panics. Its handlers are code of clients
too, so they may call everything again, to any depth. Nothing else is assumed of
handlers anywhere.

A world is reached if some client gets there, between two of its calls or inside
a handler that is being called.
-/

namespace ChangeNotice

open World

/-- Something that a client may say in the journal. -/
def Moment.isSaying : Moment → Bool
  | targeted _ | visited _ | answered .. => true
  | _ => false

/-- The run is code of a client. -/
inductive Client : {α : Type} → Run α → Prop
  | pure {α : Type} (a : α) : Client (Pure.pure a : Run α)
  | bind {α β : Type} {m : Run α} {f : α → Run β} (hm : Client m) (hf : ∀ a, Client (f a)) :
      Client (m >>= f)
  | read {α : Type} (f : World → α) : Client (Run.read f)
  | unwind {α : Type} (e : Unwind) : Client (Run.unwind e : Run α)
  | catching {m : Run Unit} (hm : Client m) : Client (Run.catching m)
  /-- An operation, on any thread and from anywhere. Its handlers are code of clients. -/
  | perform {handle : Handlers} (hhandle : ∀ t d o n, Client (handle t d o n)) (c : Context)
      (operation : Operation) : Client (Scenario.perform handle c operation)
  | createRecorder (name : Name) (r : Recorder) :
      Client (Scenario.createObserver name (.recorder r))
  | remember (o : Name) (f : Recorder → Recorder) : Client (Run.change (·.updateRecorder o f))
  /-- What the handler of a sink does. -/
  | offer (sink d : Name) (e : Event) :
      Client (Run.change fun w => Scenario.offer sink (w.document d).id e w)
  | startThread : Client (Run.change fun w => { w with threads := w.threads + 1 })
  | say (m : Moment) (hm : m.isSaying = true) : Client (Run.note m)

/-- All handlers are code of clients. -/
def Handlers.Client (handle : Handlers) : Prop := ∀ t d o n, ChangeNotice.Client (handle t d o n)

/-- What may be done with an observer that is visited: a client runs code of its own and delivers
notices to the observer. -/
inductive Visiting (o : Name) : {α : Type} → Run α → Prop
  | client {α : Type} {m : Run α} (hm : Client m) : Visiting o m
  | deliver {handle : Handlers} (hhandle : handle.Client) (t : Thread) (d : Name) (n : Notice) :
      Visiting o (Notify.deliver handle t d n o)
  | bind {α β : Type} {m : Run α} {f : α → Run β} (hm : Visiting o m) (hf : ∀ a, Visiting o (f a)) :
      Visiting o (m >>= f)

/-- In the world `v` the run asks what this handler does: its outcome depends on it. -/
def Consults {α : Type} (run : Handlers → Run α) (handle : Handlers) (w : World) (t : Thread)
    (d o : Name) (n : Notice) (v : World) : Prop :=
  ∃ other : Handlers,
    (∀ t' d' o' n' u, (t', d', o', n', u) ≠ (t, d, o, n, v) →
      other t' d' o' n' u = handle t' d' o' n' u) ∧
    run other w ≠ run handle w

/-- A world that some client gets to, outside of handlers or inside. -/
inductive Reached : World → Prop
  | start : Reached .empty
  | run {α : Type} {w : World} (hw : Reached w) {m : Run α} (hm : Client m) : Reached (m w).2
  | handler {w : World} (hw : Reached w) {handle : Handlers} (hhandle : handle.Client) {c : Context}
      {operation : Operation} {t : Thread} {d o : Name} {n : Notice} {v : World}
      (hcall : Consults (fun handle => Scenario.perform handle c operation) handle w t d o n v) :
      Reached v

variable {α : Type} {w v : World}

theorem updateRecorder_settles (w : World) (o : Name) (f : Recorder → Recorder) :
    w.Settles (w.updateRecorder o f) := by
  unfold World.updateRecorder
  split
  next hrole => exact .of_change (.reshape o _ (contains_of_role (by simp [hrole])) (by simp)) rfl
  next => exact .refl w

theorem offer_settles (w : World) (sink : Name) (id : DocumentId) (e : Event) :
    w.Settles (Scenario.offer sink id e w) := by
  unfold Scenario.offer
  split
  · exact .refl w
  · simp only
    split
    · exact ((updateSink_settles w sink _).trans (.of_change (.remark _ rfl) rfl)).trans
        (.of_change (.remark _ rfl) rfl)
    · exact (updateSink_settles w sink _).trans (.of_change (.remark _ rfl) rfl)

theorem Moment.isRemark_of_isSaying {m : Moment} (h : m.isSaying = true) : m.isRemark = true := by
  cases m <;> first | rfl | exact absurd h (by simp [isSaying])

/-- Code of clients is made of changes. -/
theorem Client.tracks {m : Run α} (hm : Client m) (hsound : w.Sound) : Run.Tracks w m m := by
  induction hm generalizing w with
  | pure a => exact .pure w a
  | bind _ _ ihm ihf =>
      refine (ihm hsound).bind fun a v hv _ => ?_
      exact ihf a (Evolves.sound hv.leads hsound)
  | read f => exact .read w f
  | unwind e => exact .unwind w e
  | catching _ ih => exact (ih hsound).catching
  | perform _ c operation ih =>
      refine Scenario.perform_tracks hsound operation ?_
      intro v hv t d o n
      exact ih t d o n (Evolves.sound hv.leads hsound)
  | createRecorder name r => exact Scenario.createObserver_tracks name _
  | remember o f => exact .change (updateRecorder_settles w o f)
  | offer sink d e => exact .change (offer_settles w sink _ e)
  | startThread =>
      exact .change (.of_change (.aside w.snapshots w.dispatchers w.guards w.trackers _) rfl)
  | say moment hsaying => exact .note (Moment.isRemark_of_isSaying hsaying)

theorem Handlers.Client.track {handle : Handlers} (hhandle : handle.Client) (hsound : w.Sound)
    {taken : Name → Thread → Nat} : handle.Track w taken handle :=
  fun _ hv t d o n => (hhandle t d o n).tracks (Evolves.sound hv.leads hsound)

/-- The observer stays held while it is visited, whatever the client does with it. -/
theorem Visiting.tracks {o : Name} {m : Run α} (hm : Visiting o m) (hsound : w.Sound)
    (hheld : 0 < (w.observer o).holds) : Run.Tracks w m m := by
  induction hm generalizing w with
  | client hm => exact hm.tracks hsound
  | deliver hhandle t d n => exact Notify.deliver_tracks (hhandle.track hsound) n hheld
  | bind _ _ ihm ihf =>
      refine (ihm hsound hheld).bind fun a v hv _ => ?_
      exact ihf a (Evolves.sound hv.leads hsound) (hheld.trans_le (hv.leads.below.holds o))

theorem visitsTrack_of_visiting {visit : Name → Run (Option Verdict)} (hsound : w.Sound)
    (hvisit : ∀ o, Visiting o (visit o)) : Pass.VisitsTrack w visit visit :=
  fun _ o hv hheld => (hvisit o).tracks (Evolves.sound hv.leads hsound) hheld

/-- Handlers are asked only in worlds that the run leads to, and a notification has its slot there:
two families of handlers that agree in these worlds cannot be told apart. -/
theorem Consults.reaches {handle : Handlers} (hhandle : handle.Client) (hsound : w.Sound)
    {c : Context} {operation : Operation} {t : Thread} {d o : Name} {n : Notice}
    (h : Consults (fun handle => Scenario.perform handle c operation) handle w t d o n v) :
    w.Reaches (operation.taken c) v := by
  obtain ⟨other, hagree, hdiffer⟩ := h
  by_contra hnot
  have htrack : handle.Track w (operation.taken c) other := by
    intro u hu t' d' o' n'
    have hne : u ≠ v := fun heq => hnot (heq ▸ hu)
    have hclient := (hhandle t' d' o' n').tracks (Evolves.sound hu.leads hsound)
    exact ⟨(hagree t' d' o' n' u (by simp [hne])).symm, hclient.settles⟩
  exact hdiffer (Scenario.perform_tracks hsound operation htrack).same.symm

/-- Every reached world comes about by the listed changes. -/
theorem Reached.leads (h : Reached w) : World.empty.Leads w := by
  induction h with
  | start => exact .refl _
  | run _ hm ih => exact ih.trans (hm.tracks (Evolves.sound ih .empty)).leads
  | handler _ hhandle hcall ih =>
      exact ih.trans (hcall.reaches hhandle (Evolves.sound ih .empty)).leads

theorem Reached.sound (h : Reached w) : w.Sound := Evolves.sound h.leads .empty

/-! ## Scenarios are code of clients -/

namespace Scenario

theorem times_client {m : Run Unit} (hm : Client m) (count : Nat) :
    Client (Run.times count m) := by
  induction count with
  | zero => exact .pure ()
  | succ count ih => exact .bind hm fun _ => ih

theorem each_client {β : Type} {run : β → Run Unit} (hrun : ∀ b, Client (run b)) (list : List β) :
    Client (Run.each run list) := by
  induction list with
  | nil => exact .pure ()
  | cons b rest ih => exact .bind (hrun b) fun _ => ih

variable {handle : Handlers}

mutual

theorem runStep_client (hhandle : handle.Client) (c : Context) (s : Step) :
    Client (runStep handle c s) := by
  cases s with
  | perform label operation => exact .perform hhandle c operation
  | createRecorder label name binding verdict rules => exact .createRecorder name _
  | attempt label steps =>
      exact .bind (.catching (runSteps_client hhandle c steps)) fun _ => .pure _
  | spawn label steps =>
      refine .bind .startThread fun _ => .bind (.read _) fun t => ?_
      exact .bind (.catching (runSteps_client hhandle { c with thread := t } steps))
        fun _ => .pure _
  | iterate label count steps =>
      exact .bind (times_client (runSteps_client hhandle c steps) count) fun _ => .pure _
  | unusable label => exact .pure _
termination_by structural s

theorem runSteps_client (hhandle : handle.Client) (c : Context) (steps : List Step) :
    Client (runSteps handle c steps) := by
  cases steps with
  | nil => exact .pure ()
  | cons s rest =>
      refine .bind (runStep_client hhandle c s) fun answer => ?_
      exact .bind (.say _ rfl) fun _ => runSteps_client hhandle c rest
termination_by structural steps

end

/-- Sinks are served as clients serve them. -/
theorem withSinks_client (hhandle : handle.Client) : (withSinks handle).Client := by
  intro t d o n
  rw [withSinks_eq]
  refine .bind (.read _) fun observer => ?_
  cases observer.role with
  | sink s =>
      cases n with
      | event e =>
          rw [sinkHandlers_on]
          exact .bind (.offer o d e) fun _ => .pure _
      | script content parser => exact .pure _
  | _ => exact hhandle t d o n

theorem scripted_client (hhandle : handle.Client) : (scripted handle).Client := by
  intro t d o n
  rw [scripted_eq]
  refine .bind (.read _) fun observer => ?_
  cases observer.role with
  | recorder r =>
      refine .bind (each_client (fun i => ?_) _) fun _ => .pure _
      refine .bind (.read _) fun rules => ?_
      cases rules[i]? with
      | none => exact .pure ()
      | some rule =>
          simp only
          split
          · exact .bind (.remember o _) fun _ => runSteps_client hhandle _ _
          · exact .pure ()
  | _ => exact .pure _

theorem respond_client (depth : Nat) : (respond depth).Client := by
  induction depth with
  | zero =>
      intro t d o n
      rw [respond_zero]
      exact .unwind _
  | succ depth ih => exact withSinks_client (scripted_client ih)

end Scenario

theorem World.since_of_past {news past : List Moment} (h : v.past = news ++ past) :
    v.since past.length = news.reverse := by
  rw [World.since, h, List.length_append, Nat.add_sub_cancel, List.take_left]

/-- Sessions reach only worlds that clients reach. -/
theorem Session.runFrom_reached (depth : Nat) (chosen : Option Level) (steps : List Step)
    (hw : Reached w) : Reached (Session.runFrom depth chosen w steps).2 := by
  induction steps generalizing w with
  | nil => exact hw
  | cons s rest ih =>
      exact ih (hw.run (Scenario.runStep_client (Scenario.respond_client depth) .top s))

end ChangeNotice
