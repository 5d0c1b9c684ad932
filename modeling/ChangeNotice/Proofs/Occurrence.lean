import ChangeNotice.Proofs.PassTurns

/-! # What happens to observers, and while what

At any time some passes are going on and some handlers are running, one inside the
other. Here is listed what can happen meanwhile to observers and their streams, and
how passes and handlers begin and end. Everything else goes on beside it.

A property of the world and of what is going on that every occurrence keeps is kept by
every run of the library, if its handlers keep it. Two families of handlers are
followed at once: where they agree in all worlds with the property, the runs over them
agree.
-/

namespace ChangeNotice

open World

/-- Something that is going on: a pass over its slots, or a handler of an observer. -/
inductive Activity where
  | pass (p : PassInfo)
  | handler (o : Name)
deriving DecidableEq

/-- The moment tells of passes, of calls and lives of observers, or of streams. -/
def Moment.isNotable : Moment → Bool
  | passEntered .. | passFinished .. | passLeft _ | called _ | held _ | unheld _ | disowned _
  | freed _ | sinkMade .. | offered .. | sinkFull .. | taken .. => true
  | _ => false

namespace World

variable {u v w : World}

/-- The journal has grown by moments of this sort only. -/
def Adds (P : Moment → Prop) (w w' : World) : Prop :=
  ∃ news : List Moment, w'.past = news ++ w.past ∧ ∀ m ∈ news, P m

namespace Adds

variable {P Q : Moment → Prop} {m : Moment}

theorem of_past (h : v.past = w.past) : w.Adds P v := ⟨[], h, by simp⟩

theorem cons (h : v.past = m :: w.past) (hm : P m) : w.Adds P v := ⟨[m], h, by simpa using hm⟩

theorem trans (h : u.Adds P v) (h' : v.Adds P w) : u.Adds P w := by
  obtain ⟨news, hpast, hnews⟩ := h
  obtain ⟨news', hpast', hnews'⟩ := h'
  refine ⟨news' ++ news, by rw [hpast', hpast, List.append_assoc], ?_⟩
  intro m hm
  rcases List.mem_append.mp hm with hm | hm
  · exact hnews' m hm
  · exact hnews m hm

theorem mono (h : w.Adds P v) (hsort : ∀ m, P m → Q m) : w.Adds Q v := by
  obtain ⟨news, hpast, hnews⟩ := h
  exact ⟨news, hpast, fun m hm => hsort m (hnews m hm)⟩

end Adds

/-- The world changes, and nothing happens to observers. -/
structure Beside (w w' : World) : Prop where
  observers : w'.observers = w.observers
  past : w.Adds (fun m => m.isNotable = false) w'

namespace Beside

theorem of_eq (hobservers : v.observers = w.observers) (hpast : v.past = w.past) :
    w.Beside v :=
  ⟨hobservers, .of_past hpast⟩

theorem refl (w : World) : w.Beside w := of_eq rfl rfl

theorem trans (h : u.Beside v) (h' : v.Beside w) : u.Beside w :=
  ⟨h'.observers.trans h.observers, h.past.trans h'.past⟩

theorem record (w : World) {m : Moment} (hm : m.isNotable = false) : w.Beside (w.record m) :=
  ⟨rfl, .cons rfl hm⟩

theorem observer (h : w.Beside v) (o : Name) : v.observer o = w.observer o :=
  congrArg (Table.get · o) h.observers

theorem updateDocument (w : World) (d : Name) (f : Document → Document) :
    w.Beside (w.updateDocument d f) :=
  of_eq rfl rfl

theorem takeSlot (w : World) (d : Name) (t : Thread) (n : Notice) (left : Dispatcher) :
    w.Beside (w.takeSlot d t n left) :=
  (updateDocument w d _).trans (record _ rfl)

theorem releaseSlot (w : World) (d : Name) (t : Thread) : w.Beside (w.releaseSlot d t) :=
  (updateDocument w d _).trans (record _ rfl)

theorem setScope (w : World) (owner : Owner) (s : ScopeState) : w.Beside (w.setScope owner s) := by
  cases owner <;> exact of_eq rfl rfl

theorem openScope (w : World) (owner : Owner) (m : UpdateMask) : w.Beside (w.openScope owner m) :=
  (setScope w owner _).trans (record _ rfl)

theorem closeScope (w : World) (owner : Owner) (m : UpdateMask) (s : ScopeState) :
    w.Beside (w.closeScope owner m s) := by
  have hremark : w.Beside (if (w.scope owner).mask.contains m then w
      else w.record (.scopeMismatch owner (w.scope owner).mask m)) := by
    split
    · exact refl w
    · exact record w rfl
  exact (hremark.trans (setScope _ owner s)).trans (record _ rfl)

theorem updateRegistry (w : World) (owner : Owner) (f : Registry → Registry) :
    w.Beside (w.updateRegistry owner f) :=
  of_eq (observers_updateRegistry w owner f) (past_updateRegistry w owner f)

theorem register (w : World) (owner : Owner) (o : Name) : w.Beside (w.register owner o) := by
  unfold World.register
  simp only
  split
  · exact updateRegistry w owner _
  · exact (updateRegistry w owner _).trans (record _ rfl)

theorem unregister (w : World) (owner : Owner) (o : Name) : w.Beside (w.unregister owner o) := by
  unfold World.unregister
  split
  · exact (updateRegistry w owner _).trans (record _ rfl)
  · exact refl w

theorem prepare (w : World) (d : Name) (n : Notice) : w.Beside (w.prepare d n) := by
  have hload : ∀ (v : World) (l : LoadState), v.Beside (v.setLoad d l) :=
    fun v _ => updateDocument v d _
  unfold World.prepare
  split
  · exact openScope w _ _
  · split
    · exact (record w rfl).trans (hload _ _)
    · exact hload w _
  · split
    · exact (record w rfl).trans (hload _ _)
    · exact hload w _
  · exact refl w

theorem leaveGuard (w : World) (guard : Nat) : w.Beside (w.leaveGuard guard) := by
  unfold World.leaveGuard releaseIfFree
  simp only
  split <;> exact of_eq rfl rfl

end Beside

end World

/-- One thing that happens, with what is going on before and after it. -/
inductive Occurrence : List Activity → World → List Activity → World → Prop
  | beside {s : List Activity} {w w' : World} (h : w.Beside w') : Occurrence s w s w'
  | create {s : List Activity} {w : World} (o : Name) (role : Role)
      (hnew : w.observers.contains o = false) (hrole : ∀ sink, role ≠ .sink sink) :
      Occurrence s w s { w with observers := w.observers.set o (.new role) }
  | createSink {s : List Activity} {w : World} (o : Name) (config : SinkConfig)
      (hnew : w.observers.contains o = false) :
      Occurrence s w s { w.record (.sinkMade o config) with
        observers := w.observers.set o (.new (.sink (.new config))) }
  | remember {s : List Activity} {w : World} (o : Name) (f : Recorder → Recorder) :
      Occurrence s w s (w.updateRecorder o f)
  | offer {s : List Activity} {w : World} (o : Name) (id : DocumentId) (e : Event) :
      Occurrence s w s (Scenario.offer o id e w)
  /-- The oldest events of a stream are taken. -/
  | read {s : List Activity} {w : World} (o : Name) (k : Sink)
      (hsink : (w.observer o).sink? = some k) (events rest : List Recorded)
      (hbuffer : k.buffer = events ++ rest) :
      Occurrence s w s (w.readStream o { k with buffer := rest } events)
  | disconnect {s : List Activity} {w : World} (o : Name) :
      Occurrence s w s (w.updateSink o Sink.disconnect)
  | disown {s : List Activity} {w : World} (o : Name) (hown : w.isOwned o = true) :
      Occurrence s w s (w.disown o)
  /-- An observer is held while its handler runs. -/
  | call {s : List Activity} {w v : World} (t : Thread) (d o : Name) (n : Notice)
      (halive : w.isAlive o = true) (hheld : (w.hold o).Beside v) :
      Occurrence s w (.handler o :: s) (v.record (.called (v.callOf t d o n)))
  | return {s : List Activity} {w : World} (o : Name) :
      Occurrence (.handler o :: s) w s (w.unhold o)
  /-- An observer is held for a moment, and no handler of it is called. -/
  | glance {s : List Activity} {w v : World} (o : Name) (halive : w.isAlive o = true)
      (hheld : (w.hold o).Beside v) : Occurrence s w s (v.unhold o)
  | enterPass {s : List Activity} {w : World} (p : PassInfo) (hserial : p.serial = w.passes) :
      Occurrence s w (.pass p :: s) (w.enterPass p)
  | finishPass {s : List Activity} {w : World} (p : PassInfo) (r : Report) :
      Occurrence (.pass p :: s) w s ((w.record (.passFinished p r)).record (.passLeft p))
  | abandonPass {s : List Activity} {w : World} (p : PassInfo) :
      Occurrence (.pass p :: s) w s (w.record (.passLeft p))

/-- The property is kept by everything that happens. -/
def Occurrence.Keep (I : List Activity → World → Prop) : Prop :=
  ∀ {s w s' w'}, Occurrence s w s' w' → I s w → I s' w'

/-! ## Runs that keep a property -/

namespace Run

variable {α β : Type} {I J : World → Prop} {w : World}

/-- From this world on both runs do the same and end in a world with the property. -/
structure Upholds (I : World → Prop) (w : World) (m m' : Run α) : Prop where
  same : m w = m' w
  kept : I (m w).2

namespace Upholds

variable {m m' : Run α} {f f' : α → Run β}

theorem pure (hw : I w) (a : α) : Upholds I w (Pure.pure a : Run α) (Pure.pure a) := ⟨rfl, hw⟩

theorem read (hw : I w) (g : World → α) : Upholds I w (Run.read g) (Run.read g) := ⟨rfl, hw⟩

theorem unwind (hw : I w) (e : Unwind) : Upholds I w (Run.unwind e : Run α) (Run.unwind e) :=
  ⟨rfl, hw⟩

theorem change {g : World → World} (hw : I (g w)) : Upholds I w (Run.change g) (Run.change g) :=
  ⟨rfl, hw⟩

/-- The first run may keep more than is kept in the end. -/
theorem bind_of (hweaken : ∀ v, J v → I v) (h : Upholds J w m m')
    (hf : ∀ a v, J v → m w = (.ok a, v) → Upholds I v (f a) (f' a)) :
    Upholds I w (m >>= f) (m' >>= f') := by
  obtain ⟨hsame, hkept⟩ := h
  cases hrun : m w with
  | mk result v =>
      rw [hrun] at hkept
      have hrun' : m' w = (result, v) := hsame ▸ hrun
      cases result with
      | ok a =>
          obtain ⟨hsame, hkept⟩ := hf a v hkept hrun
          refine ⟨?_, ?_⟩
          · rw [bind_apply, bind_apply, hrun, hrun']
            exact hsame
          · rw [bind_apply, hrun]
            exact hkept
      | error e =>
          refine ⟨?_, ?_⟩
          · rw [bind_apply, bind_apply, hrun, hrun']
          · rw [bind_apply, hrun]
            exact hweaken v hkept

theorem bind (h : Upholds I w m m')
    (hf : ∀ a v, I v → m w = (.ok a, v) → Upholds I v (f a) (f' a)) :
    Upholds I w (m >>= f) (m' >>= f') :=
  bind_of (fun _ hv => hv) h hf

theorem map {g : α → β} (h : Upholds I w m m') :
    Upholds I w (m >>= fun a => Pure.pure (g a)) (m' >>= fun a => Pure.pure (g a)) :=
  h.bind fun a _ hv _ => pure hv (g a)

theorem read_bind {g : World → α} (h : Upholds I w (f (g w)) (f' (g w))) :
    Upholds I w (Run.read g >>= f) (Run.read g >>= f') :=
  ⟨h.same, h.kept⟩

theorem change_bind {g : World → World} {k k' : Unit → Run β}
    (h : Upholds I (g w) (k ()) (k' ())) :
    Upholds I w (Run.change g >>= k) (Run.change g >>= k') :=
  ⟨h.same, h.kept⟩

theorem note_bind {moment : Moment} {k k' : Unit → Run β}
    (h : Upholds I (w.record moment) (k ()) (k' ())) :
    Upholds I w (Run.note moment >>= k) (Run.note moment >>= k') :=
  ⟨h.same, h.kept⟩

theorem catching {m m' : Run Unit} (h : Upholds I w m m') :
    Upholds I w (Run.catching m) (Run.catching m') := by
  obtain ⟨hsame, hkept⟩ := h
  refine ⟨?_, ?_⟩
  · unfold Run.catching
    rw [hsame]
  · unfold Run.catching
    cases hrun : m w with
    | mk result v =>
        rw [hrun] at hkept
        match result with
        | .ok () => exact hkept
        | .error (.panic message) => exact hkept
        | .error .exhausted => exact hkept

theorem ensuring {after : World → World} (h : Upholds J w m m')
    (hafter : ∀ v, J v → I (after v)) :
    Upholds I w (Run.ensuring m after) (Run.ensuring m' after) := by
  refine ⟨?_, ?_⟩
  · rw [ensuring_apply, ensuring_apply, h.same]
  · rw [ensuring_apply]
    exact hafter _ h.kept

theorem holding {o : Name} (h : Upholds (fun v => I (v.unhold o)) (w.hold o) m m') :
    Upholds I w (Run.holding o m) (Run.holding o m') :=
  change_bind (h.ensuring fun _ hv => hv)

end Upholds

end Run

open Run

variable {I : List Activity → World → Prop} {s : List Activity} {w v : World}

/-- What is going on where an operation calls a handler: the operation may have begun a pass. -/
def Activity.Within (s base : List Activity) : Prop := base = s ∨ ∃ p, base = .pass p :: s

/-- A handler begins here: the observer has been held, nothing has happened to observers since, and
the call is written down. -/
def Activity.Begins (I : List Activity → World → Prop) (base : List Activity) (t : Thread)
    (d o : Name) (n : Notice) (v : World) : Prop :=
  ∃ w u, I base w ∧ w.isAlive o = true ∧ (w.hold o).Beside u ∧
    v = u.record (.called (u.callOf t d o n))

/-- The handlers do the same and keep the property wherever an operation may call them. -/
def Handlers.Uphold (I : List Activity → World → Prop) (s : List Activity) (h h' : Handlers) :
    Prop :=
  ∀ t d o n base v, Activity.Within s base → Activity.Begins I base t d o n v →
    Upholds (I (.handler o :: base)) v (h t d o n) (h' t d o n)

section

variable (hI : Occurrence.Keep I)

include hI

theorem Activity.Begins.kept {base : List Activity} {t : Thread} {d o : Name} {n : Notice}
    (h : Activity.Begins I base t d o n v) : I (.handler o :: base) v := by
  obtain ⟨w, u, hw, halive, hheld, rfl⟩ := h
  exact hI (.call t d o n halive hheld) hw

/-! ## Passes and notifications -/

namespace Pass

variable {visit visit' : Name → Run (Option Verdict)} {p : PassInfo}

/-- A visit of an observer that has been held ends where the observer can be let go. -/
def VisitsUphold (I : List Activity → World → Prop) (s : List Activity)
    (visit visit' : Name → Run (Option Verdict)) : Prop :=
  ∀ w v o, I s w → w.isAlive o = true → (w.hold o).Beside v →
    Upholds (fun u => I s (u.unhold o)) v (visit o) (visit' o)

theorem walk_upholds (hvisit : VisitsUphold I s visit visit') (slots : Snapshot) (hw : I s w) :
    Upholds (I s) w (walk p visit slots) (walk p visit' slots) := by
  induction slots generalizing w with
  | nil => exact .pure hw _
  | cons e rest ih =>
      refine .read_bind ?_
      cases hfound : w.resolve p.registry p.removal e with
      | live =>
          have halive := Move.alive_of_resolve_live hfound
          have hturn : Upholds (I s) w
              (Run.holding e.key (do Run.note (.invoking p e.key); visit e.key))
              (Run.holding e.key (do Run.note (.invoking p e.key); visit' e.key)) :=
            .holding (.note_bind (hvisit w _ e.key hw halive (.record _ rfl)))
          refine hturn.bind fun answer v hv _ => ?_
          exact (ih hv).bind fun told u hu _ => .pure hu _
      | unregistered =>
          refine .note_bind ?_
          exact (ih (hI (.beside (.record w rfl)) hw)).bind fun told u hu _ => .pure hu _
      | dropped =>
          refine .note_bind ?_
          exact (ih (hI (.beside (.record w rfl)) hw)).bind fun told u hu _ => .pure hu _

theorem start_upholds {registry issuer : Owner} {t : Thread} {dispatcher : Dispatcher}
    {kind : Kind} {depth : Nat} (hvisit : ∀ p, VisitsUphold I (.pass p :: s) visit visit')
    (hw : I s w) :
    Upholds (I s) w (start registry issuer t dispatcher kind depth visit)
      (start registry issuer t dispatcher kind depth visit') := by
  obtain ⟨p, hp⟩ : ∃ p, p = infoOf registry issuer t dispatcher kind depth w := ⟨_, rfl⟩
  have hentered : I (.pass p :: s) (w.enterPass p) := hI (.enterPass p (by rw [hp, infoOf])) hw
  have hwalk := walk_upholds (p := p) hI (hvisit p) (snapshotOf w registry) hentered
  refine ⟨?_, ?_⟩
  · rw [start_apply visit hp, start_apply visit' hp]
    exact congrArg (leave p) hwalk.same
  · have hkept := hwalk.kept
    rw [start_apply visit hp]
    cases hrun : walk p visit (snapshotOf w registry) (w.enterPass p) with
    | mk result v =>
        rw [hrun] at hkept
        cases result with
        | ok told => exact hI (.finishPass _ told.1) hkept
        | error x => exact hI (.abandonPass _) hkept

end Pass

namespace Notify

variable {α : Type} {handle handle' : Handlers} {t : Thread} {d : Name} {n : Notice}

theorem deliver_upholds {base : List Activity} {o : Name}
    (hh : handle.Uphold I s handle') (hbase : Activity.Within s base) (hw : I base w)
    (halive : w.isAlive o = true) (hheld : (w.hold o).Beside v) :
    Upholds (fun u => I base (u.unhold o)) v (deliver handle t d n o)
      (deliver handle' t d n o) := by
  rw [deliver_eq, deliver_eq]
  refine .read_bind ?_
  split
  · refine .read_bind (.note_bind ?_)
    have hcalled := hh t d o n base _ hbase ⟨w, v, hw, halive, hheld, rfl⟩
    refine .bind_of (fun u hu => hI (.return o) hu) hcalled fun verdict u hu _ => ?_
    have hnoted : I (.handler o :: base) (u.record (.handled (v.callOf t d o n) verdict)) :=
      hI (.beside (.record u rfl)) hu
    exact ⟨rfl, hI (.return o) hnoted⟩
  · exact ⟨rfl, hI (.glance o halive hheld) hw⟩

theorem visitsUphold_deliver (hh : handle.Uphold I s handle') (p : PassInfo) :
    Pass.VisitsUphold I (.pass p :: s) (deliver handle t d n) (deliver handle' t d n) := by
  intro w v o hw halive hheld
  exact deliver_upholds hI hh (.inr ⟨p, rfl⟩) hw halive hheld

theorem announce_upholds (hh : handle.Uphold I s handle') (depth : Nat) (hw : I s w) :
    Upholds (I s) w (announce handle t d n depth) (announce handle' t d n depth) :=
  .read_bind (Pass.start_upholds hI (visitsUphold_deliver hI hh) hw)

/-- A notification is followed from where its document has been prepared. -/
theorem withSlot_upholds {body body' : Nat → Run (Except NotifyError α)}
    (rest rest' : Nat → Run (Except NotifyError α))
    (hbody : ∀ depth v, body depth v = rest depth (v.prepare d n))
    (hbody' : ∀ depth v, body' depth v = rest' depth (v.prepare d n)) (hw : I s w)
    (hrest : ∀ depth left, (w.document d).dispatcher.enter? t = some (depth, left) →
      I s ((w.takeSlot d t n left).prepare d n) →
      Upholds (I s) ((w.takeSlot d t n left).prepare d n) (rest depth) (rest' depth)) :
    Upholds (I s) w (withSlot t d n body) (withSlot t d n body') := by
  refine .read_bind ?_
  cases hleft : (w.document d).dispatcher.enter? t with
  | none => exact .note_bind (.pure (hI (.beside (.record w rfl)) hw) _)
  | some slot =>
      obtain ⟨depth, left⟩ := slot
      have hprepared : w.Beside ((w.takeSlot d t n left).prepare d n) :=
        (Beside.takeSlot w d t n left).trans (.prepare _ d n)
      have hdone := hrest depth left hleft (hI (.beside hprepared) hw)
      have htaken : Upholds (I s) (w.takeSlot d t n left) (body depth) (body' depth) := by
        constructor
        · rw [hbody, hbody', hdone.same]
        · rw [hbody]
          exact hdone.kept
      exact .change_bind (htaken.ensuring fun v hv => hI (.beside (.releaseSlot v d t)) hv)

end Notify

end

end ChangeNotice
