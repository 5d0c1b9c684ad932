import ChangeNotice.Proofs.PerformTracks
import ChangeNotice.Proofs.Room
import ChangeNotice.Scenario.Session

/-! # Nested notifications end

Handlers may notify documents again, in any order and as often as they like. Each
notification that is on the stack has taken a slot, so notifications can be nested
only as deep as there is room when the first one is made, and each of them calls
finitely many handlers with finitely many steps.

Handlers are tied to themselves up to a bound here. Two bounds are followed at once:
where they exceed the room, runs over them do the same, and neither is cut short.
-/

namespace ChangeNotice

open World

variable {α β : Type} {t : Thread} {k : Nat}

/-- The world is tame and has no more than this much room. -/
structure World.Within (t : Thread) (k : Nat) (w : World) : Prop where
  tame : w.Tame
  room : w.room t ≤ k

theorem World.Keeps.within {w v : World} (h : Keeps t w v) (hw : w.Within t k) : v.Within t k :=
  ⟨h.tame hw.tame, Nat.le_trans h.room hw.room⟩

namespace Run

/-- Two runs have ended alike: neither was cut short, and there is no more room than at first. -/
structure Ended (t : Thread) (k : Nat) (outcome outcome' : Except Unwind α × World) : Prop where
  same : outcome = outcome'
  whole : outcome.1 ≠ .error .exhausted
  within : outcome.2.Within t k

namespace Ended

variable {w : World} {m m' : Run α} {f f' : α → Run β}

theorem bind (h : Ended t k (m w) (m' w))
    (hf : ∀ a v, m w = (.ok a, v) → v.Within t k → Ended t k (f a v) (f' a v)) :
    Ended t k ((m >>= f) w) ((m' >>= f') w) := by
  obtain ⟨hsame, hwhole, hwithin⟩ := h
  rw [bind_apply, bind_apply, ← hsame]
  cases hrun : m w with
  | mk result v =>
      rw [hrun] at hwhole hwithin
      cases result with
      | ok a => exact hf a v hrun hwithin
      | error x => exact ⟨rfl, by simpa using hwhole, hwithin⟩

theorem map {g : α → β} (h : Ended t k (m w) (m' w)) :
    Ended t k ((m >>= fun a => Pure.pure (g a)) w) ((m' >>= fun a => Pure.pure (g a)) w) :=
  h.bind fun _ _ _ hv => ⟨rfl, by simp, hv⟩

end Ended

/-- From every tame world without more room, both runs end alike. -/
def EndAlike (t : Thread) (k : Nat) (m m' : Run α) : Prop :=
  ∀ w, w.Within t k → Ended t k (m w) (m' w)

namespace EndAlike

variable {m m' : Run α} {f f' : α → Run β}

theorem pure (a : α) : EndAlike t k (Pure.pure a : Run α) (Pure.pure a) :=
  fun _ hw => ⟨rfl, by simp, hw⟩

theorem read (g : World → α) : EndAlike t k (Run.read g) (Run.read g) :=
  fun _ hw => ⟨rfl, by simp, hw⟩

theorem change {g : World → World} (hg : ∀ w, Keeps t w (g w)) :
    EndAlike t k (Run.change g) (Run.change g) :=
  fun w hw => ⟨rfl, by simp, (hg w).within hw⟩

theorem note (moment : Moment) : EndAlike t k (Run.note moment) (Run.note moment) :=
  change fun w => .record w moment

theorem bind (h : EndAlike t k m m') (hf : ∀ a, EndAlike t k (f a) (f' a)) :
    EndAlike t k (m >>= f) (m' >>= f') :=
  fun w hw => (h w hw).bind fun a v _ hv => hf a v hv

theorem read_bind {g : World → α} (hf : ∀ a, EndAlike t k (f a) (f' a)) :
    EndAlike t k (Run.read g >>= f) (Run.read g >>= f') :=
  (read g).bind hf

theorem change_bind {g : World → World} {f f' : Unit → Run β} (hg : ∀ w, Keeps t w (g w))
    (hf : EndAlike t k (f ()) (f' ())) : EndAlike t k (Run.change g >>= f) (Run.change g >>= f') :=
  (change hg).bind fun _ => hf

theorem note_bind {moment : Moment} {f f' : Unit → Run β} (hf : EndAlike t k (f ()) (f' ())) :
    EndAlike t k (Run.note moment >>= f) (Run.note moment >>= f') :=
  (note moment).bind fun _ => hf

theorem map {g : α → β} (h : EndAlike t k m m') :
    EndAlike t k (m >>= fun a => Pure.pure (g a)) (m' >>= fun a => Pure.pure (g a)) :=
  fun w hw => (h w hw).map

theorem ensuring {after : World → World} (h : EndAlike t k m m')
    (hafter : ∀ w, Keeps t w (after w)) :
    EndAlike t k (Run.ensuring m after) (Run.ensuring m' after) := by
  intro w hw
  obtain ⟨hsame, hwhole, hwithin⟩ := h w hw
  rw [ensuring_apply, ensuring_apply, ← hsame]
  exact ⟨rfl, hwhole, (hafter _).within hwithin⟩

theorem holding (h : EndAlike t k m m') (o : Name) :
    EndAlike t k (Run.holding o m) (Run.holding o m') :=
  (change fun w => .hold w o).bind fun _ => h.ensuring fun w => .unhold w o

theorem catching {m m' : Run Unit} (h : EndAlike t k m m') :
    EndAlike t k (Run.catching m) (Run.catching m') := by
  intro w hw
  obtain ⟨hsame, hwhole, hwithin⟩ := h w hw
  unfold Run.catching
  rw [← hsame]
  cases hrun : m w with
  | mk result v =>
      rw [hrun] at hwhole hwithin
      match result, hwhole with
      | .ok (), _ => exact ⟨rfl, by simp, hwithin⟩
      | .error (.panic message), _ => exact ⟨rfl, by simp, hwithin⟩

theorem times {m m' : Run Unit} (h : EndAlike t k m m') (count : Nat) :
    EndAlike t k (Run.times count m) (Run.times count m') := by
  induction count with
  | zero => exact pure ()
  | succ count ih => exact h.bind fun _ => ih

theorem each {run run' : β → Run Unit} (h : ∀ b, EndAlike t k (run b) (run' b)) (list : List β) :
    EndAlike t k (Run.each run list) (Run.each run' list) := by
  induction list with
  | nil => exact pure ()
  | cons b rest ih => exact (h b).bind fun _ => ih

end EndAlike

end Run

open Run

/-! ## Passes and notifications -/

namespace Pass

variable {visit visit' : Name → Run (Option Verdict)}

theorem walk_endAlike (hvisit : ∀ o, EndAlike t k (visit o) (visit' o)) (p : PassInfo)
    (slots : Snapshot) : EndAlike t k (walk p visit slots) (walk p visit' slots) := by
  induction slots with
  | nil => exact .pure _
  | cons e rest ih =>
      refine .read_bind fun found => ?_
      cases found with
      | live =>
          refine ((EndAlike.note_bind (hvisit e.key)).holding e.key).bind fun answer => ?_
          exact ih.bind fun told => .pure _
      | unregistered => exact .note_bind (ih.bind fun told => .pure _)
      | dropped => exact .note_bind (ih.bind fun told => .pure _)

theorem start_endAlike (hvisit : ∀ o, EndAlike t k (visit o) (visit' o)) (registry issuer : Owner)
    (thread : Thread) (dispatcher : Dispatcher) (kind : Kind) (depth : Nat) :
    EndAlike t k (start registry issuer thread dispatcher kind depth visit)
      (start registry issuer thread dispatcher kind depth visit') := by
  refine .change_bind (fun w => .updateRegistry) ?_
  refine .read_bind fun slots => .read_bind fun serial => ?_
  refine .change_bind (fun w => .of_eq rfl rfl) ?_
  refine EndAlike.ensuring ?_ fun w => .record w _
  refine .note_bind ((walk_endAlike hvisit _ slots).bind fun told => ?_)
  exact .note_bind (.pure _)

end Pass

/-- Handlers on the thread end alike where there is less room than this. -/
def Handlers.EndAlike (t : Thread) (k : Nat) (h h' : Handlers) : Prop :=
  ∀ j < k, ∀ d o n, Run.EndAlike t j (h t d o n) (h' t d o n)

namespace Notify

variable {handle handle' : Handlers} {d : Name} {n : Notice}

theorem deliver_endAlike (hh : ∀ d o n, EndAlike t k (handle t d o n) (handle' t d o n))
    (d : Name) (n : Notice) (o : Name) :
    EndAlike t k (deliver handle t d n o) (deliver handle' t d n o) := by
  rw [deliver_eq, deliver_eq]
  refine .read_bind fun supported => ?_
  split
  · refine .read_bind fun call => .note_bind ?_
    exact (hh d o n).bind fun v => .note_bind (.pure _)
  · exact .pure none

theorem announce_endAlike (hh : ∀ d o n, EndAlike t k (handle t d o n) (handle' t d o n))
    (d : Name) (n : Notice) (depth : Nat) :
    EndAlike t k (announce handle t d n depth) (announce handle' t d n depth) :=
  .read_bind fun _ => Pass.start_endAlike (deliver_endAlike hh d n) _ _ _ _ _ _

/-- The body of a notification has less room than there is outside: the notification has taken a
slot of it. -/
theorem withSlot_ended {w : World} {body body' : Nat → Run (Except NotifyError α)}
    (rest rest' : Nat → Run (Except NotifyError α))
    (hbody : ∀ depth v, body depth v = rest depth (v.prepare d n))
    (hbody' : ∀ depth v, body' depth v = rest' depth (v.prepare d n)) (hw : w.Within t k)
    (hrest : ∀ depth left, (w.document d).dispatcher.enter? t = some (depth, left) → ∀ j < k,
      ((w.takeSlot d t n left).prepare d n).Within t j →
      Ended t j (rest depth ((w.takeSlot d t n left).prepare d n))
        (rest' depth ((w.takeSlot d t n left).prepare d n))) :
    Ended t k (withSlot t d n body w) (withSlot t d n body' w) := by
  cases hslot : (w.document d).dispatcher.enter? t with
  | none =>
      rw [withSlot_full hslot, withSlot_full hslot]
      exact ⟨rfl, by simp, (Keeps.record w _).within hw⟩
  | some slot =>
      obtain ⟨depth, left⟩ := slot
      have hroom := room_takeSlot hslot n
      have hle := hw.room
      have htaken : (w.takeSlot d t n left).Within t (w.room t - 1) :=
        ⟨hw.tame, by omega⟩
      obtain ⟨hsame, hwhole, hwithin⟩ :=
        hrest depth left hslot _ (by omega) ((Keeps.prepare _ d n).within htaken)
      rw [← hbody, ← hbody'] at hsame
      rw [← hbody] at hwhole hwithin
      rw [withSlot_taken hslot, withSlot_taken hslot, ← hsame]
      have hleft := hwithin.room
      have hback := room_releaseSlot_le (body depth (w.takeSlot d t n left)).2 d t
      exact ⟨rfl, hwhole, hwithin.tame, Nat.le_trans hback (by omega)⟩

end Notify

/-! ## Operations and steps -/

namespace Scenario

variable {handle handle' : Handlers} {c : Context}

theorem createObserver_endAlike (name : Name) {role : Role}
    (hrole : ∀ r, role = .recorder r → Step.tameRules r.rules = true) :
    EndAlike t k (createObserver name role) (createObserver name role) := by
  intro w hw
  rw [createObserver_apply]
  split
  · exact ⟨rfl, by simp, hw⟩
  · exact ⟨rfl, by simp, (Keeps.createObserver hrole name).within hw⟩

end Scenario

/-- Every part of a tame operation ends alike over handlers that do. In a slot of its own it has the
room that is left for its handlers. -/
theorem Composed.ended {γ : Type} {handle handle' : Handlers} {c : Context} {operation : Operation}
    {at? : Option Name} {slot : Option (Name × Thread × Nat)} {w : World} {f : α → γ}
    {m : Handlers → Run α} (h : Composed handle c operation at? slot f w m)
    (htame : operation.isTame = true)
    (hh : handle.EndAlike c.thread (slot.elim k fun _ => k + 1) handle')
    (hw : w.Within c.thread k) : Ended c.thread k (m handle w) (m handle' w) := by
  induction h generalizing k with
  | pure a => exact ⟨rfl, by simp, hw⟩
  | panic message => exact ⟨rfl, by simp [Run.panic, Run.unwind], hw⟩
  | bind _ _ ihm ihr => exact (ihm hh hw).bind fun a v hrun hv => ihr a v hrun hh hv
  | map _ ih => exact (ih hh hw).map
  | read => exact ⟨rfl, by simp, hw⟩
  | edit hg => exact ⟨rfl, by simp, (hg.keeps c.thread _).within hw⟩
  | target d _ ih => exact ih hh ((Keeps.record _ _).within hw)
  | slot _ hbody _ ih =>
      refine Notify.withSlot_ended _ _ (hbody handle) (hbody handle') hw ?_
      exact fun depth left hleft j hj hv =>
        ih depth left hleft (fun i hi => hh i (hi.trans_le hj)) hv
  | announce _ _ _ ih =>
      have hpass := Notify.announce_endAlike (hh k (Nat.lt_succ_self k))
      exact (hpass _ _ _ _ hw).bind fun told v hrun hv => (ih told v hrun hh hv).map
  | createDocument huntamed | deliver huntamed | pass huntamed =>
      rw [htame] at huntamed
      exact Bool.noConfusion huntamed

namespace Scenario

variable {handle handle' : Handlers} {c : Context}

theorem perform_endAlike (hh : handle.EndAlike c.thread k handle') {operation : Operation}
    (htame : operation.isTame = true) :
    EndAlike c.thread k (perform handle c operation) (perform handle' c operation) :=
  fun w hw => (perform_composed handle c operation w).ended htame hh hw

mutual

theorem runStep_endAlike (hh : handle.EndAlike c.thread k handle') (s : Step)
    (hs : s.isTame = true) :
    EndAlike c.thread k (runStep handle c s) (runStep handle' c s) := by
  cases s with
  | perform label operation => exact perform_endAlike hh hs
  | createRecorder label name binding verdict rules =>
      refine createObserver_endAlike name fun r hr => ?_
      cases hr
      exact hs
  | attempt label steps => exact (runSteps_endAlike hh steps hs).catching.map
  | spawn label steps => cases hs
  | iterate label count steps =>
      exact ((runSteps_endAlike hh steps hs).times count).bind fun _ => .pure _
  | unusable label => exact .pure _
termination_by structural s

theorem runSteps_endAlike (hh : handle.EndAlike c.thread k handle') (steps : List Step)
    (hsteps : Step.tameSteps steps = true) :
    EndAlike c.thread k (runSteps handle c steps) (runSteps handle' c steps) := by
  cases steps with
  | nil => exact .pure ()
  | cons s rest =>
      obtain ⟨hs, hrest⟩ : s.isTame = true ∧ Step.tameSteps rest = true := by
        simpa [Step.tameSteps] using hsteps
      refine (runStep_endAlike hh s hs).bind fun answer => ?_
      exact .note_bind (runSteps_endAlike hh rest hrest)
termination_by structural steps

end

/-! ## Handlers of any depth -/

theorem fireRule_endAlike {run run' : List Step → Run Unit} (o : Name) (n : Notice) (i : Nat)
    (hrun : ∀ steps, Step.tameSteps steps = true → EndAlike t k (run steps) (run' steps)) :
    EndAlike t k (fireRule run o n i) (fireRule run' o n i) := by
  -- The rules are read in a tame world, so that the steps of each of them are tame.
  intro w hw
  refine Ended.bind (EndAlike.read _ w hw) ?_
  rintro rules v ⟨⟩ hv
  cases hrule : (rulesOf w o)[i]? with
  | none => exact EndAlike.pure () w hv
  | some rule =>
      have hsteps : Step.tameSteps rule.steps = true :=
        Step.tameRules_iff.mp (hw.tame o) rule (List.mem_of_getElem? hrule)
      simp only
      split
      · exact EndAlike.change_bind (fun w => .countFiring w o i) (hrun _ hsteps) w hv
      · exact EndAlike.pure () w hv

theorem handleOnce_endAlike (hh : handle.EndAlike t k handle') (d o : Name) (n : Notice) :
    EndAlike t k (handleOnce handle t d o n) (handleOnce handle' t d o n) := by
  rw [handleOnce_eq, handleOnce_eq]
  refine .read_bind fun observer => ?_
  cases observer.role with
  | quiet binding => exact .pure _
  | sink s =>
      cases n with
      | event e =>
          rw [sinkHandlers_on]
          exact .change_bind (fun w => .offer w o _ e) (.pure _)
      | script content parser => exact .pure _
  | recorder r =>
      refine (EndAlike.each (fun i => ?_) _).bind fun _ => .pure _
      exact fireRule_endAlike o n i fun steps hsteps =>
        runSteps_endAlike (c := ⟨t, some o, some d⟩) hh steps hsteps

/-- Handlers that may be nested as deep as there is room do not notice how much deeper they may be
nested. -/
theorem respond_endAlike (t : Thread) (k : Nat) {depth : Nat} (hdepth : k ≤ depth) :
    (respond k).EndAlike t k (respond depth) := by
  -- By induction on the room: a handler is only called with a slot taken, so with less room.
  induction k generalizing depth with
  | zero => exact fun j hj => absurd hj (Nat.not_lt_zero j)
  | succ k ih =>
      obtain ⟨rest, rfl⟩ : ∃ rest, depth = rest + 1 := ⟨depth - 1, by omega⟩
      intro j hj d o n
      have hnested : (respond k).EndAlike t j (respond rest) :=
        fun i hi => ih (by omega) i (by omega)
      exact handleOnce_endAlike hnested d o n

/-- Handlers that may be nested as deep as there is room. -/
def respondFreely : Handlers where
  of t o role := .choosing (fun w => w.room t + 1) fun depth => (respond depth).of t o role

theorem respondFreely_apply (t : Thread) (d o : Name) (n : Notice) (w : World) :
    respondFreely t d o n w = respond (w.room t + 1) t d o n w := by
  rw [Handlers.on, Handlers.on, respondFreely, ObserverHandlers.on_choosing]

theorem respond_endAlike_freely (t : Thread) (k : Nat) :
    (respond k).EndAlike t k respondFreely := by
  intro j hj d o n w hw
  have hdepth : w.room t + 1 ≤ k := by
    have hroom := hw.room
    omega
  obtain ⟨hsame, hwhole, hwithin⟩ := respond_endAlike t (w.room t + 1) hdepth (w.room t)
    (Nat.lt_succ_self _) d o n w ⟨hw.tame, Nat.le_refl _⟩
  rw [← respondFreely_apply] at hsame hwhole hwithin
  refine ⟨hsame.symm, ?_, ?_⟩
  · rw [← hsame]
    exact hwhole
  · rw [← hsame]
    exact ⟨hwithin.tame, Nat.le_trans hwithin.room hw.room⟩

/-- These handlers are tied to themselves, without a bound. -/
theorem respondFreely_eq {w : World} (hw : w.Tame) (t : Thread) (d o : Name) (n : Notice) :
    respondFreely t d o n w = handleOnce respondFreely t d o n w := by
  rw [respondFreely_apply]
  exact (handleOnce_endAlike (respond_endAlike_freely t (w.room t)) d o n w
    ⟨hw, Nat.le_refl _⟩).same

end Scenario

/-- In tame worlds there are handlers that are tied to themselves without a bound, and every tame
operation ends over them, a notification above all: it is not cut short, and handlers that may be
nested as deep as there is room on the thread, or deeper, do the same. -/
theorem Scenario.perform_ends {w : World} (hw : w.Tame) (c : Context) {operation : Operation}
    (htame : operation.isTame = true) :
    (∀ (v : World) (t : Thread) (d o : Name) (n : Notice), v.Tame →
      respondFreely t d o n v = handleOnce respondFreely t d o n v) ∧
    (perform respondFreely c operation w).1 ≠ .error .exhausted ∧
    ∀ depth, w.room c.thread ≤ depth →
      perform (respond depth) c operation w = perform respondFreely c operation w := by
  refine ⟨fun v t d o n hv => respondFreely_eq hv t d o n, ?_⟩
  have hwithin : w.Within c.thread (w.room c.thread) := ⟨hw, Nat.le_refl _⟩
  have hfree := perform_endAlike (respond_endAlike_freely c.thread _) htame w hwithin
  refine ⟨hfree.same ▸ hfree.whole, ?_⟩
  intro depth hdepth
  have hdeep := perform_endAlike (respond_endAlike c.thread _ hdepth) htame w hwithin
  exact hdeep.same.symm.trans hfree.same

/-- Two documents with one observer, whose handler announces both loads again whenever it hears of
one. -/
def resounding : World :=
  (Session.runFrom 1 none .empty
    [.perform none (.createDocument "d" { maxDepth := 2 }),
      .perform none (.createDocument "e" { maxDepth := 1 }),
      .createRecorder none "a" false .proceed
        [⟨.beginLoad, none, none,
          [.perform none (.notify (some "d") .beginLoad),
            .perform none (.notify (some "e") .beginLoad)], 0⟩],
      .perform none (.register (.document (some "d")) "a"),
      .perform none (.register (.document (some "e")) "a")]).2

theorem resounding_tame : resounding.Tame := by
  apply World.tame_of_rows
  decide +kernel

/-- There is room for three notifications, and with the bound that sessions have the call returns
just as it does with a bound of three. -/
theorem perform_ends_resounding :
    (Scenario.perform (Scenario.respond Session.nestingBound) .top (.notify (some "d") .beginLoad)
      resounding).1 = .ok (.report ⟨1, 0, 0, 0⟩) := by
  have hroom : resounding.room 0 = 3 := by decide +kernel
  have hends := (Scenario.perform_ends resounding_tame .top
    (rfl : (Operation.notify (some "d") .beginLoad).isTame = true)).2.2
  have hbound : resounding.room Context.top.thread ≤ Session.nestingBound := by
    change resounding.room 0 ≤ 100000
    rw [hroom]
    decide
  rw [hends _ hbound, ← hends 3 (Nat.le_of_eq hroom)]
  decide +kernel

end ChangeNotice
