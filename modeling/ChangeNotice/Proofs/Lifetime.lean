import ChangeNotice.Proofs.Inside
import ChangeNotice.Proofs.CallStack

/-! # How long observers live

An observer is kept by its owner and by every pass and every delivery that is inside
of one of its handlers, and by nothing else: registries and snapshots name it, but do
not keep it. So it lives exactly as long as one of these does, and dies at the moment
when the last of them lets go.

The journal tells who holds an observer and whether its owner has let go, so it tells
at which moments the observer must die. It dies at these moments and at no others.
-/

namespace ChangeNotice

open World

/-- The observer whose life or whose call the moment tells of. -/
def Moment.life? : Moment → Option Name
  | held o | unheld o | disowned o | freed o => some o
  | called c => some c.observer
  | _ => none

namespace Journal

/-- How many passes and deliveries hold the observer. -/
def keepers (o : Name) (past : List Moment) : Nat :=
  past.count (.held o) - past.count (.unheld o)

/-- The last moment is the one at which nobody keeps the observer any more: its owner lets go and no
handler of it is running, or the outermost of its handlers ends and the owner has let go before. -/
def LastRelease (o : Name) : List Moment → Prop
  | .disowned x :: past => x = o ∧ keepers o past = 0
  | .unheld x :: past => x = o ∧ .disowned o ∈ past ∧ keepers o past = 1
  | _ => False

end Journal

/-- What the moment may say of the observer after what has been said before: the observer is freed
when it dies and not otherwise, and it is called only before that; once its owner has let go, only
while another call holds it. -/
def Moment.LifeLaw (o : Name) (past : List Moment) (m : Moment) : Prop :=
  (m = .freed o ↔ Journal.LastRelease o past) ∧
    ∀ c, m = .called c → c.observer = o →
      .freed o ∉ past ∧ (.disowned o ∈ past → 1 < Journal.keepers o past)

namespace Journal

variable {o : Name} {past news : List Moment} {m : Moment}

/-- Every moment keeps the law of the life of the observer. -/
def LifeLaw (o : Name) : List Moment → Prop := Throughout (Moment.LifeLaw o)

theorem not_lastRelease_of_life? (hm : m.life? ≠ some o) : ¬ LastRelease o (m :: past) := by
  intro hlast
  cases m with
  | disowned x => exact hm (congrArg some hlast.1)
  | unheld x => exact hm (congrArg some hlast.1)
  | _ => exact hlast

/-- As long as the observer need not die, whatever neither frees nor calls it keeps the law. -/
theorem lifeLaw_of_calm (hm : m ≠ .freed o) (hcall : ∀ c, m = .called c → c.observer ≠ o)
    (hcalm : ¬ LastRelease o past) : m.LifeLaw o past := by
  refine ⟨⟨fun heq => absurd heq hm, fun hlast => absurd hlast hcalm⟩, ?_⟩
  intro c heq hc
  exact absurd hc (hcall c heq)

/-- Moments that do not speak of the observer keep the law as long as it need not die. -/
theorem LifeLaw.append (hnews : ∀ m ∈ news, m.life? ≠ some o) (h : LifeLaw o past)
    (hcalm : ¬ LastRelease o past) : LifeLaw o (news ++ past) ∧ ¬ LastRelease o (news ++ past) := by
  induction news with
  | nil => exact ⟨h, hcalm⟩
  | cons m news ih =>
      obtain ⟨hm, hnews⟩ := List.forall_mem_cons.mp hnews
      obtain ⟨hlaw, hcalm⟩ := ih hnews
      refine ⟨⟨lifeLaw_of_calm ?_ ?_ hcalm, hlaw⟩, not_lastRelease_of_life? hm⟩
      · rintro rfl
        exact hm rfl
      · rintro c rfl hc
        exact hm (congrArg some hc)

/-- Whoever keeps the observer lets go, and the observer is freed if nobody else keeps it. -/
theorem LifeLaw.let_go {alive : Bool} (hm : m ≠ .freed o) (hcall : ∀ c, m ≠ .called c)
    (h : LifeLaw o past) (hcalm : ¬ LastRelease o past)
    (hlast : LastRelease o (m :: past) ↔ alive = false) :
    LifeLaw o (if alive then m :: past else .freed o :: m :: past) ∧
      ¬ LastRelease o (if alive then m :: past else .freed o :: m :: past) := by
  have hgone : LifeLaw o (m :: past) :=
    ⟨lifeLaw_of_calm hm (fun c heq => absurd heq (hcall c)) hcalm, h⟩
  cases alive with
  | true => exact ⟨hgone, by simp [hlast]⟩
  | false =>
      refine ⟨⟨⟨⟨fun _ => hlast.mpr rfl, fun _ => rfl⟩, ?_⟩, hgone⟩, fun h => h⟩
      intro c heq
      cases heq

/-- What is said of others leaves all counts. -/
theorem count_append_of_life? (hnews : ∀ m ∈ news, m.life? ≠ some o) (hm : m.life? = some o) :
    (news ++ past).count m = past.count m := by
  have hnone : news.count m = 0 := List.count_eq_zero.mpr fun hmem => hnews m hmem hm
  rw [List.count_append, hnone, Nat.zero_add]

theorem mem_append_of_life? (hnews : ∀ m ∈ news, m.life? ≠ some o) (hm : m.life? = some o) :
    m ∈ news ++ past ↔ m ∈ past := by
  rw [List.mem_append]
  exact or_iff_right fun hmem => hnews m hmem hm

end Journal

/-! ## What happens to one observer -/

namespace World

/-- The journal has grown, and nothing was said of the observer. -/
def Quiet (o : Name) : World → World → Prop := Adds fun m => m.life? ≠ some o

/-- The same keep the observer as before. -/
structure SameLife (o : Name) (w w' : World) : Prop where
  known : w'.observers.contains o = w.observers.contains o
  owned : w'.isOwned o = w.isOwned o
  holds : (w'.observer o).holds = (w.observer o).holds

variable {o x : Name} {w w' : World}

theorem isAlive_eq (w : World) (o : Name) :
    w.isAlive o = (w.isOwned o || decide (0 < (w.observer o).holds)) := rfl

theorem SameLife.isAlive (h : w.SameLife o w') : w'.isAlive o = w.isAlive o := by
  rw [isAlive_eq, isAlive_eq, h.owned, h.holds]

theorem SameLife.of_observers (h : w'.observers = w.observers) : w.SameLife o w' := by
  have hobserver : w'.observer o = w.observer o := congrArg (Table.get · o) h
  exact ⟨by rw [h], congrArg Observer.owned hobserver, congrArg Observer.holds hobserver⟩

/-- What is done to another observer leaves this one. -/
theorem SameLife.of_ne (hne : o ≠ x) (g : Observer → Observer) :
    w.SameLife o (w.updateObserver x g) := by
  have hobserver : (w.updateObserver x g).observer o = w.observer o := by
    rw [observer_updateObserver, if_neg hne]
  exact ⟨by simp [hne], congrArg Observer.owned hobserver, congrArg Observer.holds hobserver⟩

/-- What changes only the role of an observer leaves its life. -/
theorem SameLife.of_role {g : Observer → Observer} (hknown : w.observers.contains x = true)
    (hg : ∀ a, (g a).owned = a.owned ∧ (g a).holds = a.holds) :
    w.SameLife o (w.updateObserver x g) := by
  by_cases heq : o = x
  · subst heq
    refine ⟨by simp [hknown], ?_, ?_⟩
    · rw [isOwned, observer_updateObserver, if_pos rfl]
      exact (hg _).1
    · rw [observer_updateObserver, if_pos rfl]
      exact (hg _).2
  · exact .of_ne heq g

theorem SameLife.updateSink (w : World) (f : Sink → Sink) : w.SameLife o (w.updateSink x f) := by
  unfold World.updateSink
  split
  next hrole => exact .of_role (contains_of_role (by simp [hrole])) fun _ => ⟨rfl, rfl⟩
  next => exact .of_observers rfl

theorem SameLife.updateRecorder (w : World) (f : Recorder → Recorder) :
    w.SameLife o (w.updateRecorder x f) := by
  unfold World.updateRecorder
  split
  next hrole => exact .of_role (contains_of_role (by simp [hrole])) fun _ => ⟨rfl, rfl⟩
  next => exact .of_observers rfl

end World

/-- What one occurrence does to an observer of which so many handlers are running before and
after. -/
inductive LifeMove (o : Name) (w : World) : Nat → World → Nat → Prop
  | keep {n : Nat} {w' : World} (hsame : w.SameLife o w') (hquiet : w.Quiet o w') :
      LifeMove o w n w' n
  | born {n : Nat} {w' : World} (hnew : w.observers.contains o = false)
      (hknown : w'.observers.contains o = true) (howned : w'.isOwned o = true)
      (hholds : (w'.observer o).holds = 0) (hquiet : w.Quiet o w') : LifeMove o w n w' n
  | call {n : Nat} {w' : World} (c : Call) (news : List Moment) (halive : w.isAlive o = true)
      (hsame : (w.hold o).SameLife o w')
      (hpast : w'.past = .called c :: (news ++ .held o :: w.past))
      (hnews : ∀ m ∈ news, m.life? ≠ some o) : LifeMove o w n w' (n + 1)
  | return {n : Nat} : LifeMove o w (n + 1) (w.unhold o) n
  | glance {n : Nat} {w' : World} (news : List Moment) (halive : w.isAlive o = true)
      (hsame : w.SameLife o w') (hpast : w'.past = .unheld o :: (news ++ .held o :: w.past))
      (hnews : ∀ m ∈ news, m.life? ≠ some o) : LifeMove o w n w' n
  | disown {n : Nat} (hown : w.isOwned o = true) : LifeMove o w n (w.disown o) n

theorem Moment.life?_of_not_isNotable {m : Moment} (h : m.isNotable = false) :
    m.life? = none := by
  cases m <;> first | rfl | exact absurd h (by simp [isNotable])

namespace World

variable {o x : Name} {w w' v : World}

theorem Beside.quiet (h : w.Beside w') : w.Quiet o w' := by
  refine h.past.mono fun m hm => ?_
  rw [Moment.life?_of_not_isNotable hm]
  simp

/-- What is said when another observer loses one of those who keep it. -/
theorem Quiet.of_let_go {m : Moment} (hm : m.life? ≠ some o) (hne : o ≠ x) {alive : Bool}
    (hpast : w'.past = if alive then m :: w.past else .freed x :: m :: w.past) :
    w.Quiet o w' := by
  cases alive with
  | true => exact Adds.cons hpast hm
  | false =>
      refine ⟨[.freed x, m], hpast, fun m' hm' => ?_⟩
      rcases List.mem_cons.mp hm' with rfl | hm'
      · exact fun h => hne (Option.some.inj h).symm
      · rw [List.mem_singleton.mp hm']
        exact hm

theorem Quiet.hold_of_ne (hne : o ≠ x) : w.Quiet o (w.hold x) :=
  .cons (m := .held x) rfl fun h => hne (Option.some.inj h).symm

theorem Quiet.unhold_of_ne (hne : o ≠ x) : w.Quiet o (w.unhold x) :=
  .of_let_go (m := .unheld x) (fun h => hne (Option.some.inj h).symm) hne (past_unhold w x)

theorem Quiet.disown_of_ne (hne : o ≠ x) : w.Quiet o (w.disown x) :=
  .of_let_go (m := .disowned x) (fun h => hne (Option.some.inj h).symm) hne (past_disown w x)

theorem SameLife.of_observer (hknown : w'.observers.contains o = w.observers.contains o)
    (hobserver : w'.observer o = w.observer o) : w.SameLife o w' :=
  ⟨hknown, congrArg Observer.owned hobserver, congrArg Observer.holds hobserver⟩

theorem SameLife.hold_of_ne (hne : o ≠ x) : w.SameLife o (w.hold x) :=
  .of_observer (by simp [hne]) (by simp [hne])

theorem SameLife.unhold_of_ne (hne : o ≠ x) : w.SameLife o (w.unhold x) :=
  .of_observer (by simp [hne]) (by simp [hne])

theorem SameLife.disown_of_ne (hne : o ≠ x) : w.SameLife o (w.disown x) :=
  .of_observer (by simp [hne]) (by simp [hne])

theorem SameLife.trans (h : w.SameLife o v) (h' : v.SameLife o w') : w.SameLife o w' :=
  ⟨h'.known.trans h.known, h'.owned.trans h.owned, h'.holds.trans h.holds⟩

/-- Who is held for a moment is kept by the same afterwards. -/
theorem SameLife.glance (halive : w.isAlive o = true) (hheld : (w.hold o).Beside v) :
    w.SameLife o (v.unhold o) := by
  have hobserver : (v.unhold o).observer o = w.observer o := by
    rw [observer_unhold, if_pos rfl, hheld.observer, observer_hold, if_pos rfl]
    rfl
  refine .of_observer ?_ hobserver
  rw [contains_unhold, contains_of_isAlive halive]
  simp

end World

theorem offer_sameLife (w : World) (x : Name) (id : DocumentId) (e : Event) {o : Name} :
    w.SameLife o (Scenario.offer x id e w) := by
  unfold Scenario.offer
  split
  · exact .of_observers rfl
  · simp only
    split
    · exact (SameLife.updateSink w _).trans (.of_observers rfl)
    · exact (SameLife.updateSink w _).trans (.of_observers rfl)

theorem offer_quiet (w : World) (x : Name) (id : DocumentId) (e : Event) {o : Name} :
    w.Quiet o (Scenario.offer x id e w) := by
  unfold Scenario.offer
  split
  next => exact .of_past rfl
  next k _ =>
    simp only
    have hoffered : w.Quiet o ((w.updateSink x fun _ => (k.offer id e).1).record
        (.offered x id e (k.offer id e).2)) :=
      .cons (congrArg _ (past_updateSink w x _)) (by simp [Moment.life?])
    split
    · exact hoffered.trans (.cons rfl (by simp [Moment.life?]))
    · exact hoffered

/-- Everything that happens is one of these for every observer. -/
theorem Occurrence.lifeMove {s s' : List Activity} {w w' : World} (h : Occurrence s w s' w')
    (o : Name) :
    LifeMove o w (s.count (.handler o)) w' (s'.count (.handler o)) := by
  cases h with
  | beside h => exact .keep (.of_observers h.observers) h.quiet
  | create x role hnew hrole =>
      by_cases heq : o = x
      · subst heq
        exact .born hnew (by simp) (by simp [isOwned, observer, Observer.new])
          (by simp [observer, Observer.new]) (.of_past rfl)
      · exact .keep (.of_observer (by simp [heq]) (by simp [observer, heq])) (.of_past rfl)
  | createSink x config hnew =>
      have hquiet : w.Quiet o { w.record (.sinkMade x config) with
          observers := w.observers.set x (.new (.sink (.new config))) } :=
        .cons rfl (by simp [Moment.life?])
      by_cases heq : o = x
      · subst heq
        exact .born hnew (by simp) (by simp [isOwned, observer, Observer.new])
          (by simp [observer, Observer.new]) hquiet
      · exact .keep (.of_observer (by simp [heq]) (by simp [observer, heq])) hquiet
  | remember x f => exact .keep (.updateRecorder w f) (.of_past (past_updateRecorder w x f))
  | offer x id e => exact .keep (offer_sameLife w x id e) (offer_quiet w x id e)
  | read x k hsink events rest hbuffer =>
      refine .keep ((SameLife.updateSink w _).trans (.of_observers rfl)) ?_
      exact .cons (congrArg _ (past_updateSink w x _)) (by simp [Moment.life?])
  | disconnect x => exact .keep (.updateSink w _) (.of_past (past_updateSink w x _))
  | disown x hown =>
      by_cases heq : o = x
      · subst heq
        exact .disown hown
      · exact .keep (.disown_of_ne heq) (.disown_of_ne heq)
  | @call s w v t d x n halive hheld =>
      obtain ⟨news, hpast, hnews⟩ := hheld.quiet (o := o)
      by_cases heq : o = x
      · subst heq
        rw [List.count_cons_self]
        exact .call _ news halive (.of_observers hheld.observers) (congrArg _ hpast) hnews
      · rw [List.count_cons_of_ne (by simpa using Ne.symm heq)]
        have hsame : w.SameLife o v :=
          (SameLife.hold_of_ne heq).trans (.of_observers hheld.observers)
        have hquiet : w.Quiet o v := (Quiet.hold_of_ne heq).trans hheld.quiet
        have hcalled : (Moment.called (v.callOf t d x n)).life? ≠ some o :=
          fun h => heq (Option.some.inj h).symm
        exact .keep (hsame.trans (.of_observers rfl)) (hquiet.trans (.cons rfl hcalled))
  | «return» x =>
      by_cases heq : o = x
      · subst heq
        rw [List.count_cons_self]
        exact .return
      · rw [List.count_cons_of_ne (by simpa using Ne.symm heq)]
        exact .keep (.unhold_of_ne heq) (.unhold_of_ne heq)
  | @glance s w v x halive hheld =>
      obtain ⟨news, hpast, hnews⟩ := hheld.quiet (o := o)
      by_cases heq : o = x
      · subst heq
        have hsame := SameLife.glance halive hheld
        refine .glance news halive hsame ?_ hnews
        rw [past_unhold, hsame.isAlive, if_pos halive, hpast]
        rfl
      · have hsame : w.SameLife o v :=
          (SameLife.hold_of_ne heq).trans (.of_observers hheld.observers)
        have hquiet : w.Quiet o v := (Quiet.hold_of_ne heq).trans hheld.quiet
        exact .keep (hsame.trans (.unhold_of_ne heq)) (hquiet.trans (Quiet.unhold_of_ne heq))
  | enterPass p hserial =>
      rw [List.count_cons_of_ne (by simp)]
      refine .keep (.of_observers (observers_updateRegistry w _ _)) ?_
      exact .cons (congrArg _ (past_updateRegistry w _ _)) (by simp [Moment.life?])
  | finishPass p r =>
      rw [List.count_cons_of_ne (by simp)]
      refine .keep (.of_observers rfl) (.trans (.cons (m := .passFinished p r) rfl ?_)
        (.cons (m := .passLeft p) rfl ?_))
      · simp [Moment.life?]
      · simp [Moment.life?]
  | abandonPass p =>
      rw [List.count_cons_of_ne (by simp)]
      exact .keep (.of_observers rfl) (.cons (m := .passLeft p) rfl (by simp [Moment.life?]))

/-! ## The life of one observer -/

/-- The journal is right about the life of the observer, of which so many handlers are running. -/
structure World.Lives (o : Name) (w : World) (running : Nat) : Prop where
  holds : (w.observer o).holds = running
  keepers : w.past.count (.held o) = w.past.count (.unheld o) + running
  disowned : .disowned o ∈ w.past ↔ w.observers.contains o = true ∧ w.isOwned o = false
  freed : w.past.count (.freed o) = if w.observers.contains o && !w.isAlive o then 1 else 0
  lifeLaw : Journal.LifeLaw o w.past
  calm : ¬ Journal.LastRelease o w.past

namespace World.Lives

variable {o : Name} {w w' : World} {n n' : Nat}

theorem empty (o : Name) : World.empty.Lives o 0 where
  holds := rfl
  keepers := rfl
  disowned := by simp [World.empty]
  freed := by simp [World.empty]
  lifeLaw := trivial
  calm := fun h => h

theorem keepers_eq (h : w.Lives o n) : Journal.keepers o w.past = n := by
  have hkeepers := h.keepers
  unfold Journal.keepers
  omega

theorem isAlive_iff (h : w.Lives o n) : w.isAlive o = true ↔ w.isOwned o = true ∨ 0 < n := by
  rw [isAlive_eq, h.holds]
  simp

/-- Whoever is alive has not been freed. -/
theorem not_freed (h : w.Lives o n) (halive : w.isAlive o = true) : .freed o ∉ w.past := by
  apply List.count_eq_zero.mp
  rw [h.freed, halive]
  simp

/-- Whoever is alive without an owner is inside of a handler. -/
theorem running_of_disowned (h : w.Lives o n) (halive : w.isAlive o = true)
    (hdisowned : .disowned o ∈ w.past) : 0 < n := by
  rcases h.isAlive_iff.mp halive with hown | hrunning
  · rw [(h.disowned.mp hdisowned).2] at hown
    cases hown
  · exact hrunning

/-- The journal after an observer has been held, as it stands until its handler is called. -/
structure Held (o : Name) (past : List Moment) (n : Nat) : Prop where
  keepers : Journal.keepers o past = n + 1
  freed : .freed o ∉ past
  disowned : .disowned o ∈ past → 0 < n
  lifeLaw : Journal.LifeLaw o past
  calm : ¬ Journal.LastRelease o past

theorem held (h : w.Lives o n) (halive : w.isAlive o = true) {news : List Moment}
    (hnews : ∀ m ∈ news, m.life? ≠ some o) : Held o (news ++ .held o :: w.past) n := by
  have hheld : Journal.LifeLaw o (.held o :: w.past) :=
    ⟨Journal.lifeLaw_of_calm (by simp) (by simp) h.calm, h.lifeLaw⟩
  obtain ⟨hlaw, hcalm⟩ := hheld.append hnews fun hlast => hlast
  have hkeepers := h.keepers
  refine ⟨?_, ?_, ?_, hlaw, hcalm⟩
  · unfold Journal.keepers
    rw [Journal.count_append_of_life? hnews rfl, Journal.count_append_of_life? hnews rfl,
      List.count_cons_self, List.count_cons_of_ne (by simp)]
    omega
  · rw [Journal.mem_append_of_life? hnews rfl]
    simpa using h.not_freed halive
  · rw [Journal.mem_append_of_life? hnews rfl]
    intro hdisowned
    exact h.running_of_disowned halive (by simpa using hdisowned)

theorem keep (h : w.Lives o n) (hsame : w.SameLife o w') (hquiet : w.Quiet o w') :
    w'.Lives o n := by
  obtain ⟨news, hpast, hnews⟩ := hquiet
  obtain ⟨hlaw, hcalm⟩ := h.lifeLaw.append hnews h.calm
  refine ⟨hsame.holds.trans h.holds, ?_, ?_, ?_, hpast ▸ hlaw, hpast ▸ hcalm⟩
  · rw [hpast, Journal.count_append_of_life? hnews rfl, Journal.count_append_of_life? hnews rfl]
    exact h.keepers
  · rw [hpast, Journal.mem_append_of_life? hnews rfl, hsame.known, hsame.owned]
    exact h.disowned
  · rw [hpast, Journal.count_append_of_life? hnews rfl, hsame.known, hsame.isAlive]
    exact h.freed

theorem born (h : w.Lives o n) (hnew : w.observers.contains o = false)
    (howned : w'.isOwned o = true) (hholds : (w'.observer o).holds = 0) (hquiet : w.Quiet o w') :
    w'.Lives o n := by
  obtain ⟨news, hpast, hnews⟩ := hquiet
  obtain ⟨hlaw, hcalm⟩ := h.lifeLaw.append hnews h.calm
  have hnone : (w.observer o).holds = 0 := by
    rw [observer, Table.get_of_not_contains hnew]
    rfl
  refine ⟨?_, ?_, ?_, ?_, hpast ▸ hlaw, hpast ▸ hcalm⟩
  · rw [hholds, ← hnone]
    exact h.holds
  · rw [hpast, Journal.count_append_of_life? hnews rfl, Journal.count_append_of_life? hnews rfl]
    exact h.keepers
  · rw [hpast, Journal.mem_append_of_life? hnews rfl, h.disowned, hnew, howned]
    simp
  · rw [hpast, Journal.count_append_of_life? hnews rfl, h.freed, hnew, isAlive_of_isOwned howned]
    simp

theorem call (h : w.Lives o n) {c : Call} {news : List Moment} (halive : w.isAlive o = true)
    (hsame : (w.hold o).SameLife o w') (hpast : w'.past = .called c :: (news ++ .held o :: w.past))
    (hnews : ∀ m ∈ news, m.life? ≠ some o) : w'.Lives o (n + 1) := by
  have hheld := h.held halive hnews
  have hknown : w'.observers.contains o = true := by
    rw [hsame.known, contains_hold]
    simp
  have hholds : (w'.observer o).holds = n + 1 := by
    rw [hsame.holds, observer_hold, if_pos rfl]
    exact congrArg (· + 1) h.holds
  have halive' : w'.isAlive o = true := by
    rw [isAlive_eq, hholds]
    simp
  have hkeepers := h.keepers
  refine ⟨hholds, ?_, ?_, ?_, ?_, ?_⟩
  · rw [hpast, List.count_cons_of_ne (by simp), List.count_cons_of_ne (by simp),
      Journal.count_append_of_life? hnews rfl, Journal.count_append_of_life? hnews rfl,
      List.count_cons_self, List.count_cons_of_ne (by simp)]
    omega
  · have howned : w'.isOwned o = w.isOwned o := by
      rw [hsame.owned, isOwned, observer_hold, if_pos rfl]
      rfl
    rw [hpast, List.mem_cons, Journal.mem_append_of_life? hnews rfl, List.mem_cons, h.disowned,
      howned, hknown, contains_of_isAlive halive]
    simp
  · rw [hknown, halive', hpast]
    exact List.count_eq_zero.mpr (by simpa using hheld.freed)
  · rw [hpast]
    refine ⟨⟨⟨by simp, fun hlast => absurd hlast hheld.calm⟩, ?_⟩, hheld.lifeLaw⟩
    -- without an owner the observer was alive by another handler, and this one keeps it as well
    intro c' _ _
    refine ⟨hheld.freed, fun hdisowned => ?_⟩
    have hrunning := hheld.disowned hdisowned
    rw [hheld.keepers]
    omega
  · rw [hpast]
    exact fun hlast => hlast

theorem glance (h : w.Lives o n) {news : List Moment} (halive : w.isAlive o = true)
    (hsame : w.SameLife o w') (hpast : w'.past = .unheld o :: (news ++ .held o :: w.past))
    (hnews : ∀ m ∈ news, m.life? ≠ some o) : w'.Lives o n := by
  have hheld := h.held halive hnews
  have hkeepers := h.keepers
  refine ⟨hsame.holds.trans h.holds, ?_, ?_, ?_, ?_, ?_⟩
  · rw [hpast, List.count_cons_of_ne (by simp), List.count_cons_self,
      Journal.count_append_of_life? hnews rfl, Journal.count_append_of_life? hnews rfl,
      List.count_cons_self, List.count_cons_of_ne (by simp)]
    omega
  · rw [hpast, List.mem_cons, Journal.mem_append_of_life? hnews rfl, List.mem_cons, h.disowned,
      hsame.known, hsame.owned]
    simp
  · rw [hsame.known, hsame.isAlive, ← h.freed, hpast, List.count_cons_of_ne (by simp),
      Journal.count_append_of_life? hnews rfl, List.count_cons_of_ne (by simp)]
  · rw [hpast]
    exact ⟨Journal.lifeLaw_of_calm (by simp) (by simp) hheld.calm, hheld.lifeLaw⟩
  · rw [hpast]
    -- whoever kept the observer alive before it was looked at keeps it still
    rintro ⟨-, hdisowned, hone⟩
    have hrunning := hheld.disowned hdisowned
    rw [hheld.keepers] at hone
    omega

theorem «return» (h : w.Lives o (n + 1)) : (w.unhold o).Lives o n := by
  have hkeepers := h.keepers
  have hholds : ((w.unhold o).observer o).holds = n := by
    rw [observer_unhold, if_pos rfl]
    exact congrArg (· - 1) h.holds
  have halive : w.isAlive o = true := h.isAlive_iff.mpr (.inr (Nat.succ_pos n))
  have hknown := contains_of_isAlive halive
  have howned : (w.unhold o).isOwned o = w.isOwned o := by
    rw [isOwned, observer_unhold, if_pos rfl]
    rfl
  have hknown' : (w.unhold o).observers.contains o = true := by
    rw [contains_unhold, hknown]
    simp
  have hlast : Journal.LastRelease o (.unheld o :: w.past) ↔ (w.unhold o).isAlive o = false := by
    rw [isAlive_eq, howned, hholds, Journal.LastRelease, h.disowned, h.keepers_eq, hknown]
    simp
  obtain ⟨hlaw, hcalm⟩ := h.lifeLaw.let_go (by simp) (by simp) h.calm hlast
  rw [← past_unhold] at hlaw hcalm
  refine ⟨hholds, ?_, ?_, ?_, hlaw, hcalm⟩
  · rw [past_unhold]
    split <;> simp <;> omega
  · have hmem : .disowned o ∈ (w.unhold o).past ↔ .disowned o ∈ w.past := by
      rw [past_unhold]
      split <;> simp
    rw [hmem, h.disowned, howned, hknown', hknown]
  · have hnone : w.past.count (.freed o) = 0 := List.count_eq_zero.mpr (h.not_freed halive)
    rw [past_unhold, hknown']
    cases (w.unhold o).isAlive o <;> simp [hnone]

theorem disown (h : w.Lives o n) (hown : w.isOwned o = true) : (w.disown o).Lives o n := by
  have hkeepers := h.keepers
  have hholds : ((w.disown o).observer o).holds = n := by
    rw [observer_disown, if_pos rfl]
    exact h.holds
  have halive := isAlive_of_isOwned hown
  have howned : (w.disown o).isOwned o = false := by
    rw [isOwned, observer_disown, if_pos rfl]
  have hknown' : (w.disown o).observers.contains o = true := by
    rw [contains_disown]
    simp
  have hlast : Journal.LastRelease o (.disowned o :: w.past) ↔ (w.disown o).isAlive o = false := by
    rw [isAlive_eq, howned, hholds, Journal.LastRelease, h.keepers_eq]
    simp
  obtain ⟨hlaw, hcalm⟩ := h.lifeLaw.let_go (by simp) (by simp) h.calm hlast
  rw [← past_disown] at hlaw hcalm
  refine ⟨hholds, ?_, ?_, ?_, hlaw, hcalm⟩
  · rw [past_disown]
    split <;> simpa [List.count_cons] using hkeepers
  · have hmem : .disowned o ∈ (w.disown o).past := by
      rw [past_disown]
      split <;> simp
    exact ⟨fun _ => ⟨hknown', howned⟩, fun _ => hmem⟩
  · have hnone : w.past.count (.freed o) = 0 := List.count_eq_zero.mpr (h.not_freed halive)
    rw [past_disown, hknown']
    cases (w.disown o).isAlive o <;> simp [hnone]

/-- What happens keeps the journal right about the life of every observer. -/
theorem move (h : w.Lives o n) (hmove : LifeMove o w n w' n') : w'.Lives o n' := by
  cases hmove with
  | keep hsame hquiet => exact h.keep hsame hquiet
  | born hnew hknown howned hholds hquiet => exact h.born hnew howned hholds hquiet
  | call c news halive hsame hpast hnews => exact h.call halive hsame hpast hnews
  | «return» => exact h.return
  | glance news halive hsame hpast hnews => exact h.glance halive hsame hpast hnews
  | disown hown => exact h.disown hown

end World.Lives

/-- The journal is right about the lives of all observers, given what is going on. -/
def World.AllLive (s : List Activity) (w : World) : Prop :=
  ∀ o, w.Lives o (s.count (.handler o))

theorem World.AllLive.kept : Occurrence.Keep World.AllLive :=
  fun hoccurs hw o => (hw o).move (hoccurs.lifeMove o)

theorem Activity.count_handlers (s : List Activity) (o : Name) :
    (s.filterMap handler?).count o = s.count (.handler o) := by
  induction s with
  | nil => rfl
  | cons a s ih =>
      cases a with
      | pass p =>
          rw [List.count_cons_of_ne (by simp)]
          exact ih
      | handler x =>
          show (x :: s.filterMap handler?).count o = _
          by_cases heq : x = o
          · rw [heq, List.count_cons_self, List.count_cons_self, ih]
          · rw [List.count_cons_of_ne heq, List.count_cons_of_ne (by simpa using heq), ih]

variable {stack : List Name} {w : World}

/-- Of every observer exactly those handlers hold it that are running. -/
theorem Inside.lives (hw : Inside stack w) (o : Name) : w.Lives o (stack.count o) := by
  obtain ⟨s, rfl, hlives⟩ := hw.upholds World.AllLive.kept World.Lives.empty
  rw [Activity.count_handlers]
  exact hlives o

/-- A handler is called of an observer that has its owner, or of which another handler is running
already. -/
theorem Inside.called (hw : Inside stack w) {handle : Handlers} (hhandle : handle.Client)
    {c : Context} {operation : Operation} {t : Thread} {d o : Name} {n : Notice} {v : World}
    (hcall : Consults (fun handle => Scenario.perform handle c operation) handle w t d o n v) :
    .freed o ∉ v.past ∧ (v.isOwned o = true ∨ o ∈ stack) := by
  have hv := (hw.handler hhandle hcall).lives o
  have hrunning : 0 < (o :: stack).count o := List.count_pos_iff.mpr List.mem_cons_self
  refine ⟨hv.not_freed (hv.isAlive_iff.mpr (.inr hrunning)), ?_⟩
  obtain ⟨s, rfl, hlives⟩ := hw.upholds World.AllLive.kept World.Lives.empty
  obtain ⟨base, hbase, u, u', hu, halive, hheld, rfl⟩ :=
    hcall.begins World.AllLive.kept hhandle hlives
  -- the observer was alive when it was held, and its owner has not let go since
  have howned : (u'.record (.called (u'.callOf t d o n))).isOwned o = u.isOwned o := by
    rw [isOwned_record, isOwned, hheld.observer, observer_hold, if_pos rfl]
    rfl
  rw [howned]
  rcases (hu o).isAlive_iff.mp halive with hown | hrunning
  · exact .inl hown
  · right
    rw [← Activity.count_handlers, hbase.handlers] at hrunning
    exact List.count_pos_iff.mp hrunning

/-- An observer lives exactly as long as its owner or one of its handlers keeps it. It is freed
once, at the moment when the last of them lets go, and its handlers are called only before that;
once the owner has let go, they are called only inside of one another. Registries and snapshots do
not come into it. -/
theorem Inside.life_exact (hw : Inside stack w) (o : Name) :
    (w.isAlive o = true ↔ w.isOwned o = true ∨ o ∈ stack) ∧
      Journal.keepers o w.past = stack.count o ∧
      (w.past.count (.freed o) = if w.observers.contains o && !w.isAlive o then 1 else 0) ∧
      (∀ later m earlier, w.past = later ++ m :: earlier →
        (m = .freed o ↔ Journal.LastRelease o earlier)) ∧
      ¬ Journal.LastRelease o w.past ∧
      (∀ later c earlier, w.past = later ++ .called c :: earlier → c.observer = o →
        .freed o ∉ earlier ∧ (.disowned o ∈ earlier → 1 < Journal.keepers o earlier)) ∧
      ∀ {handle : Handlers} {c : Context} {operation : Operation} {t : Thread} {d : Name}
        {n : Notice} {v : World}, handle.Client →
        Consults (fun handle => Scenario.perform handle c operation) handle w t d o n v →
        .freed o ∉ v.past ∧ (v.isOwned o = true ∨ o ∈ stack) := by
  have hlives := hw.lives o
  refine ⟨?_, hlives.keepers_eq, hlives.freed, ?_, hlives.calm, ?_, ?_⟩
  · rw [hlives.isAlive_iff, List.count_pos_iff]
  · intro later m earlier hpast
    exact (Journal.throughout_iff.mp hlives.lifeLaw later m earlier hpast).1
  · intro later c earlier hpast hc
    exact (Journal.throughout_iff.mp hlives.lifeLaw later _ earlier hpast).2 c rfl hc
  · intro handle c operation t d n v hhandle hcall
    exact hw.called hhandle hcall

/-- The owner of an observer lets go while a handler of the observer runs. -/
def disownedMidCall : World :=
  (Scenario.perform (Scenario.respond 1) .top (.drop "a") watching).2

theorem disownedMidCall_inside : Inside ["a"] disownedMidCall := by
  have hwatched : Inside [] watched := Session.runFrom_inside 1 none _ .start
  have hdocument : watched.documents.contains "d" = true := by decide +kernel
  have hslot : (watched.document "d").dispatcher.enter? 0 =
      some (1, ⟨⟨1⟩, 1, .skip, ⟨[(0, 1)]⟩⟩) := by
    decide +kernel
  have hslots : Pass.snapshotOf watched (.document "d") = [⟨"a", 0⟩] := by decide +kernel
  have hsupports : (watched.observer "a").supports .documentStatesChanged = true := by
    decide +kernel
  have hwatching : Inside ["a"] watching :=
    hwatched.handler (Scenario.respond_client 1) (notify_consults .top none
      (.documentStatesChanged .empty) (fun _ _ _ => rfl) hdocument hslot hslots hsupports)
  exact hwatching.run (.perform (Scenario.respond_client 1) .top (.drop "a"))

/-- The observer lives on as long as its handler runs. -/
theorem life_exact_mid_call :
    disownedMidCall.isOwned "a" = false ∧ disownedMidCall.isAlive "a" = true ∧
      disownedMidCall.past.count (.freed "a") = 0 ∧
      Journal.keepers "a" disownedMidCall.past = 1 := by
  obtain ⟨halive, hkeepers, hfreed, -⟩ := disownedMidCall_inside.life_exact "a"
  have hlives : disownedMidCall.isAlive "a" = true := halive.mpr (.inr (by decide))
  refine ⟨by decide +kernel, hlives, ?_, hkeepers⟩
  rw [hfreed, hlives]
  simp

end ChangeNotice
