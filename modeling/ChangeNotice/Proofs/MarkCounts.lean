import ChangeNotice.Proofs.HandlerCalls
import Mathlib.Algebra.Group.Pi.Basic
import Mathlib.Algebra.Group.Nat.Even
import Mathlib.Algebra.GroupWithZero.Nat
import Mathlib.Logic.Function.Iterate

/-! # How many marks a stretch of a run adds

A stretch of a run leaves its marks in the journal: handlers are called, notifications are
refused, passes end, scopes are opened. Here the marks are counted between two worlds that
are alike for the passes of one document: the same observers are registered, owned and held,
and as many slots may be taken. Stretches that follow each other add up.
-/

namespace ChangeNotice

open World

/-! ## Marks of the journal -/

inductive Mark where
  | call
  | refusal
  | pass
  | opening
deriving DecidableEq

def Moment.mark? : Moment → Option Mark
  | called _ => some .call
  | refused .. => some .refusal
  | passFinished .. => some .pass
  | scopeOpened .. => some .opening
  | _ => none

/-- How many moments have each mark. -/
def Journal.markCounts (news : List Moment) (m : Mark) : Nat := news.countP (·.mark? == some m)

namespace Journal

theorem markCounts_append (news older : List Moment) :
    markCounts (news ++ older) = markCounts news + markCounts older := by
  funext m
  exact List.countP_append

theorem markCounts_cons (m : Moment) (older : List Moment) :
    markCounts (m :: older) = markCounts [m] + markCounts older :=
  markCounts_append [m] older

theorem markCounts_of_mark {m : Moment} {mark : Mark} (h : m.mark? = some mark) :
    markCounts [m] = Pi.single mark 1 := by
  funext other
  rw [markCounts, List.countP_singleton, h, Pi.single_apply]
  by_cases hother : other = mark
  · simp [hother]
  · simp [hother, Ne.symm hother]

theorem markCounts_of_unmarked {m : Moment} (h : m.mark? = none) : markCounts [m] = 0 := by
  funext mark
  rw [markCounts, List.countP_singleton, h]
  rfl

end Journal

/-! ## Worlds that are alike -/

/-- A role, apart from how often its rules have fired. -/
def Role.atRest : Role → Role
  | recorder r => recorder { r with rules := r.rules.map fun rule => { rule with fired := 0 } }
  | role => role

theorem Observer.hasBinding_of_atRest {o o' : Observer} (h : o.role.atRest = o'.role.atRest) :
    o.hasBinding = o'.hasBinding := by
  unfold hasBinding
  cases hrole : o.role <;> cases hrole' : o'.role <;> rw [hrole, hrole'] at h <;>
    simp_all [Role.atRest]

namespace World

/-- Nobody is revived by holding an observer that is alive. -/
theorem isAlive_hold_of_isAlive {w : World} {o : Name} (h : w.isAlive o = true) :
    (w.hold o).isAlive = w.isAlive := by
  funext x
  rw [isAlive_hold]
  by_cases hx : x = o
  · rw [hx, h, Bool.or_true]
  · rw [decide_eq_false hx, Bool.false_or]

theorem snapshotOf_hold {w : World} {o : Name} (h : w.isAlive o = true) (owner : Owner) :
    Pass.snapshotOf (w.hold o) owner = Pass.snapshotOf w owner := by
  rw [Pass.snapshotOf, registry_hold, isAlive_hold_of_isAlive h]
  rfl

/-- For the passes of the document the second world is like the first. -/
structure Alike (d : Name) (w v : World) : Prop where
  role : ∀ o, (v.observer o).role.atRest = (w.observer o).role.atRest
  owned : ∀ o, (v.observer o).owned = (w.observer o).owned
  holds : ∀ o, (v.observer o).holds = (w.observer o).holds
  snapshot : Pass.snapshotOf v (.document d) = Pass.snapshotOf w (.document d)
  maxDepth : (v.document d).dispatcher.maxDepth = (w.document d).dispatcher.maxDepth
  contains : w.documents.contains d = true → v.documents.contains d = true

namespace Alike

variable {d : Name} {w v u : World}

theorem refl (d : Name) (w : World) : Alike d w w :=
  ⟨fun _ => rfl, fun _ => rfl, fun _ => rfl, rfl, rfl, id⟩

theorem trans (h : Alike d w v) (h' : Alike d v u) : Alike d w u where
  role o := (h'.role o).trans (h.role o)
  owned o := (h'.owned o).trans (h.owned o)
  holds o := (h'.holds o).trans (h.holds o)
  snapshot := h'.snapshot.trans h.snapshot
  maxDepth := h'.maxDepth.trans h.maxDepth
  contains := h'.contains ∘ h.contains

theorem isAlive (h : Alike d w v) (o : Name) : v.isAlive o = w.isAlive o := by
  unfold World.isAlive Observer.isAlive
  rw [h.owned, h.holds]

theorem of_actsOn (h : ActsOn d w v)
    (hlimit : (v.document d).dispatcher.maxDepth = (w.document d).dispatcher.maxDepth) :
    Alike d w v where
  role o := by rw [h.observer]
  owned o := by rw [h.observer]
  holds o := by rw [h.observer]
  snapshot := by rw [Pass.snapshotOf, Pass.snapshotOf, h.registry_eq, h.isAlive]
  maxDepth := hlimit
  contains := h.contains d

/-- The registry is pruned of those that no pass would visit. -/
theorem enterPass {p : PassInfo} (hregistry : p.registry = .document d) (w : World) :
    Alike d w (w.enterPass p) := by
  have hobservers : (w.enterPass p).observers = w.observers :=
    observers_updateRegistry w p.registry _
  have hobserver : ∀ o, (w.enterPass p).observer o = w.observer o := by
    intro o
    unfold observer
    rw [hobservers]
  have halive : (w.enterPass p).isAlive = w.isAlive := by
    funext o
    exact isAlive_enterPass w p o
  constructor
  · intro o
    rw [hobserver]
  · intro o
    rw [hobserver]
  · intro o
    rw [hobserver]
  · rw [Pass.snapshotOf, Pass.snapshotOf, registry_enterPass, if_pos hregistry.symm, halive,
      hregistry]
    simp [Registry.prune, List.filter_filter]
  · have hdispatcher : ((w.enterPass p).document d).dispatcher = (w.document d).dispatcher :=
      dispatcher_updateRegistry w d p.registry _
    rw [hdispatcher]
  · exact contains_updateRegistry

/-- An observer that is alive is held and let go again; what happens meanwhile keeps the hold. -/
theorem unhold {o : Name} (hlive : w.isAlive o = true) (h : Alike d (w.hold o) v) :
    Alike d w (v.unhold o) := by
  have hholds : ∀ x, ((v.unhold o).observer x).holds = (w.observer x).holds := by
    intro x
    have hbetween := h.holds x
    rw [observer_hold] at hbetween
    rw [observer_unhold]
    split_ifs at hbetween ⊢ with hx
    · subst hx
      dsimp only at hbetween ⊢
      omega
    · exact hbetween
  have howned : ∀ x, ((v.unhold o).observer x).owned = (w.observer x).owned := by
    intro x
    have hbetween := h.owned x
    rw [observer_hold] at hbetween
    rw [observer_unhold]
    split_ifs at hbetween ⊢ with hx
    · subst hx
      exact hbetween
    · exact hbetween
  have halive : (v.unhold o).isAlive = v.isAlive := by
    funext x
    rw [h.isAlive, isAlive_hold_of_isAlive hlive]
    unfold World.isAlive Observer.isAlive
    rw [hholds, howned]
  constructor
  · intro x
    have hbetween := h.role x
    rw [observer_hold] at hbetween
    rw [observer_unhold]
    split_ifs at hbetween ⊢ with hx
    · subst hx
      exact hbetween
    · exact hbetween
  · exact howned
  · exact hholds
  · have hafter : Pass.snapshotOf (v.unhold o) (.document d) = Pass.snapshotOf v (.document d) := by
      rw [Pass.snapshotOf, registry_unhold, halive]
      rfl
    rw [hafter, h.snapshot, snapshotOf_hold hlive]
  · rw [document_unhold, h.maxDepth, document_hold]
  · intro hcontains
    rw [documents_unhold]
    apply h.contains
    rw [documents_hold]
    exact hcontains

end Alike

end World

/-! ## Marks that are added -/

namespace ScopeState

/-- The number of open scopes when one more is opened. -/
def rise (depth : Nat) : Nat := min (depth + 1) maxDepth

theorem iterate_rise {depth n : Nat} (h : depth + n ≤ maxDepth) : rise^[n] depth = depth + n := by
  induction n with
  | zero => rfl
  | succ n ih =>
      rw [Function.iterate_succ_apply', ih (by omega), rise, min_eq_left (by omega)]
      omega

end ScopeState

/-- The report of a pass that has visited this many observers, all of which have answered. -/
def Report.full (k : Nat) : Report := ⟨k, 0, 0, 0⟩

namespace World

/-- Between two worlds that are alike the journal grows by so many marks; every pass that ends has
reached `k` observers, and the scopes opened are counted. -/
structure AddsMarks (d : Name) (k : Nat) (w v : World) (counts : Mark → Nat) : Prop where
  alike : Alike d w v
  news : ∃ news, v.past = news ++ w.past ∧ Journal.markCounts news = counts ∧
    ∀ p r, .passFinished p r ∈ news → r = .full k
  scope : (v.scope (.document d)).depth =
    ScopeState.rise^[counts .opening] (w.scope (.document d)).depth

namespace AddsMarks

variable {d : Name} {k : Nat} {w v u : World} {counts counts' : Mark → Nat} {m : Moment}

theorem refl (d : Name) (k : Nat) (w : World) : AddsMarks d k w w 0 :=
  ⟨.refl d w, ⟨[], rfl, rfl, by simp⟩, rfl⟩

theorem trans (h : AddsMarks d k w v counts) (h' : AddsMarks d k v u counts') :
    AddsMarks d k w u (counts + counts') := by
  obtain ⟨news, hpast, hcounts, hfull⟩ := h.news
  obtain ⟨news', hpast', hcounts', hfull'⟩ := h'.news
  refine ⟨h.alike.trans h'.alike, ⟨news' ++ news, ?_, ?_, ?_⟩, ?_⟩
  · rw [hpast', hpast, List.append_assoc]
  · rw [Journal.markCounts_append, hcounts, hcounts', add_comm]
  · intro p r hmem
    rcases List.mem_append.mp hmem with hnew | hold
    · exact hfull' p r hnew
    · exact hfull p r hold
  · rw [h'.scope, h.scope, Pi.add_apply, add_comm, Function.iterate_add_apply]

/-- A moment is written down. Opening a scope is more than writing it down. -/
theorem record (w : World) (hopening : m.mark? ≠ some .opening)
    (hfull : ∀ p r, m = .passFinished p r → r = .full k) :
    AddsMarks d k w (w.record m) (Journal.markCounts [m]) := by
  refine ⟨.of_actsOn ((ActsOn.refl d w).record m) rfl, ⟨[m], rfl, rfl, ?_⟩, ?_⟩
  · intro p r hmem
    exact hfull p r (List.mem_singleton.mp hmem).symm
  · have hnone : Journal.markCounts [m] .opening = 0 := by
      rw [Journal.markCounts, List.countP_eq_zero]
      intro m' hm'
      rw [List.mem_singleton.mp hm']
      simpa using hopening
    rw [hnone]
    rfl

theorem record_marked (w : World) {mark : Mark} (h : m.mark? = some mark) (hmark : mark ≠ .opening)
    (hfull : ∀ p r, m = .passFinished p r → r = .full k) :
    AddsMarks d k w (w.record m) (Pi.single mark 1) := by
  rw [← Journal.markCounts_of_mark h]
  apply record w _ hfull
  rw [h]
  intro hopening
  exact hmark (Option.some.inj hopening)

theorem record_unmarked (w : World) (h : m.mark? = none) : AddsMarks d k w (w.record m) 0 := by
  have hadds : AddsMarks d k w (w.record m) (Journal.markCounts [m]) := by
    apply record w
    · rw [h]
      exact Option.some_ne_none _ |>.symm
    · rintro p r rfl
      cases h
  rw [Journal.markCounts_of_unmarked h] at hadds
  exact hadds

/-- An operation on the document that writes down no mark and opens no scope. -/
theorem of_actsOn (h : ActsOn d w v)
    (hlimit : (v.document d).dispatcher.maxDepth = (w.document d).dispatcher.maxDepth)
    (hpast : v.past = w.past) (hscope : v.scope (.document d) = w.scope (.document d)) :
    AddsMarks d k w v 0 :=
  ⟨.of_actsOn h hlimit, ⟨[], hpast, rfl, by simp⟩, by rw [hscope]; rfl⟩

theorem takeSlot (w : World) (t : Thread) (n : Notice) :
    AddsMarks d k w (w.takeSlot d t n ((w.document d).dispatcher.take t)) 0 := by
  have hslot : AddsMarks d k w (w.updateDocument d fun doc =>
      { doc with dispatcher := (w.document d).dispatcher.take t }) 0 := by
    refine of_actsOn (ActsOn.updateDocument ?_) ?_ rfl ?_
    · intro doc
      rfl
    · simp [Dispatcher.take]
    · simp [World.scope]
  exact hslot.trans (record_unmarked _ rfl)

theorem releaseSlot (w : World) (t : Thread) : AddsMarks d k w (w.releaseSlot d t) 0 := by
  have hslot : AddsMarks d k w (w.updateDocument d fun doc =>
      { doc with dispatcher := doc.dispatcher.release t }) 0 := by
    refine of_actsOn (ActsOn.updateDocument ?_) ?_ rfl ?_
    · intro doc
      rfl
    · simp [Dispatcher.release]
    · simp [World.scope]
  exact hslot.trans (record_unmarked _ rfl)

theorem setLoad (w : World) (load : LoadState) : AddsMarks d k w (w.setLoad d load) 0 := by
  apply of_actsOn (setLoad_actsOn w d load)
  · simp [World.setLoad]
  · rfl
  · simp [World.setLoad, World.scope]

theorem openScope (w : World) (mask : UpdateMask) :
    AddsMarks d k w (w.openScope (.document d) mask) (Pi.single .opening 1) := by
  have hscope : (w.openScope (.document d) mask).scope (.document d) =
      (w.scope (.document d)).enter mask := by
    simp [World.openScope, setScope, World.scope]
  refine ⟨.of_actsOn (openScope_actsOn w d mask) ?_,
    ⟨[_], rfl, Journal.markCounts_of_mark rfl, ?_⟩, ?_⟩
  · simp [World.openScope, setScope]
  · simp
  · rw [hscope, Pi.single_eq_same]
    rfl

/-- What the event adds before its pass: the opening, if it opens a scope. -/
def opened : Event → Mark → Nat
  | .beginUpdate _ => Pi.single .opening 1
  | _ => 0

theorem prepare (w : World) (e : Event) : AddsMarks d k w (w.prepare d (.event e)) (opened e) := by
  cases e with
  | beginUpdate mask => exact openScope w mask
  | beginLoad =>
      unfold World.prepare
      dsimp only
      split_ifs
      · exact (record_unmarked w rfl).trans (setLoad _ _)
      · exact setLoad w _
  | endLoad =>
      unfold World.prepare
      dsimp only
      split_ifs
      · exact (record_unmarked w rfl).trans (setLoad _ _)
      · exact setLoad w _
  | _ => exact refl d k w

theorem enterPass {p : PassInfo} (hregistry : p.registry = .document d) (w : World) :
    AddsMarks d k w (w.enterPass p) 0 := by
  refine ⟨.enterPass hregistry w,
    ⟨[_], past_enterPass w p, Journal.markCounts_of_unmarked rfl, ?_⟩, ?_⟩
  · simp
  · have hscope : ((w.enterPass p).document d).scope = (w.document d).scope :=
      scope_updateRegistry w d p.registry _
    change ((w.enterPass p).document d).scope.depth = (w.document d).scope.depth
    rw [hscope]

theorem unhold {o : Name} (hlive : w.isAlive o = true) (h : AddsMarks d k (w.hold o) v counts) :
    AddsMarks d k w (v.unhold o) counts := by
  have halike := h.alike.unhold hlive
  obtain ⟨news, hpast, hcounts, hfull⟩ := h.news
  refine ⟨halike, ⟨.unheld o :: (news ++ [.held o]), ?_, ?_, ?_⟩, ?_⟩
  · -- it was alive before it was held, so letting go does not end it
    rw [past_unhold, halike.isAlive, hlive, if_pos rfl, hpast, past_hold]
    simp
  · rw [Journal.markCounts_cons, Journal.markCounts_append, Journal.markCounts_of_unmarked rfl,
      Journal.markCounts_of_unmarked rfl, hcounts, zero_add, add_zero]
  · intro p r hmem
    simp only [List.mem_cons, List.mem_append, reduceCtorEq, List.not_mem_nil, or_false,
      false_or] at hmem
    exact hfull p r hmem
  · have hafter : (v.unhold o).scope (.document d) = v.scope (.document d) :=
      congrArg Document.scope (document_unhold v o d)
    rw [hafter, h.scope]
    rfl

end AddsMarks

end World

end ChangeNotice
