import ChangeNotice.Proofs.WorldLaws
import Mathlib.Data.List.Range

/-! # Guards of dispatchers

A guard keeps a slot of a dispatcher for the thread that entered. Guards are given back in
any order and from any thread, and the slot goes back to the thread that had entered. Who
enters and who gives back is followed here for any number of dispatchers, threads and
guards, beside the plain list of the guards that are out. The counts that the dispatchers
keep agree with this list.
-/

namespace ChangeNotice

open World

namespace Depths

/-- No thread is listed with no slots. -/
def Tidy (d : Depths) : Prop := ∀ row ∈ d.rows, row.2 ≠ 0

variable {d : Depths}

theorem Tidy.empty : Tidy (.empty : Depths) := fun _ hrow => absurd hrow List.not_mem_nil

theorem Tidy.take (h : Tidy d) (t : Thread) : Tidy (take d t) := by
  intro row hrow
  rcases Table.mem_setRows hrow with rfl | hold
  · exact Nat.succ_ne_zero _
  · exact h row hold

theorem Tidy.release (h : Tidy d) (t : Thread) : Tidy (release d t) := by
  unfold Depths.release
  split
  · exact h
  next n hfound =>
    split_ifs with hlast
    · intro row hrow
      exact h row (List.mem_of_mem_filter hrow)
    · intro row hrow
      rcases Table.mem_setRows hrow with rfl | hold
      · exact hlast
      · exact h row hold

/-- A thread that holds slots is listed with their number. -/
theorem find?_of_count_pos {t : Thread} (h : 0 < count d t) : d.find? t = some (count d t) := by
  unfold count Table.get at h ⊢
  cases hfound : d.find? t with
  | none =>
      rw [hfound] at h
      exact absurd h (by decide)
  | some n => rfl

end Depths

/-! ## Guards that are out -/

/-- A guard that is out: its name, the dispatcher that issued it, for which thread, and at what
depth. -/
structure Slot where
  guard : Name
  dispatcher : Nat
  thread : Thread
  depth : Nat
deriving DecidableEq

namespace Slot

/-- The slot belongs to this thread of this dispatcher. -/
def isOf (number : Nat) (t : Thread) (s : Slot) : Bool := s.dispatcher == number && s.thread == t

/-- The guard that keeps the slot, for nobody but its name. -/
def keeper (s : Slot) : Guard := ⟨s.dispatcher, s.thread, s.depth, 1⟩

theorem isOf_iff {number : Nat} {t : Thread} {s : Slot} :
    s.isOf number t = true ↔ s.dispatcher = number ∧ s.thread = t := by
  simp [isOf]

/-- A slot counts for its own thread, and for no other of its dispatcher. -/
theorem countP_cons_own (s : Slot) (live : List Slot) (u : Thread) :
    (s :: live).countP (·.isOf s.dispatcher u) =
      if u = s.thread then live.countP (·.isOf s.dispatcher s.thread) + 1
      else live.countP (·.isOf s.dispatcher u) := by
  rw [List.countP_cons]
  by_cases hu : u = s.thread
  · subst hu
    simp [isOf]
  · simp [isOf, hu, Ne.symm hu]

theorem countP_cons_other {s : Slot} {number : Nat} (h : number ≠ s.dispatcher) (live : List Slot) :
    (fun t => (s :: live).countP (·.isOf number t)) = fun t => live.countP (·.isOf number t) := by
  funext t
  rw [List.countP_cons_of_neg]
  intro hof
  exact h (isOf_iff.mp hof).1.symm

end Slot

namespace Dispatcher

/-- What is done with dispatchers and their guards, and from where. -/
inductive Action where
  | create (c : Context) (name : Name) (document : DocumentId) (maxDepth : Nat) (removal : Removal)
  | enter (c : Context) (dispatcher : Name) (kind : Kind) (guard : Name)
  | release (c : Context) (guard : Name)

namespace Action

def perform (handle : Handlers) : Action → Run Answer
  | create c name document maxDepth removal =>
    Scenario.perform handle c (.createDispatcher name document maxDepth removal)
  | enter c dispatcher kind guard => Scenario.perform handle c (.enter dispatcher kind guard)
  | release c guard => Scenario.perform handle c (.releaseGuard guard)

/-- The guards that are out after the action, newest first: one more if the action was answered with
a new guard, one less if a guard was given back. -/
def slots (w : World) (answer : Except Unwind Answer) (live : List Slot) : Action → List Slot
  | create .. => live
  | enter c dispatcher _ guard =>
    match w.dispatchers.number? dispatcher, answer with
    | some number, .ok (.depth n) => ⟨guard, number, c.thread, n⟩ :: live
    | _, _ => live
  | release _ guard =>
    match answer with
    | .ok (.depth _) => live.eraseP (·.guard == guard)
    | _ => live

def step (handle : Handlers) (s : World × List Slot) (action : Action) : World × List Slot :=
  ((action.perform handle s.1).2, action.slots s.1 (action.perform handle s.1).1 s.2)

/-- Actions are done one after the other. -/
def run (handle : Handlers) (s : World × List Slot) (actions : List Action) : World × List Slot :=
  actions.foldl (step handle) s

/-- A guard of the thread is given back only while no newer one of the thread is out. -/
def isNewest (number : Nat) (t : Thread) (live : List Slot) : Action → Bool
  | release _ guard =>
    (live.find? (·.guard == guard)).all fun s =>
      !s.isOf number t || (live.filter (·.isOf number t)).head? == some s
  | _ => true

/-- The thread gives its guards of the dispatcher back in the order opposite to that in which it has
got them. -/
def lastFirst (handle : Handlers) (number : Nat) (t : Thread) (s : World × List Slot) :
    List Action → Bool
  | [] => true
  | action :: rest =>
    action.isNewest number t s.2 && lastFirst handle number t (action.step handle s) rest

end Action

end Dispatcher

/-! ## The counts of the dispatchers -/

namespace Dispatcher

variable (d : Dispatcher) (t u : Thread)

@[simp]
theorem inFlight_take : (d.take t).inFlight u = if u = t then d.inFlight t + 1 else d.inFlight u :=
  Depths.count_take d.depths t u

@[simp]
theorem inFlight_release :
    (d.release t).inFlight u = if u = t then d.inFlight t - 1 else d.inFlight u :=
  Depths.count_release d.depths t u

/-- The dispatcher counts these slots of each thread, and has room for them. -/
structure Counts (d : Dispatcher) (slots : Thread → Nat) : Prop where
  inFlight : ∀ t, d.inFlight t = slots t
  room : ∀ t, d.inFlight t ≤ d.maxDepth
  tidy : Depths.Tidy d.depths

namespace Counts

variable {d : Dispatcher} {slots slots' : Thread → Nat}

theorem new (document : DocumentId) (maxDepth : Nat) (removal : Removal) :
    Counts ⟨document, maxDepth, removal, .empty⟩ fun _ => 0 :=
  ⟨fun _ => rfl, fun _ => Nat.zero_le _, Depths.Tidy.empty⟩

theorem take (h : d.Counts slots) {t : Thread} (hroom : d.isFull t = false)
    (hslots : ∀ u, slots' u = if u = t then slots t + 1 else slots u) :
    (d.take t).Counts slots' := by
  have hless : d.inFlight t < d.maxDepth := by simpa [isFull] using hroom
  refine ⟨?_, ?_, h.tidy.take t⟩
  · intro u
    rw [inFlight_take, hslots, h.inFlight, h.inFlight]
  · intro u
    rw [inFlight_take]
    split_ifs
    · exact hless
    · exact h.room u

theorem release (h : d.Counts slots) {t : Thread}
    (hslots : ∀ u, slots u = if u = t then slots' t + 1 else slots' u) :
    (d.release t).Counts slots' := by
  refine ⟨?_, ?_, h.tidy.release t⟩
  · intro u
    rw [inFlight_release, h.inFlight, h.inFlight]
    by_cases hu : u = t
    · rw [if_pos hu, hslots, if_pos rfl, hu, Nat.add_sub_cancel]
    · rw [if_neg hu, hslots, if_neg hu]
  · intro u
    have hthread := h.room t
    have hother := h.room u
    rw [inFlight_release]
    change _ ≤ d.maxDepth
    split_ifs <;> omega

end Counts

end Dispatcher

namespace Catalog

/-- The dispatchers have issued exactly these slots that are still out. -/
structure Counted (c : Catalog Dispatcher) (live : List Slot) : Prop where
  counts : ∀ number, (c.get number).Counts fun t => live.countP (·.isOf number t)
  made : ∀ s ∈ live, s.dispatcher < c.made
  numbers : ∀ name number, c.number? name = some number → number < c.made

namespace Counted

variable {c : Catalog Dispatcher} {live : List Slot}

theorem empty : Counted .empty [] := by
  constructor
  · intro number
    exact ⟨fun _ => rfl, fun _ => Nat.zero_le _, Depths.Tidy.empty⟩
  · intro s hs
    exact absurd hs List.not_mem_nil
  · intro name number hnumber
    cases hnumber

/-- A new dispatcher has issued nothing. -/
theorem make (h : c.Counted live) (name : Name) (document : DocumentId) (maxDepth : Nat)
    (removal : Removal) : (c.make name ⟨document, maxDepth, removal, .empty⟩).Counted live := by
  have hnone : (fun t => live.countP (·.isOf c.made t)) = fun _ => 0 := by
    funext t
    rw [List.countP_eq_zero]
    intro s hs hof
    exact absurd (Slot.isOf_iff.mp hof).1 (h.made s hs).ne
  constructor
  · intro number
    rw [get_make]
    split_ifs with hnew
    · rw [hnew, hnone]
      exact .new document maxDepth removal
    · exact h.counts number
  · intro s hs
    exact (h.made s hs).trans (Nat.lt_succ_self _)
  · intro other number hnumber
    rw [number?_make] at hnumber
    split_ifs at hnumber with hname
    · cases hnumber
      exact Nat.lt_succ_self _
    · exact (h.numbers other number hnumber).trans (Nat.lt_succ_self _)

/-- One dispatcher issues a slot, which is one more of its thread and leaves the other threads and
the other dispatchers as they are. -/
theorem take (h : c.Counted live) {name : Name} {s : Slot}
    (hnumber : c.number? name = some s.dispatcher)
    (hroom : (c.get s.dispatcher).isFull s.thread = false) :
    (c.update s.dispatcher fun _ => (c.get s.dispatcher).take s.thread).Counted (s :: live) := by
  constructor
  · intro number
    rw [get_update]
    split_ifs with hsame
    · subst hsame
      apply (h.counts s.dispatcher).take hroom
      exact s.countP_cons_own live
    · rw [Slot.countP_cons_other hsame]
      exact h.counts number
  · intro s' hs'
    rcases List.mem_cons.mp hs' with rfl | hold
    · exact h.numbers name _ hnumber
    · exact h.made s' hold
  · exact h.numbers

/-- A slot that was out is given back. -/
theorem release {front back : List Slot} {s : Slot} (h : c.Counted (front ++ s :: back)) :
    (c.update s.dispatcher (·.release s.thread)).Counted (front ++ back) := by
  -- where the slot stands in the list does not matter for the counts
  have hcount : ∀ p : Slot → Bool,
      (front ++ s :: back).countP p = (s :: (front ++ back)).countP p :=
    fun p => List.perm_middle.countP_eq p
  constructor
  · intro number
    have hcounts := h.counts number
    simp only [hcount] at hcounts
    rw [get_update]
    split_ifs with hsame
    · subst hsame
      apply hcounts.release
      exact s.countP_cons_own (front ++ back)
    · rw [Slot.countP_cons_other hsame] at hcounts
      exact hcounts
  · intro s' hs'
    apply h.made s'
    exact List.perm_middle.mem_iff.mpr (List.mem_cons_of_mem s hs')
  · exact h.numbers

end Counted

/-! ## The names of the guards -/

/-- The names of guards mean exactly those that are out. -/
structure Named (c : Catalog Guard) (live : List Slot) : Prop where
  keepers : ∀ guard, (c.number? guard).map c.get =
    (live.find? (·.guard == guard)).map Slot.keeper
  names : (live.map Slot.guard).Nodup
  numbers : ∀ guard n, c.number? guard = some n → n < c.made
  apart : ∀ guard guard' n, c.number? guard = some n → c.number? guard' = some n → guard = guard'

namespace Named

variable {c : Catalog Guard} {live : List Slot}

theorem empty : Named .empty [] := by
  constructor
  · intro guard
    rfl
  · exact List.nodup_nil
  · intro guard n hn
    cases hn
  · intro guard guard' n hn
    cases hn

/-- The number that a guard is kept under. -/
theorem exists_number (h : c.Named live) {s : Slot} (hs : s ∈ live) :
    ∃ n, c.number? s.guard = some n ∧ c.get n = s.keeper := by
  have hfound : live.find? (·.guard == s.guard) = some s := by
    rw [List.find?_eq_some_iff_append]
    obtain ⟨front, back, rfl⟩ := List.append_of_mem hs
    refine ⟨by simp, front, back, rfl, ?_⟩
    intro x hx
    have hnodup := h.names
    rw [List.map_append, List.map_cons, List.nodup_append] at hnodup
    simpa using hnodup.2.2 _ (List.mem_map_of_mem hx) _ List.mem_cons_self
  have hkeeper := h.keepers s.guard
  rw [hfound] at hkeeper
  exact Option.map_eq_some_iff.mp hkeeper

/-- A name that means a guard is the name of the first one that is out under it. -/
theorem exists_slot (h : c.Named live) {guard : Name} {n : Nat} (hn : c.number? guard = some n) :
    ∃ s, live.find? (·.guard == guard) = some s ∧ c.get n = s.keeper := by
  have hkeeper := h.keepers guard
  rw [hn] at hkeeper
  obtain ⟨s, hfound, hs⟩ := Option.map_eq_some_iff.mp hkeeper.symm
  exact ⟨s, hfound, hs.symm⟩

theorem make (h : c.Named live) {s : Slot} (hfree : c.number? s.guard = none) :
    (c.make s.guard s.keeper).Named (s :: live) := by
  constructor
  · intro guard
    rw [number?_make, List.find?_cons]
    by_cases hguard : guard = s.guard
    · subst hguard
      simp
    · have hold : (c.number? guard).map (c.make s.guard s.keeper).get =
          (c.number? guard).map c.get := by
        apply Option.map_congr
        intro n hn
        rw [get_make, if_neg (h.numbers guard n hn).ne]
      have hs : (s.guard == guard) = false := beq_false_of_ne (Ne.symm hguard)
      rw [if_neg hguard, hold, h.keepers guard, hs]
  · apply List.nodup_cons.mpr ⟨?_, h.names⟩
    intro hmem
    obtain ⟨s', hs', hname⟩ := List.mem_map.mp hmem
    obtain ⟨n, hn, -⟩ := h.exists_number hs'
    rw [hname, hfree] at hn
    cases hn
  · intro guard n hn
    rw [number?_make] at hn
    split_ifs at hn with hguard
    · cases hn
      exact Nat.lt_succ_self _
    · exact (h.numbers guard n hn).trans (Nat.lt_succ_self _)
  · intro guard guard' n hn hn'
    rw [number?_make] at hn hn'
    split_ifs at hn hn' with hguard hguard' hguard'
    · rw [hguard, hguard']
    · cases hn
      exact absurd (h.numbers guard' _ hn') (lt_irrefl _)
    · cases hn'
      exact absurd (h.numbers guard _ hn) (lt_irrefl _)
    · exact h.apart guard guard' n hn hn'

/-- A name is taken away; whatever becomes of the value that it meant, the other names mean what
they did. -/
theorem forget {front back : List Slot} {s : Slot} (h : c.Named (front ++ s :: back)) {n : Nat}
    (hn : c.number? s.guard = some n) (f : Guard → Guard) :
    ((c.forget s.guard).update n f).Named (front ++ back) := by
  have hnames : s.guard ∉ (front ++ back).map Slot.guard ∧
      ((front ++ back).map Slot.guard).Nodup := by
    have hnodup := h.names
    rw [List.map_append, List.map_cons, List.perm_middle.nodup_iff, List.nodup_cons,
      ← List.map_append] at hnodup
    exact hnodup
  constructor
  · intro guard
    rw [number?_update, number?_forget]
    by_cases hguard : guard = s.guard
    · have hnone : (front ++ back).find? (·.guard == guard) = none := by
        rw [List.find?_eq_none]
        intro s' hs' hsame
        apply hnames.1
        rw [← hguard, ← eq_of_beq hsame]
        exact List.mem_map_of_mem hs'
      rw [if_pos hguard, hnone]
      rfl
    · have hold : (c.number? guard).map ((c.forget s.guard).update n f).get =
          (c.number? guard).map c.get := by
        apply Option.map_congr
        intro n' hn'
        -- another name means another guard, which is not the one that changes
        have hother : n' ≠ n := by
          rintro rfl
          exact hguard (h.apart _ _ _ hn' hn)
        rw [get_update, if_neg hother, get_forget]
      have hs : (s.guard == guard) = false := beq_false_of_ne (Ne.symm hguard)
      rw [if_neg hguard, hold, h.keepers guard, List.find?_append, List.find?_append,
        List.find?_cons, hs]
  · exact hnames.2
  · intro guard n' hn'
    rw [number?_update, number?_forget] at hn'
    split_ifs at hn'
    exact h.numbers guard n' hn'
  · intro guard guard' n' hn' hn''
    rw [number?_update, number?_forget] at hn' hn''
    split_ifs at hn' hn''
    exact h.apart guard guard' n' hn' hn''

end Named

end Catalog

/-! ## One action after the other -/

/-- Exactly these guards are out. -/
def World.Issued (w : World) (live : List Slot) : Prop :=
  w.dispatchers.Counted live ∧ w.guards.Named live

namespace Dispatcher.Action

variable {w : World} {live : List Slot} {handle : Handlers}

/-- The dispatcher has no room for the thread: the action fails and leaves a note. -/
theorem perform_enter_of_full {c : Context} {name guard : Name} {kind : Kind} {number : Nat}
    (hnumber : w.dispatchers.number? name = some number) (hfree : w.guards.number? guard = none)
    (hfull : (w.dispatchers.get number).isFull c.thread = true) :
    let d := w.dispatchers.get number
    Scenario.perform handle c (.enter name kind guard) w =
      (.ok (.failed (.notify (.depthExceeded d.document kind d.maxDepth))),
        w.record (.refused (.standalone number) c.thread d.document kind d.maxDepth)) := by
  simp [Scenario.perform, Scenario.onDispatcher, Scenario.onNamed, Scenario.enter, Scenario.given,
    Run.bind_apply, Run.note, hnumber, hfree, enter?_of_full hfull]

/-- The dispatcher has room for the thread: a guard is issued. -/
theorem perform_enter_of_room {c : Context} {name guard : Name} {kind : Kind} {number : Nat}
    (hnumber : w.dispatchers.number? name = some number) (hfree : w.guards.number? guard = none)
    (hroom : (w.dispatchers.get number).isFull c.thread = false) :
    let d := w.dispatchers.get number
    Scenario.perform handle c (.enter name kind guard) w =
      (.ok (.depth (d.inFlight c.thread + 1)),
        w.makeGuard guard number (d.take c.thread) c.thread (d.inFlight c.thread + 1)) := by
  simp [Scenario.perform, Scenario.onDispatcher, Scenario.onNamed, Scenario.enter, Scenario.given,
    Run.bind_apply, hnumber, hfree, enter?_of_room hroom]

/-- A guard that only its name keeps is given back, from wherever. -/
theorem perform_release {c : Context} {guard : Name} {n : Nat} {s : Slot}
    (hn : w.guards.number? guard = some n) (hs : w.guards.get n = s.keeper) :
    Scenario.perform handle c (.releaseGuard guard) w =
      (.ok (.depth s.depth),
        { w with
          dispatchers := w.dispatchers.update s.dispatcher (·.release s.thread)
          guards := (w.guards.forget guard).update n
            fun g => { g with keepers := g.keepers - 1 } }) := by
  simp [Scenario.perform, Scenario.onGuard, Scenario.onNamed, Scenario.releaseGuard, Run.bind_apply,
    forgetGuard, leaveGuard, releaseIfFree, hn, hs, Slot.keeper]

/-- All that an action can do while exactly these guards are out. -/
inductive Effect (w : World) (live : List Slot) : Action → World × List Slot → Prop where
  /-- A name means nothing, or is in use already. -/
  | unusable {action : Action} : Effect w live action (w, live)
  | created {c : Context} {name : Name} {document : DocumentId} {maxDepth : Nat}
      {removal : Removal} :
    Effect w live (create c name document maxDepth removal)
      ({ w with dispatchers := w.dispatchers.make name ⟨document, maxDepth, removal, .empty⟩ },
        live)
  | refused {c : Context} {name guard : Name} {kind : Kind} (m : Moment) :
    Effect w live (enter c name kind guard) (w.record m, live)
  | issued {c : Context} {name : Name} {kind : Kind} {s : Slot}
      (hnumber : w.dispatchers.number? name = some s.dispatcher)
      (hfree : w.guards.number? s.guard = none)
      (hroom : (w.dispatchers.get s.dispatcher).isFull s.thread = false)
      (hdepth : s.depth = (w.dispatchers.get s.dispatcher).inFlight s.thread + 1) :
    Effect w live (enter c name kind s.guard)
      (w.makeGuard s.guard s.dispatcher ((w.dispatchers.get s.dispatcher).take s.thread) s.thread
        s.depth, s :: live)
  | returned {c : Context} {front back : List Slot} {s : Slot} {n : Nat}
      (hlive : live = front ++ s :: back) (hfound : live.find? (·.guard == s.guard) = some s)
      (hn : w.guards.number? s.guard = some n) (f : Guard → Guard) :
    Effect w live (release c s.guard)
      ({ w with
        dispatchers := w.dispatchers.update s.dispatcher (·.release s.thread)
        guards := (w.guards.forget s.guard).update n f }, front ++ back)

theorem effect_enter (c : Context) (name : Name) (kind : Kind) (guard : Name) :
    Effect w live (enter c name kind guard) ((enter c name kind guard).step handle (w, live)) := by
  cases hnumber : w.dispatchers.number? name with
  | none =>
      have hidle : Scenario.perform handle c (.enter name kind guard) w =
          (.ok Scenario.unusable, w) := by
        simp [Scenario.perform, Scenario.onDispatcher, Scenario.onNamed, Run.bind_apply, hnumber]
      simp only [step, perform, slots, hidle, hnumber]
      exact .unusable
  | some number =>
      cases hguard : w.guards.number? guard with
      | some n =>
          have hidle : Scenario.perform handle c (.enter name kind guard) w =
              (.ok Scenario.unusable, w) := by
            simp [Scenario.perform, Scenario.onDispatcher, Scenario.onNamed, Scenario.enter,
              Scenario.given, Run.bind_apply, hnumber, hguard]
          simp only [step, perform, slots, hidle, hnumber]
          exact .unusable
      | none =>
          cases hfull : (w.dispatchers.get number).isFull c.thread with
          | true =>
              simp only [step, perform, slots, perform_enter_of_full hnumber hguard hfull, hnumber]
              exact .refused _
          | false =>
              simp only [step, perform, slots, perform_enter_of_room hnumber hguard hfull, hnumber]
              exact .issued (s := ⟨guard, number, c.thread, _⟩) hnumber hguard hfull rfl

theorem effect_release (h : w.guards.Named live) (c : Context) (guard : Name) :
    Effect w live (release c guard) ((release c guard).step handle (w, live)) := by
  cases hn : w.guards.number? guard with
  | none =>
      have hidle : Scenario.perform handle c (.releaseGuard guard) w =
          (.ok Scenario.unusable, w) := by
        simp [Scenario.perform, Scenario.onGuard, Scenario.onNamed, Run.bind_apply, hn]
      simp only [step, perform, slots, hidle]
      exact .unusable
  | some n =>
      obtain ⟨s, hfound, hs⟩ := h.exists_slot hn
      obtain ⟨hname, front, back, hlive, hfront⟩ := List.find?_eq_some_iff_append.mp hfound
      obtain rfl : s.guard = guard := eq_of_beq hname
      have herase : live.eraseP (·.guard == s.guard) = front ++ back := by
        have hnot : ∀ x ∈ front, ¬(x.guard == s.guard) = true := by
          intro x hx
          simpa using hfront x hx
        rw [hlive, List.eraseP_append_right _ hnot,
          List.eraseP_cons_of_pos (p := fun x : Slot => x.guard == s.guard) hname]
      simp only [step, perform, slots, perform_release hn hs, herase]
      exact .returned hlive hfound hn _

theorem effect_step (h : w.Issued live) (action : Action) :
    Effect w live action (action.step handle (w, live)) := by
  cases action with
  | create c name document maxDepth removal =>
      have hmade : Scenario.perform handle c (.createDispatcher name document maxDepth removal) w =
          (.ok (.dispatcher 0 maxDepth removal), { w with
            dispatchers := w.dispatchers.make name ⟨document, maxDepth, removal, .empty⟩ }) := by
        simp [Scenario.perform, Scenario.onDispatcher, Scenario.onNamed, Scenario.dispatcherState,
          Run.bind_apply]
        rfl
      simp only [step, perform, slots, hmade]
      exact .created
  | enter c name kind guard => exact effect_enter c name kind guard
  | release c guard => exact effect_release h.2 c guard

/-- An action leaves the account of the guards right. -/
theorem Effect.issued_after {action : Action} {s : World × List Slot} (h : w.Issued live)
    (heffect : Effect w live action s) : s.1.Issued s.2 := by
  cases heffect with
  | unusable => exact h
  | created => exact ⟨h.1.make _ _ _ _, h.2⟩
  | refused m => exact h
  | issued hnumber hfree hroom hdepth => exact ⟨h.1.take hnumber hroom, h.2.make hfree⟩
  | returned hlive hfound hn f =>
      subst hlive
      exact ⟨h.1.release, h.2.forget hn f⟩

theorem issued_step {s : World × List Slot} (h : s.1.Issued s.2) (action : Action) :
    (action.step handle s).1.Issued (action.step handle s).2 :=
  (effect_step h action).issued_after h

theorem issued_run {s : World × List Slot} (h : s.1.Issued s.2) (actions : List Action) :
    (run handle s actions).1.Issued (run handle s actions).2 := by
  induction actions generalizing s with
  | nil => exact h
  | cons action actions ih => exact ih (issued_step h action)

/-! ## Guards given back last first -/

/-- The guards of the thread have the depths from one on, the newest the greatest. -/
def Stacked (number : Nat) (t : Thread) (live : List Slot) : Prop :=
  let mine := live.filter (·.isOf number t)
  mine.map (·.depth) = (List.range' 1 mine.length).reverse

variable {number : Nat} {t : Thread}

theorem stacked_cons_of_neg {s : Slot} (hs : ¬s.isOf number t = true) :
    Stacked number t (s :: live) ↔ Stacked number t live := by
  unfold Stacked
  rw [List.filter_cons_of_neg hs]

/-- One more guard lies on the stack exactly if its depth is one more than the number of those
below. -/
theorem stacked_cons {s : Slot} (hs : s.isOf number t = true) :
    Stacked number t (s :: live) ↔
      s.depth = live.countP (·.isOf number t) + 1 ∧ Stacked number t live := by
  unfold Stacked
  dsimp only
  rw [List.filter_cons_of_pos hs, List.map_cons, List.length_cons, List.range'_1_concat,
    List.reverse_append, List.reverse_singleton, List.singleton_append, List.cons.injEq,
    List.countP_eq_length_filter, Nat.add_comm 1]

/-- Whether the guards are stacked depends on those of the thread alone. -/
theorem stacked_congr {live' : List Slot}
    (h : live.filter (·.isOf number t) = live'.filter (·.isOf number t)) :
    Stacked number t live ↔ Stacked number t live' := by
  unfold Stacked
  rw [h]

theorem filter_of_newest {front back : List Slot} {s : Slot}
    (hnewest : ((front ++ s :: back).filter (·.isOf number t)).head? = some s)
    (hnames : ((front ++ s :: back).map Slot.guard).Nodup) :
    front.filter (·.isOf number t) = [] := by
  cases hfront : front.filter (·.isOf number t) with
  | nil => rfl
  | cons x rest =>
      -- the newest guard would stand in front of itself
      rw [List.filter_append, hfront] at hnewest
      obtain rfl : x = s := Option.some.inj hnewest
      have hmem : x ∈ front := by
        have hx : x ∈ front.filter (·.isOf number t) := by
          rw [hfront]
          exact List.mem_cons_self
        exact List.mem_of_mem_filter hx
      rw [List.map_append, List.map_cons, List.nodup_append] at hnames
      exact absurd rfl (hnames.2.2 _ (List.mem_map_of_mem hmem) _ List.mem_cons_self)

theorem Effect.stacked_after {action : Action} {s : World × List Slot} (h : w.Issued live)
    (hstacked : Stacked number t live) (hnewest : action.isNewest number t live = true)
    (heffect : Effect w live action s) : Stacked number t s.2 := by
  cases heffect with
  | unusable => exact hstacked
  | created => exact hstacked
  | refused m => exact hstacked
  | @issued c name kind slot hnumber hfree hroom hdepth =>
      by_cases hof : slot.isOf number t = true
      · rw [stacked_cons hof]
        obtain ⟨rfl, rfl⟩ := Slot.isOf_iff.mp hof
        rw [hdepth, (h.1.counts slot.dispatcher).inFlight]
        exact ⟨rfl, hstacked⟩
      · exact (stacked_cons_of_neg hof).mpr hstacked
  | @returned c front back slot n hlive hfound hn f =>
      subst hlive
      by_cases hof : slot.isOf number t = true
      · have hhead : ((front ++ slot :: back).filter (·.isOf number t)).head? = some slot := by
          simpa [isNewest, hfound, hof] using hnewest
        have hfront := filter_of_newest hhead h.2.names
        -- no guard of the thread is newer, so it may as well have been the newest of all
        have hbefore : Stacked number t (slot :: (front ++ back)) := by
          apply (stacked_congr ?_).mp hstacked
          simp [List.filter_append, List.filter_cons, hfront]
        exact ((stacked_cons hof).mp hbefore).2
      · apply (stacked_congr ?_).mp hstacked
        simp [List.filter_append, hof]

theorem stacked_run {s : World × List Slot} (h : s.1.Issued s.2) {actions : List Action}
    (hstacked : Stacked number t s.2) (hlast : lastFirst handle number t s actions = true) :
    Stacked number t (run handle s actions).2 := by
  induction actions generalizing s with
  | nil => exact hstacked
  | cons action actions ih =>
      rw [lastFirst, Bool.and_eq_true] at hlast
      have heffect : Effect s.1 s.2 action (action.step handle s) := effect_step h action
      exact ih (issued_step h action) (heffect.stacked_after h hstacked hlast.1) hlast.2

/-! ## The account of the guards -/

theorem inFlight_eq_length (h : w.Issued live) (number : Nat) (t : Thread) :
    (w.dispatchers.get number).inFlight t = (live.filter (·.isOf number t)).length := by
  rw [← List.countP_eq_length_filter]
  exact (h.1.counts number).inFlight t

/-- How entering ends depends on how many guards of the thread are out. -/
theorem perform_enter_iff (h : w.Issued live) {c : Context} {name guard : Name} {kind : Kind}
    (hnumber : w.dispatchers.number? name = some number) (hfree : w.guards.number? guard = none) :
    let d := w.dispatchers.get number
    let mine := live.filter (·.isOf number c.thread)
    let entered := Scenario.perform handle c (.enter name kind guard) w
    (mine.length = d.maxDepth →
      entered = (.ok (.failed (.notify (.depthExceeded d.document kind d.maxDepth))),
        w.record (.refused (.standalone number) c.thread d.document kind d.maxDepth))) ∧
    (mine.length ≠ d.maxDepth → entered.1 = .ok (.depth (mine.length + 1))) := by
  intro d mine entered
  have hmine : d.inFlight c.thread = mine.length := inFlight_eq_length h number c.thread
  constructor
  · intro hall
    apply perform_enter_of_full hnumber hfree
    exact decide_eq_true (hmine.trans hall).ge
  · intro hleft
    have hroom : d.isFull c.thread = false := by
      apply decide_eq_false
      have hbound : d.inFlight c.thread ≤ d.maxDepth := (h.1.counts number).room c.thread
      omega
    change (Scenario.perform handle c (.enter name kind guard) w).1 = _
    rw [perform_enter_of_room hnumber hfree hroom, ← hmine]

/-- The thread of a guard that is out is not missing from the counts. -/
theorem inFlight_pos (h : w.Issued live) {s : Slot} (hs : s ∈ live) :
    0 < (w.dispatchers.get s.dispatcher).inFlight s.thread := by
  rw [(h.1.counts s.dispatcher).inFlight, List.countP_pos_iff]
  exact ⟨s, hs, Slot.isOf_iff.mpr ⟨rfl, rfl⟩⟩

/-- Giving a guard back takes one from the thread that has entered, whoever gives it back. -/
theorem perform_release_counts (h : w.Issued live) {s : Slot} (hs : s ∈ live) (c : Context) :
    let left := Scenario.perform handle c (.releaseGuard s.guard) w
    left.1 = .ok (.depth s.depth) ∧
    ∀ number t, (w.dispatchers.get number).inFlight t =
      (left.2.dispatchers.get number).inFlight t + if s.isOf number t then 1 else 0 := by
  intro left
  obtain ⟨n, hn, hkeeper⟩ := h.2.exists_number hs
  have hleft : left = _ := perform_release hn hkeeper
  rw [hleft]
  refine ⟨rfl, ?_⟩
  intro number t
  simp only [Catalog.get_update]
  by_cases hnumber : number = s.dispatcher
  · subst hnumber
    by_cases ht : t = s.thread
    · subst ht
      have hof : s.isOf s.dispatcher s.thread = true := Slot.isOf_iff.mpr ⟨rfl, rfl⟩
      rw [if_pos rfl, inFlight_release, if_pos rfl, if_pos hof,
        Nat.sub_add_cancel (inFlight_pos h hs)]
    · simp [Slot.isOf, ht, Ne.symm ht]
  · simp [Slot.isOf, hnumber, Ne.symm hnumber]

/-- Guards are issued and given back in any order and from any thread. A dispatcher counts, for each
thread, the guards that are out; it issues another one exactly if they are fewer than its limit, and
a guard that is given back is taken off the count of the thread that had entered. -/
theorem guards_accounted {w : World} (hdispatchers : w.dispatchers = .empty)
    (hguards : w.guards = .empty) (handle : Handlers) (actions : List Action) :
    let v := (run handle (w, []) actions).1
    let live := (run handle (w, []) actions).2
    (∀ number t,
      let d := v.dispatchers.get number
      let mine := live.filter (·.isOf number t)
      d.inFlight t = mine.length ∧ d.inFlight t ≤ d.maxDepth ∧ (∀ row ∈ d.depths.rows, row.2 ≠ 0) ∧
      (∀ c name kind guard, c.thread = t → v.dispatchers.number? name = some number →
        v.guards.number? guard = none →
        let entered := Scenario.perform handle c (.enter name kind guard) v
        (mine.length = d.maxDepth →
          entered = (.ok (.failed (.notify (.depthExceeded d.document kind d.maxDepth))),
            v.record (.refused (.standalone number) t d.document kind d.maxDepth))) ∧
        (mine.length ≠ d.maxDepth → entered.1 = .ok (.depth (mine.length + 1)))) ∧
      (lastFirst handle number t (w, []) actions = true →
        mine.map (·.depth) = (List.range' 1 mine.length).reverse)) ∧
    (∀ s ∈ live,
      (∃ n, (v.dispatchers.get s.dispatcher).depths.find? s.thread = some n ∧ 0 < n) ∧
      ∀ c,
        let left := Scenario.perform handle c (.releaseGuard s.guard) v
        left.1 = .ok (.depth s.depth) ∧
        ∀ number t, (v.dispatchers.get number).inFlight t =
          (left.2.dispatchers.get number).inFlight t + if s.isOf number t then 1 else 0) := by
  intro v live
  have hstart : w.Issued [] := by
    unfold Issued
    rw [hdispatchers, hguards]
    exact ⟨.empty, .empty⟩
  have hissued : v.Issued live := issued_run (s := (w, [])) hstart actions
  constructor
  · intro number t d mine
    have hcounts := hissued.1.counts number
    refine ⟨inFlight_eq_length hissued number t, hcounts.room t, hcounts.tidy, ?_, ?_⟩
    · rintro c name kind guard rfl hnumber hfree
      exact perform_enter_iff hissued hnumber hfree
    · exact stacked_run (s := (w, [])) hstart rfl
  · intro s hs
    have hpos := inFlight_pos hissued hs
    exact ⟨⟨_, Depths.find?_of_count_pos hpos, hpos⟩, perform_release_counts hissued hs⟩

/-- Two threads enter; the second gives back the older guard of the first, which enters again. -/
def crossing : List Action :=
  [create ⟨0, none, none⟩ "x" ⟨7⟩ 2 .skip,
    enter ⟨0, none, none⟩ "x" .beginLoad "a", enter ⟨0, none, none⟩ "x" .beginLoad "b",
    enter ⟨1, none, none⟩ "x" .beginLoad "c", release ⟨1, none, none⟩ "a",
    enter ⟨0, none, none⟩ "x" .beginLoad "e"]

/-- Both guards of the first thread have the depth two and it cannot enter; the second thread has
given nothing of its own back and holds the depth one. -/
theorem guards_accounted_crossing :
    World.empty.dispatchers = .empty ∧ World.empty.guards = .empty ∧
    let after := run (Scenario.respond 0) (.empty, []) crossing
    after.2 = [⟨"e", 0, 0, 2⟩, ⟨"c", 0, 1, 1⟩, ⟨"b", 0, 0, 2⟩] ∧
    (after.1.dispatchers.get 0).inFlight 0 = 2 ∧
    (Scenario.perform (Scenario.respond 0) ⟨0, none, none⟩ (.enter "x" .endLoad "f") after.1).1 =
      .ok (.failed (.notify (.depthExceeded ⟨7⟩ .endLoad 2))) ∧
    (Scenario.perform (Scenario.respond 0) ⟨1, none, none⟩ (.releaseGuard "b") after.1).1 =
      .ok (.depth 2) ∧
    (after.2.filter (·.isOf 0 1)).map (·.depth) = [1] := by
  have hlive : (run (Scenario.respond 0) (.empty, []) crossing).2 =
      [⟨"e", 0, 0, 2⟩, ⟨"c", 0, 1, 1⟩, ⟨"b", 0, 0, 2⟩] := by decide +kernel
  obtain ⟨hthreads, hback⟩ :=
    guards_accounted (w := .empty) rfl rfl (Scenario.respond 0) crossing
  obtain ⟨hcount, -, -, henter, -⟩ := hthreads 0 0
  obtain ⟨-, -, -, -, hdepths⟩ := hthreads 0 1
  have hfull := (henter ⟨0, none, none⟩ "x" .endLoad "f" rfl (by decide +kernel)
    (by decide +kernel)).1 (by decide +kernel)
  have hrelease := ((hback ⟨"b", 0, 0, 2⟩ (by rw [hlive]; decide)).2 ⟨1, none, none⟩).1
  refine ⟨rfl, rfl, hlive, ?_, ?_, hrelease, ?_⟩
  · rw [hcount, hlive]
    decide
  · rw [hfull]
    decide +kernel
  · rw [hdepths (by decide +kernel), hlive]
    decide

end Dispatcher.Action

end ChangeNotice
