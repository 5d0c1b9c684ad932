import ChangeNotice.Proofs.MaskLaws
import ChangeNotice.Proofs.ScopeAccount

/-! # A scope counter and the stack it stands for

A counter that stands by itself is made, and scopes are opened and closed on it in any order.
It keeps a number and one mask. Beside it stands the stack of the open scopes, each with the
mask that it was opened for, and the masks of all scopes since there was none. As long as the
number has not come to its end it is the height of the stack, and the mask is the union of
the masks since there was none. Where it has come to its end, the number says less than the
stack, but an idle counter is idle still, and no closing goes below zero.
-/

namespace ChangeNotice

open World

/-! ## What is done with a counter -/

namespace ScopeState

/-- What is done with a counter, and from where. -/
inductive Action where
  | enter (c : Context) (m : UpdateMask)
  | leave (c : Context) (m : UpdateMask)

namespace Action

/-- The mask that a scope is opened for; none if a scope is closed. -/
def opens? : Action → Option UpdateMask
  | enter _ m => some m
  | leave _ _ => none

def perform (handle : Handlers) (tracker : Name) : Action → Run Answer
  | enter c m => Scenario.perform handle c (.trackerBegin tracker m)
  | leave c m => Scenario.perform handle c (.trackerEnd tracker m)

/-- Actions are done one after the other. -/
def run (handle : Handlers) (tracker : Name) (w : World) (actions : List Action) : World :=
  actions.foldl (fun w action => (action.perform handle tracker w).2) w

/-- A closing succeeds if it is answered with a state. -/
def succeeds (handle : Handlers) (tracker : Name) (w : World) (action : Action) : Nat :=
  match action, (action.perform handle tracker w).1 with
  | leave _ _, .ok (.scope _) => 1
  | _, _ => 0

/-- How many closings succeed. -/
def closings (handle : Handlers) (tracker : Name) : World → List Action → Nat
  | _, [] => 0
  | w, action :: rest =>
    action.succeeds handle tracker w +
      closings handle tracker (action.perform handle tracker w).2 rest

end Action

end ScopeState

open ScopeState (Action)

/-- The masks of the open scopes, newest first, and of all that were opened since there was none. -/
structure Nest where
  opened : List UpdateMask
  since : List UpdateMask

namespace Nest

def empty : Nest := ⟨[], []⟩

/-- The newest scope is closed, if there is one; with the last one all is forgotten. -/
def pop (n : Nest) : Nest :=
  match n.opened with
  | [] => n
  | [_] => empty
  | _ :: rest => ⟨rest, n.since⟩

def step (n : Nest) (action : Action) : Nest :=
  match action.opens? with
  | some m => ⟨m :: n.opened, m :: n.since⟩
  | none => n.pop

def run (n : Nest) (actions : List Action) : Nest := actions.foldl step n

/-- What is open was opened since nothing was. -/
def Sound (n : Nest) : Prop := n.opened ⊆ n.since

variable {n : Nest}

theorem Sound.step (h : n.Sound) (action : Action) : (n.step action).Sound := by
  unfold Nest.step
  split
  · exact List.cons_subset_cons _ h
  · unfold pop
    split
    · exact h
    · exact List.nil_subset _
    next first rest hopened =>
      intro m hm
      apply h
      rw [hopened]
      exact List.mem_cons_of_mem _ hm

theorem Sound.run (h : n.Sound) (actions : List Action) : (n.run actions).Sound := by
  induction actions generalizing n with
  | nil => exact h
  | cons action actions ih => exact ih (h.step action)

theorem length_step_le (n : Nest) (action : Action) :
    (n.step action).opened.length ≤ n.opened.length + 1 := by
  unfold step
  split
  · exact Nat.le_refl _
  · unfold pop
    split
    · exact Nat.le_succ _
    · exact Nat.zero_le _
    next first rest _ hopened =>
      change rest.length ≤ n.opened.length + 1
      rw [hopened, List.length_cons]
      omega

theorem length_run_le (n : Nest) (actions : List Action) :
    (n.run actions).opened.length ≤ n.opened.length + actions.length := by
  induction actions generalizing n with
  | nil => exact Nat.le_refl _
  | cons action actions ih =>
      have hstep := n.length_step_le action
      have hrest : (n.run (action :: actions)).opened.length ≤
        (n.step action).opened.length + actions.length := ih (n.step action)
      rw [List.length_cons]
      omega

end Nest

namespace ScopeState

variable {s : ScopeState} {n : Nest}

/-- The counter after an action; a closing that fails leaves it as it is. -/
def after (s : ScopeState) : Action → ScopeState
  | .enter _ m => s.enter m
  | .leave _ m => (s.leave m).toOption.getD s

/-- The counter after actions. -/
def afterAll (s : ScopeState) (actions : List Action) : ScopeState := actions.foldl after s

theorem leave_of_idle (h : s.depth = 0) (m : UpdateMask) : s.leave m = .error (.unbalanced m) := by
  simp [leave, check, h, bind, Except.bind]

theorem after_leave (s : ScopeState) (c : Context) (m : UpdateMask) :
    s.after (.leave c m) =
      if s.depth = 0 then s else ⟨s.depth - 1, if s.depth = 1 then .empty else s.mask⟩ := by
  rw [after]
  by_cases hidle : s.depth = 0
  · rw [leave_of_idle hidle, if_pos hidle]
    rfl
  · rw [leave_eq_ok.mpr ⟨hidle, rfl⟩, if_neg hidle]
    rfl

/-- What a scope is closed with makes no difference. -/
theorem after_congr {action action' : Action} (h : action.opens? = action'.opens?)
    (s : ScopeState) :
    s.after action = s.after action' := by
  cases action with
  | enter c m =>
      cases action' with
      | enter c' m' =>
          obtain rfl : m = m' := Option.some.inj h
          rfl
      | leave c' m' => exact nomatch h
  | leave c m =>
      cases action' with
      | enter c' m' => exact nomatch h
      | leave c' m' => rw [after_leave, after_leave]

theorem afterAll_congr {actions actions' : List Action}
    (h : actions.map Action.opens? = actions'.map Action.opens?) (s : ScopeState) :
    s.afterAll actions = s.afterAll actions' := by
  induction actions generalizing actions' s with
  | nil => rw [List.map_eq_nil_iff.mp h.symm]
  | cons action actions ih =>
      cases actions' with
      | nil => exact nomatch h
      | cons action' actions' =>
          obtain ⟨hfirst, hrest⟩ := List.cons.inj h
          have hstep : s.after action = s.after action' := after_congr hfirst s
          change (s.after action).afterAll actions = (s.after action').afterAll actions'
          rw [hstep, ih hrest]

/-! ## An idle counter has gathered nothing -/

/-- Without an open scope nothing is gathered. -/
def Tidy (s : ScopeState) : Prop := s.depth = 0 → s.mask = .empty

theorem Tidy.after (h : s.Tidy) (action : Action) : (s.after action).Tidy := by
  cases action with
  | enter c m =>
      intro hidle
      simp only [ScopeState.after, enter, maxDepth, UInt32.size] at hidle
      omega
  | leave c m =>
      rw [after_leave]
      by_cases hidle : s.depth = 0
      · rw [if_pos hidle]
        exact h
      · rw [if_neg hidle]
        intro hzero
        have hlast : s.depth = 1 := by
          simp only at hzero
          omega
        exact if_pos hlast

theorem Tidy.afterAll (h : s.Tidy) (actions : List Action) : (s.afterAll actions).Tidy := by
  induction actions generalizing s with
  | nil => exact h
  | cons action actions ih => exact ih (h.after action)

/-- While a scope is open nothing that was gathered is lost. -/
theorem mask_after {action : Action} (h : (s.after action).depth ≠ 0) :
    (s.after action).mask.contains s.mask = true := by
  cases action with
  | enter c m => exact UpdateMask.contains_or_left _ _
  | leave c m =>
      rw [after_leave] at h ⊢
      split_ifs at h ⊢ with hidle hlast
      · exact UpdateMask.contains_refl _
      · simp [hlast] at h
      · exact UpdateMask.contains_refl _

theorem mask_afterAll {actions : List Action} (h : ∀ k, (s.afterAll (actions.take k)).depth ≠ 0) :
    (s.afterAll actions).mask.contains s.mask = true := by
  induction actions generalizing s with
  | nil => exact UpdateMask.contains_refl _
  | cons action actions ih =>
      have hfirst : (s.after action).mask.contains s.mask = true := mask_after (h 1)
      exact UpdateMask.contains_trans hfirst (ih fun k => h (k + 1))

/-! ## The counter and the stack -/

/-- The counter says of the stack how high it is, and what has been opened since it was empty. -/
structure Counts (n : Nest) (s : ScopeState) : Prop where
  depth : s.depth = n.opened.length
  mask : s.mask = .gather n.since

theorem Counts.step (h : s.Counts n) {action : Action}
    (hfew : (n.step action).opened.length < 2 ^ 32) : (s.after action).Counts (n.step action) := by
  cases action with
  | enter c m =>
      change n.opened.length + 1 < 2 ^ 32 at hfew
      refine ⟨?_, congrArg (· ||| m) h.mask⟩
      change min (s.depth + 1) maxDepth = n.opened.length + 1
      rw [h.depth]
      simp only [maxDepth, UInt32.size]
      omega
  | leave c m =>
      change (s.after (.leave c m)).Counts n.pop
      rw [after_leave, h.depth]
      unfold Nest.pop
      split
      next hopened =>
        rw [hopened]
        exact h
      next first hopened =>
        rw [hopened]
        exact ⟨rfl, rfl⟩
      next first rest hne hopened =>
        -- another scope stays open, so the mask is kept
        have hrest : rest.length ≠ 0 := fun hzero => hne (List.length_eq_zero_iff.mp hzero)
        rw [hopened, List.length_cons, if_neg (Nat.succ_ne_zero _), if_neg (by omega)]
        exact ⟨rfl, h.mask⟩

theorem Counts.run (h : s.Counts n) {actions : List Action}
    (hfew : ∀ k, (n.run (actions.take k)).opened.length < 2 ^ 32) :
    (s.afterAll actions).Counts (n.run actions) := by
  induction actions generalizing s n with
  | nil => exact h
  | cons action actions ih => exact ih (h.step (hfew 1)) fun k => hfew (k + 1)

/-- The mask has all that the open scopes were opened for. -/
theorem Counts.contains_opened (h : s.Counts n) (hn : n.Sound) :
    s.mask.contains (.gather n.opened) = true := by
  apply UpdateMask.contains_gather
  intro m hm
  rw [h.mask]
  exact UpdateMask.contains_gather_of_mem (hn hm)

end ScopeState

/-! ## Counters of a world -/

namespace World

variable {w : World} {handle : Handlers} {tracker : Name} {s : ScopeState}

/-- The name means a counter in this state. -/
def HasCounter (w : World) (tracker : Name) (s : ScopeState) : Prop :=
  ∃ number, w.trackers.number? tracker = some number ∧ w.scope (.standalone number) = s

end World

namespace ScopeState

variable {w : World} {handle : Handlers} {tracker : Name} {s : ScopeState}

theorem hasCounter_create (handle : Handlers) (c : Context) (tracker : Name) (w : World) :
    (Scenario.perform handle c (.createTracker tracker) w).2.HasCounter tracker .idle := by
  refine ⟨w.trackers.made, ?_, ?_⟩
  · exact (Catalog.number?_make w.trackers tracker tracker .idle).trans (if_pos rfl)
  · exact (Catalog.get_make w.trackers tracker w.trackers.made .idle).trans (if_pos rfl)

section

variable (h : w.HasCounter tracker s)

include h

theorem perform_state (c : Context) :
    Scenario.perform handle c (.trackerState tracker) w = (.ok (.tracker s), w) := by
  obtain ⟨number, hnumber, rfl⟩ := h
  simp [Scenario.perform, Scenario.onTracker, Scenario.onNamed, Run.bind_apply, hnumber]

theorem perform_begin (handle : Handlers) (c : Context) (m : UpdateMask) : ∃ u,
    Scenario.perform handle c (.trackerBegin tracker m) w = (.ok (.scope (s.enter m)), u) ∧
      u.HasCounter tracker (s.enter m) := by
  obtain ⟨number, hnumber, rfl⟩ := h
  have hscope : (w.openScope (.standalone number) m).scope (.standalone number) =
      (w.scope (.standalone number)).enter m :=
    (Catalog.get_update w.trackers number number _).trans (if_pos rfl)
  refine ⟨w.openScope (.standalone number) m, ?_, number, hnumber, hscope⟩
  simp [Scenario.perform, Scenario.onTracker, Scenario.onNamed, Scenario.trackerBegin,
    Run.bind_apply, hnumber, hscope]

theorem perform_end_idle (hidle : s.depth = 0) (c : Context) (m : UpdateMask) :
    Scenario.perform handle c (.trackerEnd tracker m) w =
      (.ok (.failed (.scope (.unbalanced m))), w) := by
  obtain ⟨number, hnumber, rfl⟩ := h
  simp [Scenario.perform, Scenario.onTracker, Scenario.onNamed, Scenario.trackerEnd,
    Run.bind_apply, hnumber, leave_of_idle hidle]

theorem perform_end_open (hopen : s.depth ≠ 0) (handle : Handlers) (c : Context)
    (m : UpdateMask) : ∃ u,
    Scenario.perform handle c (.trackerEnd tracker m) w = (.ok (.scope (s.after (.leave c m))), u) ∧
      u.HasCounter tracker (s.after (.leave c m)) := by
  have hleave : s.leave m = .ok (s.after (.leave c m)) := by
    rw [after_leave, if_neg hopen]
    exact leave_eq_ok.mpr ⟨hopen, rfl⟩
  generalize s.after (.leave c m) = s' at hleave
  obtain ⟨number, hnumber, rfl⟩ := h
  refine ⟨w.closeScope (.standalone number) m s', ?_, number, ?_, ?_⟩
  · simp [Scenario.perform, Scenario.onTracker, Scenario.onNamed, Scenario.trackerEnd,
      Run.bind_apply, hnumber, hleave]
  · unfold World.closeScope
    dsimp only
    split_ifs <;> exact hnumber
  · unfold World.closeScope
    dsimp only
    split_ifs <;> exact (Catalog.get_update _ number number _).trans (if_pos rfl)

theorem perform_check (c : Context) (m : UpdateMask) :
    Scenario.perform handle c (.trackerCheck tracker m) w =
      (.ok (if s.depth = 0 then .failed (.scope (.unbalanced m)) else .ok), w) := by
  obtain ⟨number, hnumber, rfl⟩ := h
  by_cases hidle : (w.scope (.standalone number)).depth = 0 <;>
    simp [Scenario.perform, Scenario.onTracker, Scenario.onNamed, Scenario.trackerCheck,
      Run.bind_apply, hnumber, check, hidle]

end

/-! ## Actions on a counter -/

theorem hasCounter_perform (handle : Handlers) (h : w.HasCounter tracker s) (action : Action) :
    (action.perform handle tracker w).2.HasCounter tracker (s.after action) := by
  cases action with
  | enter c m =>
      obtain ⟨u, hrun, hu⟩ := perform_begin h handle c m
      rw [Action.perform, hrun]
      exact hu
  | leave c m =>
      rw [Action.perform]
      by_cases hidle : s.depth = 0
      · rw [perform_end_idle h hidle, after_leave, if_pos hidle]
        exact h
      · obtain ⟨u, hrun, hu⟩ := perform_end_open h hidle handle c m
        rw [hrun]
        exact hu

theorem hasCounter_run (handle : Handlers) (h : w.HasCounter tracker s) (actions : List Action) :
    (Action.run handle tracker w actions).HasCounter tracker (s.afterAll actions) := by
  induction actions generalizing w s with
  | nil => exact h
  | cons action actions ih => exact ih (hasCounter_perform handle h action)

/-- What a closing that succeeds takes off the counter, an opening has added before. -/
theorem depth_after_add_le (handle : Handlers) (h : w.HasCounter tracker s) (action : Action) :
    (s.after action).depth + action.succeeds handle tracker w ≤
      s.depth + if action.opens?.isSome then 1 else 0 := by
  cases action with
  | enter c m => exact Nat.min_le_left _ _
  | leave c m =>
      unfold Action.succeeds Action.perform
      dsimp only
      by_cases hidle : s.depth = 0
      · rw [perform_end_idle h hidle, after_leave, if_pos hidle]
        exact Nat.le_add_right _ _
      · obtain ⟨u, hrun, -⟩ := perform_end_open h hidle handle c m
        rw [hrun, after_leave, if_neg hidle]
        dsimp only
        omega

theorem depth_afterAll_add_le (handle : Handlers) (h : w.HasCounter tracker s)
    (actions : List Action) :
    (s.afterAll actions).depth + Action.closings handle tracker w actions ≤
      s.depth + actions.countP (·.opens?.isSome) := by
  induction actions generalizing w s with
  | nil => exact Nat.le_refl _
  | cons action actions ih =>
      have hfirst := depth_after_add_le handle h action
      have hrest := ih (hasCounter_perform handle h action)
      change ((s.after action).afterAll actions).depth + _ ≤ _
      rw [Action.closings, List.countP_cons]
      omega

/-- The counter is told to be in this state, whoever asks. -/
def Tells (handle : Handlers) (tracker : Name) (w : World) (s : ScopeState) : Prop :=
  ∀ c, Scenario.perform handle c (.trackerState tracker) w = (.ok (.tracker s), w)

/-- What holds of the counter in this state, however many scopes have been opened. -/
structure Guarded (handle : Handlers) (tracker : Name) (w : World) (s : ScopeState) : Prop where
  idle : s.depth = 0 → s.mask = .empty
  fails : s.depth = 0 → ∀ c m, Scenario.perform handle c (.trackerEnd tracker m) w =
    (.ok (.failed (.scope (.unbalanced m))), w)
  closes : s.depth ≠ 0 → ∀ c m, ∃ s' u,
    Scenario.perform handle c (.trackerEnd tracker m) w = (.ok (.scope s'), u) ∧
      Tells handle tracker u s' ∧ s'.depth + 1 = s.depth
  checks : ∀ c m, Scenario.perform handle c (.trackerCheck tracker m) w =
    (.ok (if s.depth = 0 then .failed (.scope (.unbalanced m)) else .ok), w)

theorem guarded_of_hasCounter (h : w.HasCounter tracker s) (htidy : s.Tidy) :
    Guarded handle tracker w s := by
  refine ⟨htidy, fun hidle c m => perform_end_idle h hidle c m, ?_, perform_check h⟩
  intro hopen c m
  obtain ⟨u, hrun, hu⟩ := perform_end_open h hopen handle c m
  refine ⟨_, u, hrun, perform_state hu, ?_⟩
  rw [after_leave, if_neg hopen]
  exact Nat.sub_add_cancel (Nat.one_le_iff_ne_zero.mpr hopen)

/-- Scopes are opened and closed on a new counter in any order. As long as 32 bits can count them,
the counter is the height of the stack of open scopes and its mask is all that was opened since the
stack was last empty. Closing fails exactly if no scope is open, and then changes nothing. -/
theorem counter_refines_stack (handle : Handlers) (c : Context) (tracker : Name) (w : World)
    (actions : List Action) :
    let fresh := (Scenario.perform handle c (.createTracker tracker) w).2
    let v := Action.run handle tracker fresh actions
    let n := Nest.empty.run actions
    ∃ s, Tells handle tracker v s ∧ Guarded handle tracker v s ∧
      Action.closings handle tracker fresh actions ≤ actions.countP (·.opens?.isSome) ∧
      (∀ actions', actions'.map Action.opens? = actions.map Action.opens? →
        Tells handle tracker (Action.run handle tracker fresh actions') s) ∧
      ((∀ k, (Nest.empty.run (actions.take k)).opened.length < 2 ^ 32) →
        s.depth = n.opened.length ∧ s.mask = .gather n.since ∧
        s.mask.contains (.gather n.opened) = true ∧
        (∀ c m, Scenario.perform handle c (.trackerEnd tracker m) v =
          (.ok (.failed (.scope (.unbalanced m))), v) ↔ n.opened = []) ∧
        (∀ c m, Scenario.perform handle c (.trackerCheck tracker m) v =
          (.ok (.failed (.scope (.unbalanced m))), v) ↔ n.opened = []) ∧
        ∀ more, (∀ k, let opened := (n.run (more.take k)).opened
            opened ≠ [] ∧ opened.length < 2 ^ 32) →
          ∃ s', Tells handle tracker (Action.run handle tracker v more) s' ∧
            s'.mask.contains s.mask = true) := by
  intro fresh v n
  have hfresh : fresh.HasCounter tracker .idle := hasCounter_create handle c tracker w
  have hcounter : v.HasCounter tracker (idle.afterAll actions) :=
    hasCounter_run handle hfresh actions
  have htidy : (idle.afterAll actions).Tidy := Tidy.afterAll (fun _ => rfl) actions
  have hguarded : Guarded handle tracker v (idle.afterAll actions) :=
    guarded_of_hasCounter hcounter htidy
  refine ⟨idle.afterAll actions, perform_state hcounter, hguarded, ?_, ?_, fun hfew => ?_⟩
  · have hcount := depth_afterAll_add_le handle hfresh actions
    simp only [idle] at hcount
    omega
  · intro actions' hsame
    rw [afterAll_congr hsame.symm]
    exact perform_state (hasCounter_run handle hfresh actions')
  · have hcounts : (idle.afterAll actions).Counts n := Counts.run ⟨rfl, rfl⟩ hfew
    have hsound : n.Sound := Nest.Sound.run (List.nil_subset _) actions
    have hempty : (idle.afterAll actions).depth = 0 ↔ n.opened = [] := by
      rw [hcounts.depth, List.length_eq_zero_iff]
    refine ⟨hcounts.depth, hcounts.mask, hcounts.contains_opened hsound, ?_, ?_, ?_⟩
    · intro c m
      rw [← hempty]
      constructor
      · intro hfails
        by_contra hopen
        obtain ⟨s', u, hrun, -⟩ := hguarded.closes hopen c m
        simp [hrun] at hfails
      · exact fun hidle => hguarded.fails hidle c m
    · intro c m
      rw [← hempty, hguarded.checks]
      by_cases hidle : (idle.afterAll actions).depth = 0 <;> simp [hidle]
    · intro more hmore
      refine ⟨_, perform_state (hasCounter_run handle hcounter more), mask_afterAll fun k => ?_⟩
      have hlater :
          ((idle.afterAll actions).afterAll (more.take k)).Counts (n.run (more.take k)) := by
        apply hcounts.run
        intro j
        rw [List.take_take]
        exact (hmore _).2
      rw [hlater.depth]
      exact fun hzero => (hmore k).1 (List.length_eq_zero_iff.mp hzero)

/-- Two scopes are opened, one is closed with a mask that was never opened, and a third follows. -/
def overlapping : List Action :=
  [.enter .top .style, .enter .top .contentModel, .leave .top ⟨4⟩, .enter .top ⟨8⟩]

/-- The mask still has the bit of the scope that is closed, which no open scope has. -/
theorem counter_refines_stack_overlapping :
    (∀ k, (Nest.empty.run (overlapping.take k)).opened.length < 2 ^ 32) ∧
    (Nest.empty.run overlapping).opened = [⟨8⟩, .style] ∧
    ∃ s, Tells (Scenario.respond 0) "x" (Action.run (Scenario.respond 0) "x"
        (Scenario.perform (Scenario.respond 0) .top (.createTracker "x") .empty).2 overlapping) s ∧
      s.depth = 2 ∧ s.mask = ⟨11⟩ := by
  have hfew : ∀ k, (Nest.empty.run (overlapping.take k)).opened.length < 2 ^ 32 := by
    intro k
    have hlength := Nest.empty.length_run_le (overlapping.take k)
    have htake : (overlapping.take k).length ≤ 4 := List.length_take_le' k overlapping
    simp only [Nest.empty, List.length_nil] at hlength ⊢
    omega
  obtain ⟨s, htells, -, -, -, hrefines⟩ :=
    counter_refines_stack (Scenario.respond 0) .top "x" .empty overlapping
  obtain ⟨hdepth, hmask, -⟩ := hrefines hfew
  exact ⟨hfew, rfl, s, htells, hdepth, hmask⟩

end ScopeState

end ChangeNotice
