import ChangeNotice.Proofs.Client

/-! # The account of update scopes

How many scopes of a document are open, and which kinds of change they gather,
can be read off the journal: scopes are begun by the notifications that take a
slot to open one, and closed by those that get to their closing step. The counter
of the document agrees with this account wherever a client can look.
-/

namespace ChangeNotice

open World

namespace Moment

/-- The kinds of change that a notification opens a scope of the document for. -/
def begins? (d : Name) : Moment → Option UpdateMask
  | admitted d' _ (.event (.beginUpdate m)) => if d' = d then some m else none
  | _ => none

/-- A notification has closed a scope of the document. -/
def closes (d : Name) : Moment → Bool
  | scopeClosed (.document d') _ => d' = d
  | _ => false

/-- The moment opens or closes a scope of a document or shows it to a handler. -/
def isScoped : Moment → Bool
  | admitted _ _ (.event (.beginUpdate _)) | scopeClosed (.document _) _ | called _ => true
  | _ => false

variable {m : Moment} {d : Name}

theorem begins?_of_not_isScoped (h : m.isScoped = false) : m.begins? d = none := by
  unfold begins?
  split
  · exact absurd h (by simp [isScoped])
  · rfl

theorem closes_of_not_isScoped (h : m.isScoped = false) : m.closes d = false := by
  unfold closes
  split
  · exact absurd h (by simp [isScoped])
  · rfl

end Moment

namespace Journal

/-- How many scopes of the document have been begun. -/
def begun (d : Name) (past : List Moment) : Nat := past.countP fun m => (m.begins? d).isSome

/-- How many scopes of the document have been closed. -/
def closed (d : Name) (past : List Moment) : Nat := past.countP (·.closes d)

/-- The moments since the document last had no open scope. -/
def sinceIdle (d : Name) : List Moment → List Moment
  | [] => []
  | m :: past =>
    if begun d (m :: past) = closed d (m :: past) then [] else m :: sinceIdle d past

/-- The union of what the scopes begun in this stretch of journal were opened for. -/
def gathered (d : Name) (past : List Moment) : UpdateMask :=
  past.foldr (fun m mask => (m.begins? d).elim mask (mask ||| ·)) .empty

variable {d : Name} {m : Moment} {past : List Moment}

theorem begun_cons (d : Name) (m : Moment) (past : List Moment) :
    begun d (m :: past) = begun d past + if (m.begins? d).isSome then 1 else 0 := List.countP_cons

theorem closed_cons (d : Name) (m : Moment) (past : List Moment) :
    closed d (m :: past) = closed d past + if m.closes d then 1 else 0 := List.countP_cons

@[simp]
theorem begun_append (d : Name) (news past : List Moment) :
    begun d (news ++ past) = begun d news + begun d past := List.countP_append

@[simp]
theorem closed_append (d : Name) (news past : List Moment) :
    closed d (news ++ past) = closed d news + closed d past := List.countP_append

/-- The moments neither open nor close a scope of the document. -/
def Passive (d : Name) (news : List Moment) : Prop :=
  ∀ m ∈ news, m.begins? d = none ∧ m.closes d = false

theorem Passive.of_not_isScoped {news : List Moment} (h : ∀ m ∈ news, m.isScoped = false) :
    Passive d news :=
  fun m hm => ⟨Moment.begins?_of_not_isScoped (h m hm), Moment.closes_of_not_isScoped (h m hm)⟩

theorem Passive.begun_append {news : List Moment} (h : Passive d news) (past : List Moment) :
    begun d (news ++ past) = begun d past := by
  have hzero : begun d news = 0 := List.countP_eq_zero.mpr fun m hm => by simp [(h m hm).1]
  rw [Journal.begun_append, hzero, Nat.zero_add]

theorem Passive.closed_append {news : List Moment} (h : Passive d news) (past : List Moment) :
    closed d (news ++ past) = closed d past := by
  have hzero : closed d news = 0 := List.countP_eq_zero.mpr fun m hm => by simp [(h m hm).2]
  rw [Journal.closed_append, hzero, Nat.zero_add]

theorem sinceIdle_of_balanced (h : begun d past = closed d past) : sinceIdle d past = [] := by
  cases past with
  | nil => rfl
  | cons m past => rw [sinceIdle, if_pos h]

/-- Moments that neither open nor close a scope of the document gather nothing. -/
theorem gathered_sinceIdle_cons (hbegins : m.begins? d = none) (hcloses : m.closes d = false) :
    gathered d (sinceIdle d (m :: past)) = gathered d (sinceIdle d past) := by
  have hbegun : begun d (m :: past) = begun d past := by simp [begun, hbegins]
  have hclosed : closed d (m :: past) = closed d past := by simp [closed, hcloses]
  rw [sinceIdle, hbegun, hclosed]
  split
  next hbalanced => rw [sinceIdle_of_balanced hbalanced]
  next => simp [gathered, hbegins]

theorem Passive.gathered_append {news : List Moment} (h : Passive d news) (past : List Moment) :
    gathered d (sinceIdle d (news ++ past)) = gathered d (sinceIdle d past) := by
  induction news with
  | nil => rfl
  | cons m news ih =>
      obtain ⟨hm, hnews⟩ := List.forall_mem_cons.mp h
      rw [List.cons_append, gathered_sinceIdle_cons hm.1 hm.2, ih hnews]

end Journal

/-- A change, as far as update scopes are concerned. -/
inductive ScopeMove (w w' : World) : Prop
  | quiet (news : List Moment) (hpast : w'.past = news ++ w.past)
      (hnews : ∀ m ∈ news, m.isScoped = false)
      (hscope : ∀ d, (w'.document d).scope = (w.document d).scope)
  | called (t : Thread) (d o : Name) (n : Notice)
      (h : w' = w.record (.called (w.callOf t d o n)))
  | opens (d : Name) (t : Thread) (m : UpdateMask) (s : ScopeState)
      (hpast : w'.past = .scopeOpened (.document d) m s ::
        .admitted d t (.event (.beginUpdate m)) :: w.past)
      (hscope : (w'.document d).scope = (w.document d).scope.enter m)
      (helsewhere : ∀ d', d' ≠ d → (w'.document d').scope = (w.document d').scope)
  | closes (d : Name) (m : UpdateMask) (s : ScopeState) (news : List Moment)
      (hpast : w'.past = .scopeClosed (.document d) s :: (news ++ w.past))
      (hnews : ∀ m ∈ news, m.isScoped = false)
      (hleave : (w.document d).scope.leave m = .ok s) (hscope : (w'.document d).scope = s)
      (helsewhere : ∀ d', d' ≠ d → (w'.document d').scope = (w.document d').scope)

/-- A notification that opens no scope prepares nothing that concerns scopes. -/
theorem World.prepare_quiet (w : World) (d : Name) {n : Notice}
    (hn : ∀ m, n ≠ .event (.beginUpdate m)) :
    (∃ news : List Moment, (w.prepare d n).past = news ++ w.past ∧
      ∀ m ∈ news, m.isScoped = false) ∧
    ((w.prepare d n).document d).scope = (w.document d).scope := by
  unfold prepare
  split
  next m => exact absurd rfl (hn m)
  next =>
    split
    · exact ⟨⟨[_], rfl, by simp [Moment.isScoped]⟩, by simp [setLoad]⟩
    · exact ⟨⟨[], rfl, by simp⟩, by simp [setLoad]⟩
  next =>
    split
    · exact ⟨⟨[_], rfl, by simp [Moment.isScoped]⟩, by simp [setLoad]⟩
    · exact ⟨⟨[], rfl, by simp⟩, by simp [setLoad]⟩
  next => exact ⟨⟨[], rfl, by simp⟩, rfl⟩

namespace ScopeMove

variable {floor w w' : World}

/-- Only scopes of one document are concerned. -/
theorem of_actsOn {d : Name} (h : ActsOn d w w') (news : List Moment)
    (hpast : w'.past = news ++ w.past) (hnews : ∀ m ∈ news, m.isScoped = false)
    (hscope : (w'.document d).scope = (w.document d).scope) : ScopeMove w w' := by
  refine .quiet news hpast hnews fun d' => ?_
  by_cases heq : d' = d
  · rw [heq, hscope]
  · rw [h.elsewhere d' heq]

theorem of_accept (w : World) (d : Name) (t : Thread) (n : Notice) (left : Dispatcher) :
    ScopeMove w ((w.takeSlot d t n left).prepare d n) := by
  have hacts := accept_actsOn w d t n left
  by_cases hbegin : ∃ m, n = .event (.beginUpdate m)
  · obtain ⟨m, rfl⟩ := hbegin
    refine .opens d t m _ rfl ?_ fun d' hne => congrArg Document.scope (hacts.elsewhere d' hne)
    simp [prepare, openScope, takeSlot, setScope, scope]
  · have hn : ∀ m, n ≠ .event (.beginUpdate m) := fun m heq => hbegin ⟨m, heq⟩
    obtain ⟨⟨news, hpast, hnews⟩, hscope⟩ := prepare_quiet (w.takeSlot d t n left) d hn
    refine of_actsOn hacts (news ++ [.admitted d t n]) ?_ ?_ ?_
    · rw [hpast, List.append_assoc]
      rfl
    · intro m hm
      rcases List.mem_append.mp hm with hm | hm
      · exact hnews m hm
      · rw [List.mem_singleton] at hm
        subst hm
        unfold Moment.isScoped
        split
        next heq => exact absurd (Moment.admitted.inj heq).2.2 (hn _)
        next heq => exact absurd heq (by simp)
        next heq => exact absurd heq (by simp)
        next => rfl
    · rw [hscope]
      simp [takeSlot]

theorem of_close {d : Name} {m : UpdateMask} {s : ScopeState}
    (hleave : (w.scope (.document d)).leave m = .ok s) :
    ScopeMove w (w.closeScope (.document d) m s) := by
  have hacts := closeScope_actsOn w d m s
  have helsewhere : ∀ d', d' ≠ d →
      ((w.closeScope (.document d) m s).document d').scope = (w.document d').scope :=
    fun d' hne => congrArg Document.scope (hacts.elsewhere d' hne)
  have hscope : ((w.closeScope (.document d) m s).document d).scope = s := by
    simp [closeScope, setScope]
  by_cases hgathered : (w.scope (.document d)).mask.contains m = true
  · refine .closes d m s [] ?_ (by simp) hleave hscope helsewhere
    simp only [closeScope, if_pos hgathered]
    rfl
  · refine .closes d m s [.scopeMismatch (.document d) (w.scope (.document d)).mask m] ?_
      (by simp [Moment.isScoped]) hleave hscope helsewhere
    simp only [closeScope, if_neg hgathered]
    rfl

end ScopeMove

variable {floor w w' : World}

theorem Moment.not_isScoped_of_isRemark {m : Moment} (h : m.isRemark = true) :
    m.isScoped = false := by
  unfold isScoped
  split
  · exact absurd h (by simp [isRemark])
  · exact absurd h (by simp [isRemark])
  · exact absurd h (by simp [isRemark])
  · rfl

theorem Change.scopeMove (h : Change floor w w') : ScopeMove w w' := by
  cases h with
  | remark m hm =>
      exact .quiet [m] rfl (by simpa using Moment.not_isScoped_of_isRemark hm) fun d => rfl
  | call t d o n hheld => exact .called t d o n rfl
  | accept d t n depth left hleft => exact .of_accept w d t n left
  | release d t hown =>
      exact .of_actsOn (releaseSlot_actsOn w d t) [.released d t] rfl (by simp [Moment.isScoped])
        (by simp [World.releaseSlot])
  | close d m s hs => exact .of_close hs
  | prune owner hhosts =>
      exact .quiet [] (past_updateRegistry w owner _) (by simp)
        fun d => scope_updateRegistry w d owner _
  | enterPass p hhosts hserial =>
      exact .quiet [_] (past_enterPass w p) (by simp [Moment.isScoped])
        fun d => scope_updateRegistry w d p.registry _
  | invoke p e hown hdue hlive => exact .quiet [_, _] rfl (by simp [Moment.isScoped]) fun d => rfl
  | skip p e hown hdue hgone => exact .quiet [_] rfl (by simp [Moment.isScoped]) fun d => rfl
  | miss p e hown hdue hdead => exact .quiet [_] rfl (by simp [Moment.isScoped]) fun d => rfl
  | hold o halive => exact .quiet [_] rfl (by simp [Moment.isScoped]) fun d => rfl
  | unhold o hown =>
      have hpast := past_unhold w o
      split at hpast
      · exact .quiet [_] hpast (by simp [Moment.isScoped]) (by simp)
      · exact .quiet [_, _] hpast (by simp [Moment.isScoped]) (by simp)
  | disown o hown =>
      have hpast := past_disown w o
      split at hpast
      · exact .quiet [_] hpast (by simp [Moment.isScoped]) (by simp)
      · exact .quiet [_, _] hpast (by simp [Moment.isScoped]) (by simp)
  | register owner key hhosts hown =>
      have hscope : ∀ d, ((w.register owner key).document d).scope = (w.document d).scope := by
        intro d
        unfold World.register
        simp only
        split <;> exact scope_updateRegistry w d owner _
      have hpast := past_register w owner key
      split at hpast
      · exact .quiet [] hpast (by simp) hscope
      · exact .quiet [_] hpast (by simp [Moment.isScoped]) hscope
  | unregister owner key hhosts =>
      have hscope : ∀ d, ((w.unregister owner key).document d).scope = (w.document d).scope := by
        intro d
        unfold World.unregister
        split
        · exact scope_updateRegistry w d owner _
        · rfl
      have hpast := past_unregister w owner key
      split at hpast
      · exact .quiet [_] hpast (by simp [Moment.isScoped]) hscope
      · exact .quiet [] hpast (by simp) hscope
  | createDocument name id config hnew =>
      refine .quiet [] rfl (by simp) fun d => ?_
      unfold World.document
      rw [Table.get_set]
      split
      next heq =>
        rw [heq, Table.get_of_not_contains hnew]
        rfl
      next => rfl
  | _ => exact .quiet [] rfl (by simp) fun d => rfl

theorem ScopeState.leave_eq_ok {s s' : ScopeState} {m : UpdateMask} :
    s.leave m = .ok s' ↔
      s.depth ≠ 0 ∧ s' = ⟨s.depth - 1, if s.depth = 1 then .empty else s.mask⟩ := by
  unfold leave check
  by_cases hidle : s.depth = 0
  · simp [hidle, bind, Except.bind]
  · simp [hidle, bind, Except.bind, eq_comm]

/-- The counter of the document agrees with the journal. -/
structure World.Accounted (w : World) (d : Name) : Prop where
  depth : (w.document d).scope.depth + Journal.closed d w.past = Journal.begun d w.past
  mask : (w.document d).scope.mask = Journal.gathered d (Journal.sinceIdle d w.past)

namespace World.Accounted

variable {d : Name}

theorem of_passive (h : w.Accounted d) (news : List Moment) (hpast : w'.past = news ++ w.past)
    (hnews : Journal.Passive d news) (hscope : (w'.document d).scope = (w.document d).scope) :
    w'.Accounted d where
  depth := by
    rw [hpast, hnews.closed_append, hnews.begun_append, hscope]
    exact h.depth
  mask := by
    rw [hpast, hnews.gathered_append, hscope]
    exact h.mask

/-- A scope is opened: it counts, and what it is for is gathered. -/
theorem opened (h : w.Accounted d) {t : Thread} {m : UpdateMask} {s : ScopeState}
    (hpast : w'.past = .scopeOpened (.document d) m s ::
      .admitted d t (.event (.beginUpdate m)) :: w.past)
    (hscope : (w'.document d).scope = (w.document d).scope.enter m)
    (hfew : Journal.begun d w'.past < 2 ^ 32) : w'.Accounted d := by
  have hbegun : Journal.begun d w'.past = Journal.begun d w.past + 1 := by
    rw [hpast]
    simp [Journal.begun_cons, Moment.begins?]
  have hclosed : Journal.closed d w'.past = Journal.closed d w.past := by
    rw [hpast]
    simp [Journal.closed_cons, Moment.closes]
  have hdepth := h.depth
  refine ⟨?_, ?_⟩
  · rw [hbegun, hclosed, hscope]
    simp only [ScopeState.enter, ScopeState.maxDepth, UInt32.size]
    omega
  · have hopen : Journal.begun d (.admitted d t (.event (.beginUpdate m)) :: w.past) ≠
        Journal.closed d (.admitted d t (.event (.beginUpdate m)) :: w.past) := by
      simp only [Journal.begun_cons, Journal.closed_cons, Moment.begins?, Moment.closes, if_true,
        Option.isSome_some, Bool.false_eq_true, if_false]
      omega
    rw [hpast, Journal.gathered_sinceIdle_cons rfl rfl, Journal.sinceIdle, if_neg hopen, hscope]
    simp [Journal.gathered, Moment.begins?, ScopeState.enter, h.mask]

/-- A scope is closed: what was gathered goes with the last one. -/
theorem closed (h : w.Accounted d) {m : UpdateMask} {s : ScopeState} {news : List Moment}
    (hpast : w'.past = .scopeClosed (.document d) s :: (news ++ w.past))
    (hnews : Journal.Passive d news) (hleave : (w.document d).scope.leave m = .ok s)
    (hscope : (w'.document d).scope = s) : w'.Accounted d := by
  obtain ⟨hne, rfl⟩ := ScopeState.leave_eq_ok.mp hleave
  have hbegun : Journal.begun d w'.past = Journal.begun d w.past := by
    rw [hpast, Journal.begun_cons, hnews.begun_append]
    rfl
  have hclosed : Journal.closed d w'.past = Journal.closed d w.past + 1 := by
    rw [hpast, Journal.closed_cons, hnews.closed_append]
    simp [Moment.closes]
  have hdepth := h.depth
  refine ⟨?_, ?_⟩
  · rw [hbegun, hclosed, hscope]
    simp only
    omega
  · rw [hscope]
    by_cases hlast : (w.document d).scope.depth = 1
    · rw [Journal.sinceIdle_of_balanced (by omega), if_pos hlast]
      rfl
    · have hopen : Journal.begun d w'.past ≠ Journal.closed d w'.past := by omega
      rw [hpast] at hopen
      rw [hpast, Journal.sinceIdle, if_neg hopen, if_neg hlast, h.mask,
        ← hnews.gathered_append w.past]
      rfl

end World.Accounted

/-- All documents are accounted for, as long as the counter has not come to its end. -/
def World.ScopesAccounted (w : World) : Prop :=
  ∀ d, Journal.begun d w.past < 2 ^ 32 → w.Accounted d

/-- Every handler was shown a state that the journal accounts for. -/
def Journal.CallsAccounted : List Moment → Prop
  | [] => True
  | m :: past =>
    (∀ c, m = .called c → begun c.document past < 2 ^ 32 →
      c.scope.depth + closed c.document past = begun c.document past) ∧ CallsAccounted past

theorem Journal.CallsAccounted.append {past : List Moment} (h : CallsAccounted past)
    (news : List Moment) (hnews : ∀ m ∈ news, m.isScoped = false ∨ ∀ c, m ≠ .called c) :
    CallsAccounted (news ++ past) := by
  induction news with
  | nil => exact h
  | cons m news ih =>
      obtain ⟨hm, hrest⟩ := List.forall_mem_cons.mp hnews
      refine ⟨fun c heq _ => ?_, ih hrest⟩
      subst heq
      rcases hm with hscoped | hnot
      · exact absurd hscoped (by simp [Moment.isScoped])
      · exact absurd rfl (hnot c)

theorem Journal.CallsAccounted.call {later earlier : List Moment} {c : Call}
    (h : CallsAccounted (later ++ .called c :: earlier))
    (hfew : begun c.document earlier < 2 ^ 32) :
    c.scope.depth + closed c.document earlier = begun c.document earlier := by
  induction later with
  | nil => exact h.1 c rfl hfew
  | cons m later ih => exact ih h.2

namespace ScopeMove

theorem scopesAccounted (h : ScopeMove w w') (hw : w.ScopesAccounted) : w'.ScopesAccounted := by
  intro d hfew
  -- Where the moments concern other documents or no scopes at all, the account stays as it is.
  have hpassive : ∀ news : List Moment, w'.past = news ++ w.past → Journal.Passive d news →
      (w'.document d).scope = (w.document d).scope → w'.Accounted d := by
    intro news hpast hnews hscope
    rw [hpast, hnews.begun_append] at hfew
    exact (hw d hfew).of_passive news hpast hnews hscope
  cases h with
  | quiet news hpast hnews hscope =>
      exact hpassive news hpast (.of_not_isScoped hnews) (hscope d)
  | called t d' o n h =>
      subst h
      exact hpassive [_] rfl (by simp [Journal.Passive, Moment.begins?, Moment.closes]) rfl
  | opens d' t m s hpast hscope helsewhere =>
      by_cases heq : d = d'
      · subst heq
        have hbefore : Journal.begun d w.past < 2 ^ 32 := by
          rw [hpast, Journal.begun_cons, Journal.begun_cons] at hfew
          omega
        exact (hw d hbefore).opened hpast hscope hfew
      · refine hpassive [_, _] hpast ?_ (helsewhere d heq)
        simp [Journal.Passive, Moment.begins?, Moment.closes, Ne.symm heq]
  | closes d' m s news hpast hnews hleave hscope helsewhere =>
      by_cases heq : d = d'
      · subst heq
        have hbefore : Journal.begun d w.past < 2 ^ 32 := by
          rw [hpast, Journal.begun_cons, Journal.begun_append] at hfew
          omega
        exact (hw d hbefore).closed hpast (.of_not_isScoped hnews) hleave hscope
      · refine hpassive (.scopeClosed (.document d') s :: news) hpast ?_ (helsewhere d heq)
        intro x hx
        rcases List.mem_cons.mp hx with rfl | hx
        · simp [Moment.begins?, Moment.closes, Ne.symm heq]
        · exact Journal.Passive.of_not_isScoped hnews x hx

/-- A handler that is called is shown the counter as it is. -/
theorem callsAccounted (h : ScopeMove w w') (hw : w.ScopesAccounted)
    (hcalls : Journal.CallsAccounted w.past) : Journal.CallsAccounted w'.past := by
  cases h with
  | quiet news hpast hnews hscope =>
      rw [hpast]
      exact hcalls.append news fun m hm => .inl (hnews m hm)
  | called t d o n h =>
      subst h
      refine ⟨?_, hcalls⟩
      rintro c hc hfew
      rw [Moment.called.injEq] at hc
      subst hc
      exact (hw d hfew).depth
  | opens d t m s hpast hscope helsewhere =>
      rw [hpast]
      exact hcalls.append [_, _] (by simp)
  | closes d m s news hpast hnews hleave hscope helsewhere =>
      rw [hpast, ← List.cons_append]
      refine hcalls.append _ ?_
      intro x hx
      rcases List.mem_cons.mp hx with rfl | hx
      · exact .inr fun c => by simp
      · exact .inl (hnews x hx)

end ScopeMove

/-- However a run goes on, the account of scopes goes on with it. -/
theorem Evolves.accounted (h : Evolves floor w w') (hw : w.ScopesAccounted)
    (hcalls : Journal.CallsAccounted w.past) :
    w'.ScopesAccounted ∧ Journal.CallsAccounted w'.past := by
  induction h with
  | refl => exact ⟨hw, hcalls⟩
  | tail _ hstep ih =>
      exact ⟨hstep.scopeMove.scopesAccounted ih.1, hstep.scopeMove.callsAccounted ih.1 ih.2⟩

theorem World.Leads.accounted (h : World.empty.Leads w) :
    w.ScopesAccounted ∧ Journal.CallsAccounted w.past :=
  Evolves.accounted h (fun _ _ => ⟨rfl, rfl⟩) trivial

/-! ## Calls that close a scope -/

namespace Notify

variable {handle : Handlers} {t : Thread} {d : Name} {m : UpdateMask}

/-- The last thing that an unwound pass does is to leave. -/
theorem announce_unwound {n : Notice} {depth : Nat} {x : Unwind}
    (h : announce handle t d n depth w = (.error x, w')) :
    ∃ p past, w'.past = .passLeft p :: past := by
  simp only [announce, Run.bind_apply, Run.read_apply] at h
  rw [Pass.start_apply _ rfl] at h
  cases hwalk : Pass.walk _ (deliver handle t d n) (Pass.snapshotOf w (.document d)) _ with
  | mk result u =>
      rw [hwalk] at h
      cases result with
      | ok told => simp [Pass.leave] at h
      | error x =>
          simp only [Pass.leave, Prod.mk.injEq] at h
          exact ⟨_, u.past, by rw [← h.2]; rfl⟩

theorem violation_past {α : Type} (w : World) (d : Name) (m : UpdateMask) :
    (∀ told, (violation d m w : Except Unwind (Except NotifyError α) × World).1 ≠ .ok (.ok told)) ∧
    (violation d m w : Except Unwind (Except NotifyError α) × World).2.past =
      .unbalanced d (w.document d).id m :: w.past := by
  simp only [violation, Run.note, Run.bind_apply, Run.read_apply, Run.change_apply]
  cases (w.document d).violation with
  | panic => exact ⟨fun told h => by simp [Run.panic, Run.unwind] at h, rfl⟩
  | clamp => exact ⟨fun told h => by simp at h, rfl⟩

/-- A call to close a scope either lets its pass run and then closes the scope, or returns with no
state and has not closed any. -/
theorem closeScope_cases (handle : Handlers) (t : Thread) (d : Name) (m : UpdateMask) (w : World) :
    (∃ s r, ∃ u : World, (u.scope (.document d)).leave m = .ok s ∧ closeScope handle t d m w =
      (.ok (.ok (s, r)), (u.closeScope (.document d) m s).releaseSlot d t)) ∨
    ((∀ told, (closeScope handle t d m w).1 ≠ .ok (.ok told)) ∧
      ∀ s past, (closeScope handle t d m w).2.past ≠
        .released d t :: .scopeClosed (.document d) s :: past) := by
  cases hslot : (w.document d).dispatcher.enter? t with
  | none =>
      right
      rw [closeScope, withSlot_full hslot]
      simp
  | some slot =>
      obtain ⟨depth, left⟩ := slot
      rw [closeScope, withSlot_taken hslot]
      set v := w.takeSlot d t (.event (.endUpdate m)) left
      simp only [Run.bind_apply, Run.read_apply]
      have hviolation : ∀ u : World,
          (∀ told, (violation d m u : Except Unwind (Except NotifyError (ScopeState × Report)) ×
            World).1 ≠ .ok (.ok told)) ∧
          ∀ s past, ((violation d m u : Except Unwind (Except NotifyError (ScopeState × Report)) ×
            World).2.releaseSlot d t).past ≠
              .released d t :: .scopeClosed (.document d) s :: past := by
        intro u
        obtain ⟨hresult, hpast⟩ := violation_past (α := ScopeState × Report) u d m
        refine ⟨hresult, ?_⟩
        simp [releaseSlot, hpast]
      cases (v.scope (.document d)).check m with
      | error e => exact .inr (hviolation v)
      | ok _ =>
          simp only [Run.bind_apply]
          cases hpass : announce handle t d (.event (.endUpdate m)) depth v with
          | mk result u =>
              cases result with
              | error x =>
                  obtain ⟨p, past, hpast⟩ := announce_unwound hpass
                  simp [releaseSlot, hpast]
              | ok told =>
                  simp only [Run.read_apply]
                  cases hleave : (u.scope (.document d)).leave m with
                  | error e => exact .inr (hviolation u)
                  | ok s => exact .inl ⟨s, told.1, u, hleave, rfl⟩

/-- The call returns with a state exactly if it comes to its closing step, right before it gives its
slot back. -/
theorem closeScope_ok_iff (w : World) :
    (∃ told, (closeScope handle t d m w).1 = .ok (.ok told)) ↔
      ∃ s past, (closeScope handle t d m w).2.past =
        .released d t :: .scopeClosed (.document d) s :: past := by
  rcases closeScope_cases handle t d m w with ⟨s, r, u, -, hrun⟩ | ⟨hresult, hpast⟩
  · rw [hrun]
    exact ⟨fun _ => ⟨s, _, rfl⟩, fun _ => ⟨_, rfl⟩⟩
  · constructor
    · rintro ⟨told, hok⟩
      exact absurd hok (hresult told)
    · rintro ⟨s, past, hclosed⟩
      exact absurd hclosed (hpast s past)

/-- The state that the call returns with is the state of the document when it returns. -/
theorem scope_of_closeScope {s : ScopeState} {r : Report}
    (hrun : closeScope handle t d m w = (.ok (.ok (s, r)), w')) : (w'.document d).scope = s := by
  rcases closeScope_cases handle t d m w with ⟨s', r', u, -, hclose⟩ | ⟨hresult, -⟩
  · rw [hrun] at hclose
    simp only [Prod.mk.injEq, Except.ok.injEq] at hclose
    obtain ⟨⟨rfl, -⟩, rfl⟩ := hclose
    simp [releaseSlot, World.closeScope, setScope]
  · exact absurd (by rw [hrun]) (hresult (s, r))

end Notify

/-- Wherever a client can look, the open scopes of a document are those that were begun and not
closed, and the counter has gathered what was begun since there was none. A scope is begun by a call
that gets its slot, whatever becomes of the call afterwards. It is closed by a call that returns
with a state, and by no other: such a call writes its closing down before it gives its slot back. -/
theorem Reached.scope_account (hw : Reached w) (d : Name)
    (hfew : Journal.begun d w.past < 2 ^ 32) :
    (w.document d).scope.depth + Journal.closed d w.past = Journal.begun d w.past ∧
    ((w.document d).scope.depth = 0 → (w.document d).scope.mask = .empty) ∧
    (w.document d).scope.mask = Journal.gathered d (Journal.sinceIdle d w.past) ∧
    ∀ handle t m, (∃ told, (Notify.closeScope handle t d m w).1 = .ok (.ok told)) ↔
      ∃ s past, (Notify.closeScope handle t d m w).2.past =
        .released d t :: .scopeClosed (.document d) s :: past := by
  obtain ⟨hdepth, hmask⟩ := hw.leads.accounted.1 d hfew
  refine ⟨hdepth, ?_, hmask, fun handle t m => Notify.closeScope_ok_iff w⟩
  intro hidle
  rw [hmask, Journal.sinceIdle_of_balanced (by omega)]
  rfl

/-- The handler opens a scope inside the first one, closes it, opens a third and panics. -/
def scopesUnwound : World :=
  (Session.runFrom 3 none .empty
    [.perform none (.createDocument "d" {}),
      .createRecorder none "a" false .proceed
        [⟨.beginUpdate, none, some 1,
          [.perform none (.beginUpdate none .style), .perform none (.endUpdate none .style),
            .perform none (.beginUpdate none .style), .perform none (.panic "over")], 0⟩],
      .perform none (.register (.document none) "a"),
      .perform none (.beginUpdate none .contentModel)]).2

/-- Two scopes stay open although the call that began the first was unwound. -/
theorem scope_account_unwound :
    Journal.begun "d" scopesUnwound.past = 3 ∧ Journal.closed "d" scopesUnwound.past = 1 ∧
    (scopesUnwound.document "d").scope.depth + 1 = 3 ∧
    (scopesUnwound.document "d").scope.mask = .all := by
  have hreached : Reached scopesUnwound := Session.runFrom_reached 3 none _ .start
  have hbegun : Journal.begun "d" scopesUnwound.past = 3 := by decide +kernel
  have hclosed : Journal.closed "d" scopesUnwound.past = 1 := by decide +kernel
  have haccount := hreached.scope_account "d" (by rw [hbegun]; decide)
  have hgathered : Journal.gathered "d" (Journal.sinceIdle "d" scopesUnwound.past) = .all := by
    decide +kernel
  rw [hbegun, hclosed, hgathered] at haccount
  exact ⟨hbegun, hclosed, haccount.1, haccount.2.2.1⟩

end ChangeNotice
