import ChangeNotice.Proofs.EventRoutes

/-! # The account of loads

A document is loading if the last load event that took a slot of it began a load, it is
loaded if that event ended one, and idle before there was any. Nothing else counts: not
when the calls end, not how they end, not whether they were called for. An event that
comes out of turn is remarked upon where it takes its slot, and is passed on all the same.
-/

namespace ChangeNotice

open World

/-! ## Loads in the journal -/

/-- The state that a load event leads to. -/
def Event.loadState? : Event → Option LoadState
  | beginLoad => some .loading
  | endLoad => some .loaded
  | _ => none

/-- What is remarked on an event that finds the document in the first state and leads to the
second. -/
def LoadState.remarks (d : Name) (id : DocumentId) (found : LoadState) : LoadState → List Moment
  | idle => []
  | loading => if found = loading then [.loadRestarted d id] else []
  | loaded => if found = loading then [] else [.loadNotStarted d id found]

namespace Moment

/-- The state that the document comes to by a load event that takes its slot. -/
def loads? (d : Name) : Moment → Option LoadState
  | admitted d' _ (.event e) => if d' = d then e.loadState? else none
  | _ => none

/-- A load event of the document takes its slot, or one is remarked upon. -/
def concernsLoad (d : Name) : Moment → Bool
  | admitted d' _ (.event e) => d' = d && e.loadState?.isSome
  | loadRestarted d' _ | loadNotStarted d' _ _ => d' = d
  | _ => false

variable {d : Name} {m : Moment}

theorem concernsLoad_admitted (d d₁ : Name) (t : Thread) (n : Notice) :
    (admitted d₁ t n).concernsLoad d = ((admitted d₁ t n).loads? d).isSome := by
  cases n with
  | event e => by_cases h : d₁ = d <;> simp [concernsLoad, loads?, h]
  | script content parser => rfl

theorem loads?_of_not_concernsLoad (h : m.concernsLoad d = false) : m.loads? d = none := by
  cases m with
  | admitted d₁ t n =>
      rw [concernsLoad_admitted] at h
      simpa using h
  | _ => rfl

theorem loads?_of_other {d₁ : Name} {t : Thread} {e : Event} (h : d₁ = d → e.loadState? = none) :
    (admitted d₁ t (.event e)).loads? d = none := by
  by_cases heq : d₁ = d
  · simp [loads?, heq, h heq]
  · simp [loads?, heq]

/-- A load event that does not concern the document is one of another document. -/
theorem ne_of_loads? {d₁ : Name} {t : Thread} {e : Event} {l : LoadState}
    (hl : e.loadState? = some l) (h : (admitted d₁ t (.event e)).loads? d = none) : d₁ ≠ d := by
  rintro rfl
  simp [loads?, hl] at h

theorem concernsLoad_of_isRemark (h : m.isRemark = true) : m.concernsLoad d = false := by
  cases m with
  | admitted d₁ t n => cases h
  | loadRestarted d₁ id => cases h
  | loadNotStarted d₁ id found => cases h
  | _ => rfl

theorem concernsLoad_of_mem_remarks {id : DocumentId} {found l : LoadState}
    (h : m ∈ found.remarks d id l) : m.concernsLoad d = true ∧ m.loads? d = none := by
  cases l with
  | idle => exact absurd h (by simp [LoadState.remarks])
  | loading =>
      by_cases hfound : found = .loading
      · rw [LoadState.remarks, if_pos hfound, List.mem_singleton] at h
        simp [h, concernsLoad, loads?]
      · exact absurd h (by simp [LoadState.remarks, hfound])
  | loaded =>
      by_cases hfound : found = .loading
      · exact absurd h (by simp [LoadState.remarks, hfound])
      · rw [LoadState.remarks, if_neg hfound, List.mem_singleton] at h
        simp [h, concernsLoad, loads?]

end Moment

namespace Journal

/-- The state of the document by the last load event that took a slot of it. -/
def load (d : Name) (past : List Moment) : LoadState := (past.findSome? (·.loads? d)).getD .idle

/-- All load events that took a slot of the document, each with the remark that it calls for. -/
def loadLog (d : Name) (id : DocumentId) : List Moment → List Moment
  | [] => []
  | m :: past =>
    match m.loads? d with
    | some l => (load d past).remarks d id l ++ m :: loadLog d id past
    | none => loadLog d id past

variable {d : Name} {m : Moment} {news : List Moment}

theorem load_append (h : ∀ m ∈ news, m.loads? d = none) (past : List Moment) :
    load d (news ++ past) = load d past := by
  rw [load, List.findSome?_append, List.findSome?_eq_none_iff.mpr h]
  rfl

theorem filter_eq_nil_of_unconcerned (h : ∀ m ∈ news, m.concernsLoad d = false) :
    news.filter (·.concernsLoad d) = [] := by
  apply List.filter_eq_nil_iff.mpr
  intro m hm
  rw [h m hm]
  exact Bool.false_ne_true

theorem load_cons {l : LoadState} (h : m.loads? d = some l) (past : List Moment) :
    load d (m :: past) = l := by
  rw [load, List.findSome?_cons_of_isSome (by rw [h]; rfl), h]
  rfl

theorem loadLog_append (id : DocumentId) (h : ∀ m ∈ news, m.loads? d = none)
    (past : List Moment) : loadLog d id (news ++ past) = loadLog d id past := by
  induction news with
  | nil => rfl
  | cons m news ih =>
      obtain ⟨hm, hnews⟩ := List.forall_mem_cons.mp h
      rw [List.cons_append, loadLog, hm]
      exact ih hnews

theorem loadLog_cons (id : DocumentId) {l : LoadState} (h : m.loads? d = some l)
    (past : List Moment) :
    loadLog d id (m :: past) = (load d past).remarks d id l ++ m :: loadLog d id past := by
  rw [loadLog, h]

end Journal

/-! ## What one change can do to a load -/

namespace World

variable {w w' : World} {d : Name}

/-- The journal has grown, but by nothing that concerns the load of the document. -/
abbrev LeavesLoad (d : Name) (w w' : World) : Prop := w.Adds (fun m => m.concernsLoad d = false) w'

theorem unhold_leavesLoad (w : World) (o d : Name) : LeavesLoad d w (w.unhold o) := by
  have hpast := past_unhold w o
  split at hpast
  · exact .cons hpast rfl
  · exact ⟨[_, _], hpast, by simp [Moment.concernsLoad]⟩

theorem disown_leavesLoad (w : World) (o d : Name) : LeavesLoad d w (w.disown o) := by
  have hpast := past_disown w o
  split at hpast
  · exact .cons hpast rfl
  · exact ⟨[_, _], hpast, by simp [Moment.concernsLoad]⟩

theorem register_leavesLoad (w : World) (owner : Owner) (key d : Name) :
    LeavesLoad d w (w.register owner key) := by
  have hpast := past_register w owner key
  split at hpast
  · exact .of_past hpast
  · exact .cons hpast rfl

theorem unregister_leavesLoad (w : World) (owner : Owner) (key d : Name) :
    LeavesLoad d w (w.unregister owner key) := by
  have hpast := past_unregister w owner key
  split at hpast
  · exact .cons hpast rfl
  · exact .of_past hpast

theorem closeScope_leavesLoad (w : World) (owner : Owner) (m : UpdateMask) (s : ScopeState)
    (d : Name) : LeavesLoad d w (w.closeScope owner m s) := by
  have hset : ∀ v : World, (v.setScope owner s).past = v.past := by
    intro v
    cases owner <;> rfl
  unfold closeScope
  dsimp only
  split
  · exact .cons (congrArg _ (hset _)) rfl
  · exact ⟨[_, _], congrArg _ (hset _), by simp [Moment.concernsLoad]⟩

theorem leaveGuard_leavesLoad (w : World) (guard : Nat) (d : Name) :
    LeavesLoad d w (w.leaveGuard guard) := by
  unfold leaveGuard releaseIfFree
  dsimp only
  split <;> exact .of_past rfl

theorem load_updateRegistry (w : World) (d : Name) (owner : Owner)
    (change : Registry → Registry) :
    ((w.updateRegistry owner change).document d).load = (w.document d).load := by
  cases owner with
  | document d' => by_cases h : d = d' <;> simp [updateRegistry, h]
  | standalone number => rfl

/-- A load event is remarked upon if it is out of turn, and sets the state. -/
theorem prepare_load (w : World) (d : Name) {e : Event} {l : LoadState}
    (h : e.loadState? = some l) :
    (w.prepare d (.event e)).past =
      (w.document d).load.remarks d (w.document d).id l ++ w.past ∧
    ((w.prepare d (.event e)).document d).load = l := by
  cases e with
  | beginLoad =>
      obtain rfl : .loading = l := Option.some.inj h
      by_cases hload : (w.document d).load = .loading <;>
        simp [prepare, setLoad, LoadState.remarks, hload]
  | endLoad =>
      obtain rfl : .loaded = l := Option.some.inj h
      by_cases hload : (w.document d).load = .loading <;>
        simp [prepare, setLoad, LoadState.remarks, hload]
  | _ => cases h

theorem load_takeSlot (w : World) (d d₁ : Name) (t : Thread) (n : Notice) (left : Dispatcher) :
    ((w.takeSlot d₁ t n left).document d).load = (w.document d).load := by
  by_cases heq : d = d₁ <;> simp [takeSlot, heq]

/-- A load event takes its slot, is remarked upon if it is out of turn, and sets the state. -/
theorem accept_load (w : World) (d : Name) (t : Thread) {e : Event} {l : LoadState}
    (h : e.loadState? = some l) :
    let left := (w.document d).dispatcher.take t
    ((w.takeSlot d t (.event e) left).prepare d (.event e)).past =
      (w.document d).load.remarks d (w.document d).id l ++ .admitted d t (.event e) :: w.past ∧
    (((w.takeSlot d t (.event e) left).prepare d (.event e)).document d).load = l := by
  intro left
  have hid : ((w.takeSlot d t (.event e) left).document d).id = (w.document d).id := by
    simp [takeSlot, Document.id, left, Dispatcher.take]
  obtain ⟨hpast, hset⟩ := prepare_load (w.takeSlot d t (.event e) left) d h
  rw [load_takeSlot, hid] at hpast
  exact ⟨hpast, hset⟩

/-- What a load event sets and remarks does not concern the load of another document. -/
theorem setLoad_other (w : World) {d d₁ : Name} {m : Moment} {l : LoadState} {p : Prop}
    [Decidable p] (hne : d₁ ≠ d) (hm : m.concernsLoad d = false) :
    LeavesLoad d w ((if p then w.record m else w).setLoad d₁ l) ∧
      (((if p then w.record m else w).setLoad d₁ l).document d).load = (w.document d).load := by
  split
  · exact ⟨.cons rfl hm, by simp [setLoad, hne.symm]⟩
  · exact ⟨.of_past rfl, by simp [setLoad, hne.symm]⟩

/-- What other notifications prepare does not concern the load. -/
theorem prepare_other (w : World) {d d₁ : Name} {t : Thread} {n : Notice}
    (h : (Moment.admitted d₁ t n).loads? d = none) :
    LeavesLoad d w (w.prepare d₁ n) ∧
      ((w.prepare d₁ n).document d).load = (w.document d).load := by
  unfold prepare
  split
  · refine ⟨.cons rfl rfl, ?_⟩
    by_cases heq : d = d₁ <;> simp [openScope, setScope, heq]
  · have hne : d₁ ≠ d := Moment.ne_of_loads? rfl h
    exact setLoad_other w hne (by simp [Moment.concernsLoad, hne])
  · have hne : d₁ ≠ d := Moment.ne_of_loads? rfl h
    exact setLoad_other w hne (by simp [Moment.concernsLoad, hne])
  · exact ⟨.of_past rfl, rfl⟩

/-- A document that is not there has no slots. -/
theorem contains_of_room {t : Thread} (h : (w.document d).dispatcher.isFull t = false) :
    w.documents.contains d = true := by
  by_contra hunknown
  rw [Bool.not_eq_true] at hunknown
  rw [document, Table.get_of_not_contains hunknown] at h
  cases h

end World

/-- A change, as far as the load of a document is concerned. -/
inductive LoadMove (d : Name) (w w' : World) : Prop
  | quiet (hleaves : LeavesLoad d w w')
      (hload : (w'.document d).load = (w.document d).load)
  | enters (t : Thread) (e : Event) (l : LoadState) (hl : e.loadState? = some l)
      (hknown : w.documents.contains d = true)
      (hpast : w'.past = (w.document d).load.remarks d (w.document d).id l ++
        .admitted d t (.event e) :: w.past)
      (hload : (w'.document d).load = l)

variable {floor w w' : World} {d : Name}

namespace LoadMove

theorem of_actsOn {d₁ : Name} (h : ActsOn d₁ w w')
    (hleaves : LeavesLoad d w w')
    (hload : (w'.document d₁).load = (w.document d₁).load) : LoadMove d w w' := by
  refine .quiet hleaves ?_
  by_cases heq : d = d₁
  · rw [heq, hload]
  · rw [h.elsewhere d heq]

theorem of_accept {d₁ : Name} {t : Thread} {n : Notice} {depth : Nat} {left : Dispatcher}
    (hleft : (w.document d₁).dispatcher.enter? t = some (depth, left)) :
    LoadMove d w ((w.takeSlot d₁ t n left).prepare d₁ n) := by
  obtain ⟨hroom, rfl⟩ := Dispatcher.of_enter? hleft
  cases hloads : (Moment.admitted d₁ t n).loads? d with
  | none =>
      obtain ⟨hleaves, hkept⟩ := prepare_other (w.takeSlot d₁ t n _) hloads
      refine .quiet (World.Adds.trans (.cons rfl ?_) hleaves) (hkept.trans (load_takeSlot ..))
      rw [Moment.concernsLoad_admitted, hloads]
      rfl
  | some l =>
      cases n with
      | script content parser => exact nomatch hloads
      | event e =>
          obtain rfl : d₁ = d := by
            by_contra hne
            simp [Moment.loads?, hne] at hloads
          have hl : e.loadState? = some l := by simpa [Moment.loads?] using hloads
          obtain ⟨hpast, hset⟩ := accept_load w d₁ t hl
          exact .enters t e l hl (contains_of_room hroom) hpast hset

end LoadMove

theorem Change.loadMove (h : Change floor w w') (d : Name) : LoadMove d w w' := by
  cases h with
  | remark m hm => exact .quiet (.cons rfl (Moment.concernsLoad_of_isRemark hm)) rfl
  | call t d₁ o n hheld => exact .quiet (.cons rfl rfl) rfl
  | accept d₁ t n depth left hleft => exact .of_accept hleft
  | release d₁ t hown =>
      exact .of_actsOn (releaseSlot_actsOn w d₁ t) (.cons rfl rfl) (by simp [World.releaseSlot])
  | close d₁ m s hs =>
      refine .of_actsOn (closeScope_actsOn w d₁ m s) (closeScope_leavesLoad w _ m s d) ?_
      simp only [World.closeScope, setScope, document_record, document_updateDocument, if_pos]
      split <;> rfl
  | prune owner hhosts =>
      exact .quiet (.of_past (past_updateRegistry w owner _)) (load_updateRegistry w d owner _)
  | enterPass p hhosts hserial =>
      exact .quiet (.cons (past_enterPass w p) rfl) (load_updateRegistry w d p.registry _)
  | invoke p e hown hdue hlive =>
      exact .quiet (World.Adds.trans (.cons (m := .held e.key) rfl rfl) (.cons rfl rfl)) rfl
  | skip p e hown hdue hgone => exact .quiet (.cons rfl rfl) rfl
  | miss p e hown hdue hdead => exact .quiet (.cons rfl rfl) rfl
  | hold o halive => exact .quiet (.cons rfl rfl) rfl
  | unhold o hown => exact .quiet (unhold_leavesLoad w o d) (by rw [document_unhold])
  | disown o hown => exact .quiet (disown_leavesLoad w o d) (by rw [document_disown])
  | register owner key hhosts hown =>
      refine .quiet (register_leavesLoad w owner key d) ?_
      unfold World.register
      simp only
      split <;> exact load_updateRegistry w d owner _
  | unregister owner key hhosts =>
      refine .quiet (unregister_leavesLoad w owner key d) ?_
      unfold World.unregister
      split
      · exact load_updateRegistry w d owner _
      · rfl
  | createDocument name id config hnew =>
      refine .quiet (.of_past rfl) ?_
      unfold World.document
      rw [Table.get_set]
      split
      next heq =>
        rw [heq, Table.get_of_not_contains hnew]
        rfl
      next => rfl
  | _ => exact .quiet (.of_past rfl) rfl

/-! ## The account -/

/-- The journal tells the load of the document: its state, which events took their slots, and which
of them were out of turn. -/
structure World.LoadAccounted (w : World) (d : Name) : Prop where
  state : (w.document d).load = Journal.load d w.past
  log : w.past.filter (·.concernsLoad d) = Journal.loadLog d (w.document d).id w.past
  unknown : w.documents.contains d = false → ∀ m ∈ w.past, m.concernsLoad d = false

theorem Journal.filter_eq_loadLog_of_unconcerned {past : List Moment}
    (h : ∀ m ∈ past, m.concernsLoad d = false) (id : DocumentId) :
    past.filter (·.concernsLoad d) = loadLog d id past := by
  have hnone := loadLog_append id (fun m hm => Moment.loads?_of_not_concernsLoad (h m hm)) []
  rw [List.append_nil] at hnone
  rw [hnone, filter_eq_nil_of_unconcerned h]
  rfl

theorem LoadMove.loadAccounted (h : LoadMove d w w') (hw : w.LoadAccounted d)
    (hknown : w.documents.contains d = true →
      w'.documents.contains d = true ∧ (w'.document d).id = (w.document d).id) :
    w'.LoadAccounted d := by
  cases h with
  | quiet hleaves hload =>
      obtain ⟨news, hpast, hnews⟩ := hleaves
      have hloads : ∀ m ∈ news, m.loads? d = none :=
        fun m hm => Moment.loads?_of_not_concernsLoad (hnews m hm)
      refine ⟨?_, ?_, fun hunknown => ?_⟩
      · rw [hload, hpast, Journal.load_append hloads, hw.state]
      · rw [hpast, List.filter_append, Journal.filter_eq_nil_of_unconcerned hnews,
          List.nil_append, Journal.loadLog_append _ hloads]
        -- Where the document is made its number is new, but nothing has been told of it before.
        cases hthere : w.documents.contains d with
        | true => rw [(hknown hthere).2, hw.log]
        | false => exact Journal.filter_eq_loadLog_of_unconcerned (hw.unknown hthere) _
      · rw [hpast]
        have hbefore : w.documents.contains d = false := by
          by_contra hthere
          rw [Bool.not_eq_false] at hthere
          rw [(hknown hthere).1] at hunknown
          exact nomatch hunknown
        intro m hm
        rcases List.mem_append.mp hm with hm | hm
        · exact hnews m hm
        · exact hw.unknown hbefore m hm
  | enters t e l hl hthere hpast hload =>
      obtain ⟨hthere', hid⟩ := hknown hthere
      have hloads : (Moment.admitted d t (.event e)).loads? d = some l := by
        simp [Moment.loads?, hl]
      have hconcerns : (Moment.admitted d t (.event e)).concernsLoad d = true := by
        rw [Moment.concernsLoad_admitted, hloads]
        rfl
      have hremarks := fun m (hm : m ∈ (w.document d).load.remarks d (w.document d).id l) =>
        Moment.concernsLoad_of_mem_remarks hm
      refine ⟨?_, ?_, fun hunknown => ?_⟩
      · rw [hload, hpast, Journal.load_append fun m hm => (hremarks m hm).2,
          Journal.load_cons hloads]
      · rw [hpast, hid, List.filter_append, List.filter_eq_self.mpr fun m hm => (hremarks m hm).1,
          List.filter_cons_of_pos hconcerns, hw.log,
          Journal.loadLog_append _ fun m hm => (hremarks m hm).2, Journal.loadLog_cons _ hloads,
          hw.state]
      · rw [hthere'] at hunknown
        exact nomatch hunknown

theorem Evolves.loadAccounted (h : Evolves floor w w') (hw : w.LoadAccounted d) :
    w'.LoadAccounted d := by
  induction h with
  | refl => exact hw
  | @tail v v' _ hstep ih =>
      refine (hstep.loadMove d).loadAccounted ih fun hthere => ?_
      have hone : Evolves floor v v' := .single hstep
      have hhosts : v.Hosts (.document d) := hthere
      exact ⟨Evolves.hosts hone hhosts, Evolves.id_eq hone hthere⟩

theorem Reached.loadAccounted (h : Reached w) (d : Name) : w.LoadAccounted d :=
  Evolves.loadAccounted h.leads ⟨rfl, rfl, by simp [World.empty]⟩

end ChangeNotice
