import ChangeNotice.Proofs.Change

/-! # What changes do to the entries of a snapshot

What passes, registrations and deaths look like among the changes of the world.
Most changes concern none of them; the others are told apart here. While a run
goes on inside a pass, the pass itself stands still: its slots have their turns
only when the run returns, and what a slot may rely on is kept until then.
-/

namespace ChangeNotice

namespace Moment

/-- The moment says nothing of passes, registrations and deaths. -/
def isPlain : Moment → Bool
  | passEntered .. | invoking .. | skipping .. | missing .. | registered .. | unregistered ..
  | freed _ => false
  | _ => true

variable {m : Moment}

theorem isPlain_of_isRemark (h : m.isRemark = true) : m.isPlain = true := by
  cases m <;> first | rfl | exact absurd h (by simp [isRemark])

theorem silentOn_of_isPlain (h : m.isPlain = true) (serial : Nat) : m.SilentOn serial := by
  cases m <;> first | exact ⟨rfl, rfl⟩ | exact absurd h (by simp [isPlain])

theorem relist_of_isPlain (h : m.isPlain = true) (owner : Owner) (keys : List Name) :
    m.relist owner keys = keys := by
  cases m <;> first | rfl | exact absurd h (by simp [isPlain])

end Moment

namespace World

/-- The change concerns no pass, no registration of an existing registry, and nobody's life but that
of observers that are new. -/
structure Neutral (w w' : World) : Prop where
  past : ∃ news : List Moment, w'.past = news ++ w.past ∧ ∀ m ∈ news, m.isPlain = true
  registry : ∀ owner, w'.registry owner = w.registry owner ∨
    (¬ w.Hosts owner ∧ w'.registry owner = .empty)
  hosts : ∀ owner, w.Hosts owner → w'.Hosts owner
  known : ∀ o, w.observers.contains o = true → w'.observers.contains o = true
  alive : ∀ o, w.observers.contains o = true → w'.isAlive o = w.isAlive o
  born : ∀ o, w.observers.contains o = false → w'.observers.contains o = true →
    w'.isAlive o = true
  passes : w'.passes = w.passes

/-- An observer dies: nobody keeps it any more. -/
structure Frees (w : World) (o : Name) (w' : World) : Prop where
  past : ∃ m : Moment, m.isPlain = true ∧ w'.past = .freed o :: m :: w.past
  registry : ∀ owner, w'.registry owner = w.registry owner
  hosts : ∀ owner, w.Hosts owner → w'.Hosts owner
  known : ∀ x, w.observers.contains x = true → w'.observers.contains x = true
  before : w.isAlive o = true
  after : w'.isAlive o = false
  others : ∀ x, x ≠ o → w'.isAlive x = w.isAlive x
  strangers : ∀ x, w.observers.contains x = false → w'.observers.contains x = false
  passes : w'.passes = w.passes

variable {w w' : World}

/-- Where nobody new turns up, nobody is born. -/
theorem born_of_strangers
    (h : ∀ x, w.observers.contains x = false → w'.observers.contains x = false) (o : Name)
    (hnew : w.observers.contains o = false) (hmade : w'.observers.contains o = true) :
    w'.isAlive o = true := by
  rw [h o hnew] at hmade
  exact absurd hmade (by decide)

theorem hosts_of_same (hdocuments : ∀ d, w.documents.contains d = true →
    w'.documents.contains d = true) (hmade : w.registries.made ≤ w'.registries.made)
    (owner : Owner) (h : w.Hosts owner) : w'.Hosts owner := by
  cases owner with
  | document d => exact hdocuments d h
  | standalone number => exact Nat.lt_of_lt_of_le h hmade

/-- Writing a plain moment down is a plain change. -/
theorem record_neutral (w : World) {m : Moment} (hm : m.isPlain = true) :
    w.Neutral (w.record m) where
  past := ⟨[m], rfl, by simpa using hm⟩
  registry owner := .inl (registry_record w m owner)
  hosts owner h := by cases owner <;> exact h
  known o h := h
  alive o _ := rfl
  born := born_of_strangers fun _ h => h
  passes := rfl

theorem ActsOn.neutral {d : Name} (h : ActsOn d w w')
    (hpast : ∃ news : List Moment, w'.past = news ++ w.past ∧ ∀ m ∈ news, m.isPlain = true) :
    w.Neutral w' where
  past := hpast
  registry owner := .inl (h.registry_eq owner)
  hosts := hosts_of_same h.contains (by rw [h.registries])
  known o ho := by rwa [h.observers]
  alive o _ := by rw [h.isAlive]
  born := born_of_strangers fun o ho => by rwa [h.observers]
  passes := h.passes

theorem past_accept (w : World) (d : Name) (t : Thread) (n : Notice) (left : Dispatcher) :
    ∃ news : List Moment, ((w.takeSlot d t n left).prepare d n).past = news ++ w.past ∧
      ∀ m ∈ news, m.isPlain = true := by
  have hone : (w.takeSlot d t n left).past = [.admitted d t n] ++ w.past := rfl
  unfold prepare
  split
  · exact ⟨[.scopeOpened _ _ _, .admitted d t _], rfl, by simp [Moment.isPlain]⟩
  · split
    · exact ⟨[.loadRestarted _ _, .admitted d t _], rfl, by simp [Moment.isPlain]⟩
    · exact ⟨[.admitted d t _], rfl, by simp [Moment.isPlain]⟩
  · split
    · exact ⟨[.loadNotStarted _ _ _, .admitted d t _], rfl, by simp [Moment.isPlain]⟩
    · exact ⟨[.admitted d t _], rfl, by simp [Moment.isPlain]⟩
  · exact ⟨_, hone, by simp [Moment.isPlain]⟩

theorem past_closeScope (w : World) (d : Name) (m : UpdateMask) (s : ScopeState) :
    ∃ news : List Moment, (w.closeScope (.document d) m s).past = news ++ w.past ∧
      ∀ m ∈ news, m.isPlain = true := by
  simp only [closeScope, setScope, past_record, past_updateDocument]
  split
  · exact ⟨[.scopeClosed _ _], rfl, by simp [Moment.isPlain]⟩
  · exact ⟨[.scopeClosed _ _, .scopeMismatch _ _ _], rfl, by simp [Moment.isPlain]⟩

end World

open World

/-- A change, as far as passes, registrations and lives are concerned. -/
inductive Move (floor : World) : World → World → Prop
  | plain {w w' : World} (h : w.Neutral w') : Move floor w w'
  | free {w w' : World} (o : Name) (h : w.Frees o w') : Move floor w w'
  | prune {w : World} (owner : Owner) (hhosts : w.Hosts owner) : Move floor w (w.prune owner)
  | enterPass {w : World} (p : PassInfo) (hhosts : w.Hosts p.registry)
      (hserial : p.serial = w.passes) : Move floor w (w.enterPass p)
  | invoke {w : World} (p : PassInfo) (e : Entry) (hown : floor.passes ≤ p.serial)
      (hdue : w.Due p e) (hlive : w.resolve p.registry p.removal e = .live) :
      Move floor w ((w.hold e.key).record (.invoking p e.key))
  | skip {w : World} (p : PassInfo) (e : Entry) (hown : floor.passes ≤ p.serial)
      (hdue : w.Due p e) (hgone : w.resolve p.registry p.removal e = .unregistered) :
      Move floor w (w.record (.skipping p e.key))
  | miss {w : World} (p : PassInfo) (e : Entry) (hown : floor.passes ≤ p.serial)
      (hdue : w.Due p e) (hdead : w.resolve p.registry p.removal e = .dropped) :
      Move floor w (w.record (.missing p e.key))
  | register {w : World} (owner : Owner) (key : Name) (hhosts : w.Hosts owner)
      (hown : w.isOwned key = true) : Move floor w (w.register owner key)
  | unregister {w : World} (owner : Owner) (key : Name) (hhosts : w.Hosts owner) :
      Move floor w (w.unregister owner key)

namespace World

variable {w w' : World}

/-- Whoever lets go of an observer either kills it or leaves everyone as alive as before. -/
theorem neutral_or_frees {o : Name} {m : Moment} (hm : m.isPlain = true)
    (hbefore : w.isAlive o = true)
    (hpast : w'.past = if w'.isAlive o then m :: w.past else .freed o :: m :: w.past)
    (hothers : ∀ x, x ≠ o → w'.isAlive x = w.isAlive x)
    (hregistry : ∀ owner, w'.registry owner = w.registry owner)
    (hhosts : ∀ owner, w.Hosts owner → w'.Hosts owner)
    (hcontains : ∀ x, w'.observers.contains x = w.observers.contains x)
    (hpasses : w'.passes = w.passes) : w.Neutral w' ∨ w.Frees o w' := by
  have hknown : ∀ x, w.observers.contains x = true → w'.observers.contains x = true :=
    fun x hx => (hcontains x).trans hx
  have hstrangers : ∀ x, w.observers.contains x = false → w'.observers.contains x = false :=
    fun x hx => (hcontains x).trans hx
  cases hafter : w'.isAlive o with
  | true =>
      rw [hafter, if_pos rfl] at hpast
      refine .inl ⟨⟨[m], hpast, by simpa using hm⟩, fun owner => .inl (hregistry owner), hhosts,
        hknown, fun x _ => ?_, born_of_strangers hstrangers, hpasses⟩
      by_cases hx : x = o
      · rw [hx, hafter, hbefore]
      · exact hothers x hx
  | false =>
      rw [hafter, if_neg (by simp)] at hpast
      exact .inr ⟨⟨m, hm, hpast⟩, hregistry, hhosts, hknown, hbefore, hafter, hothers,
        hstrangers, hpasses⟩

theorem unhold_neutral_or_frees {o : Name} (hheld : 0 < (w.observer o).holds) :
    w.Neutral (w.unhold o) ∨ w.Frees o (w.unhold o) := by
  have hbefore : w.isAlive o = true := by simp [isAlive, Observer.isAlive, hheld]
  refine neutral_or_frees rfl hbefore (past_unhold w o) ?_ (by simp) ?_ ?_ (by simp)
  · intro x hx
    simp [isAlive, hx]
  · exact hosts_of_same (by simp) (by simp)
  · intro x
    rw [contains_unhold]
    by_cases hx : x = o <;> simp [hx, contains_of_isAlive hbefore]

theorem disown_neutral_or_frees {o : Name} (hown : w.isOwned o = true) :
    w.Neutral (w.disown o) ∨ w.Frees o (w.disown o) := by
  refine neutral_or_frees rfl (isAlive_of_isOwned hown) (past_disown w o) ?_ (by simp) ?_ ?_
    (by simp)
  · intro x hx
    simp [isAlive, hx]
  · exact hosts_of_same (by simp) (by simp)
  · intro x
    rw [contains_disown]
    by_cases hx : x = o <;> simp [hx, contains_of_isAlive (isAlive_of_isOwned hown)]

theorem hold_neutral {o : Name} (halive : w.isAlive o = true) : w.Neutral (w.hold o) where
  past := ⟨[.held o], rfl, by simp [Moment.isPlain]⟩
  registry owner := .inl (registry_hold w o owner)
  hosts := hosts_of_same (by simp) (by simp)
  known x hx := by simp [hx]
  alive x _ := by
    rw [isAlive_hold]
    by_cases hx : x = o <;> simp [hx, halive]
  born := born_of_strangers fun x hx => by
    rw [contains_hold, hx, Bool.or_false, decide_eq_false_iff_not]
    rintro rfl
    rw [contains_of_isAlive halive] at hx
    exact absurd hx (by decide)
  passes := rfl

theorem reshape_neutral {o : Name} {f : Observer → Observer}
    (hknown : w.observers.contains o = true)
    (hlife : ∀ a, (f a).owned = a.owned ∧ (f a).holds = a.holds) :
    w.Neutral (w.updateObserver o f) where
  past := ⟨[], rfl, by simp⟩
  registry owner := .inl (registry_updateObserver w o owner f)
  hosts := hosts_of_same (by simp) (by simp)
  known x hx := by simp [hx]
  alive x _ := by
    unfold isAlive Observer.isAlive
    rw [observer_updateObserver]
    split
    next heq => rw [(hlife _).1, (hlife _).2, heq]
    next => rfl
  born := born_of_strangers fun x hx => by
    rw [contains_updateObserver, hx, Bool.or_false, decide_eq_false_iff_not]
    rintro rfl
    rw [hknown] at hx
    exact absurd hx (by decide)
  passes := rfl

theorem createObserver_neutral {name : Name} (role : Role)
    (hnew : w.observers.contains name = false) :
    w.Neutral { w with observers := w.observers.set name (.new role) } where
  past := ⟨[], rfl, by simp⟩
  registry owner := .inl (by cases owner <;> rfl)
  hosts owner h := by cases owner <;> exact h
  known x hx := by simp [hx]
  alive x hx := by
    have hne : x ≠ name := by
      rintro rfl
      rw [hnew] at hx
      exact absurd hx (by decide)
    simp [isAlive, observer, hne]
  born x hx hmade := by
    by_cases hname : x = name
    · simp [isAlive, observer, hname, Observer.new, Observer.isAlive]
    · simp [hname, hx] at hmade
  passes := rfl

theorem createDocument_neutral {name : Name} (id : DocumentId) (config : Config)
    (hnew : w.documents.contains name = false) :
    w.Neutral { w with documents := w.documents.set name (.new id config) } where
  past := ⟨[], rfl, by simp⟩
  registry owner := .inl (registry_createDocument hnew id config owner)
  hosts := hosts_of_same (fun d hd => by simp [hd]) (by simp)
  known x hx := hx
  alive x _ := rfl
  born := born_of_strangers fun _ h => h
  passes := rfl

/-- A registry that is made was not there before, so no existing one changes. -/
theorem createRegistry_neutral (w : World) (name : Name) :
    w.Neutral { w with registries := w.registries.make name .empty } where
  past := ⟨[], rfl, by simp⟩
  registry owner := by
    rw [registry_createRegistry]
    split
    next heq =>
      subst heq
      exact .inr ⟨Nat.lt_irrefl _, rfl⟩
    next => exact .inl rfl
  hosts := hosts_of_same (fun d hd => hd) (by simp [Catalog.make])
  known x hx := hx
  alive x _ := rfl
  born := born_of_strangers fun _ h => h
  passes := rfl

end World

variable {floor w w' : World}

theorem Change.move (h : Change floor w w') : Move floor w w' := by
  cases h with
  | remark m hm => exact .plain (w.record_neutral (Moment.isPlain_of_isRemark hm))
  | call t d o n hheld => exact .plain (w.record_neutral rfl)
  | accept d t n depth left hleft =>
      exact .plain ((accept_actsOn w d t n left).neutral (past_accept w d t n left))
  | release d t hown =>
      exact .plain ((releaseSlot_actsOn w d t).neutral
        ⟨[.released d t], rfl, by simp [Moment.isPlain]⟩)
  | close d m s hs => exact .plain ((closeScope_actsOn w d m s).neutral (past_closeScope w d m s))
  | prune owner hhosts => exact .prune owner hhosts
  | enterPass p hhosts hserial => exact .enterPass p hhosts hserial
  | invoke p e hown hdue hlive => exact .invoke p e hown hdue hlive
  | skip p e hown hdue hgone => exact .skip p e hown hdue hgone
  | miss p e hown hdue hdead => exact .miss p e hown hdue hdead
  | hold o halive => exact .plain (hold_neutral halive)
  | unhold o hown => exact (unhold_neutral_or_frees (Nat.zero_lt_of_lt hown)).elim .plain (.free o)
  | disown o hown => exact (disown_neutral_or_frees hown).elim .plain (.free o)
  | register owner key hhosts hown => exact .register owner key hhosts hown
  | unregister owner key hhosts => exact .unregister owner key hhosts
  | createDocument name id config hnew => exact .plain (createDocument_neutral id config hnew)
  | createObserver name role hnew => exact .plain (createObserver_neutral role hnew)
  | createRegistry name => exact .plain (createRegistry_neutral w name)
  | reshape o f hknown hlife => exact .plain (reshape_neutral hknown hlife)
  | aside snapshots dispatchers guards trackers threads =>
      exact .plain ⟨⟨[], rfl, by simp⟩, fun owner => .inl (by cases owner <;> rfl),
        fun owner h => by cases owner <;> exact h, fun o h => h, fun o _ => rfl,
        born_of_strangers fun _ h => h, rfl⟩

namespace World

theorem past_register (w : World) (owner : Owner) (key : Name) :
    (w.register owner key).past =
      if ((w.registry owner).prune w.isAlive).hasKey key then w.past
      else .registered owner key :: w.past := by
  unfold register
  simp only
  split <;> simp

theorem past_unregister (w : World) (owner : Owner) (key : Name) :
    (w.unregister owner key).past =
      if (w.registry owner).hasKey key then .unregistered owner key :: w.past else w.past := by
  unfold unregister
  split <;> simp

theorem past_enterPass (w : World) (p : PassInfo) :
    (w.enterPass p).past = .passEntered p (w.keys p.registry) :: w.past := by
  have hslots : ((w.prune p.registry).registry p.registry).entries.map (·.key) =
      w.keys p.registry := by
    rw [registry_prune, if_pos rfl]
    exact Registry.keys_prune
  simp only [enterPass, past_record, hslots]
  simp [prune]

@[simp]
theorem passes_enterPass (w : World) (p : PassInfo) : (w.enterPass p).passes = w.passes + 1 := by
  simp [enterPass, prune]

@[simp]
theorem isAlive_register (w : World) (owner : Owner) (key o : Name) :
    (w.register owner key).isAlive o = w.isAlive o := by
  simp only [isAlive, observer, observers_register]

@[simp]
theorem isAlive_unregister (w : World) (owner : Owner) (key o : Name) :
    (w.unregister owner key).isAlive o = w.isAlive o := by
  simp only [isAlive, observer, observers_unregister]

@[simp]
theorem isAlive_prune (w : World) (owner : Owner) (o : Name) :
    (w.prune owner).isAlive o = w.isAlive o :=
  isAlive_updateRegistry w o owner _

@[simp]
theorem isAlive_enterPass (w : World) (p : PassInfo) (o : Name) :
    (w.enterPass p).isAlive o = w.isAlive o :=
  isAlive_prune w p.registry o

theorem hosts_updateRegistry {change : Registry → Registry} {target owner : Owner}
    (h : w.Hosts owner) : (w.updateRegistry target change).Hosts owner :=
  hosts_of_same (fun _ => contains_updateRegistry) (by simp) owner h

end World

/-! ## What every move keeps -/

namespace Move

theorem hosts (h : Move floor w w') {owner : Owner} (hhosts : w.Hosts owner) : w'.Hosts owner := by
  cases h with
  | plain h => exact h.hosts owner hhosts
  | free o h => exact h.hosts owner hhosts
  | prune target _ => exact hosts_updateRegistry hhosts
  | enterPass p _ _ =>
      have hpruned : (w.prune p.registry).Hosts owner := hosts_updateRegistry hhosts
      cases owner <;> exact hpruned
  | register target key _ _ =>
      unfold World.register
      simp only
      have hupdated : (w.updateRegistry target (·.insert w.isAlive key)).Hosts owner :=
        hosts_updateRegistry hhosts
      split
      · exact hupdated
      · cases owner <;> exact hupdated
  | unregister target key _ =>
      unfold World.unregister
      split
      · have hupdated : (w.updateRegistry target (·.remove key)).Hosts owner :=
          hosts_updateRegistry hhosts
        cases owner <;> exact hupdated
      · exact hhosts
  | _ => cases owner <;> exact hhosts

theorem known (h : Move floor w w') {o : Name} (hknown : w.observers.contains o = true) :
    w'.observers.contains o = true := by
  cases h with
  | plain h => exact h.known o hknown
  | free x h => exact h.known o hknown
  | invoke p e hown hdue hlive => simp [hknown]
  | _ => simpa [World.prune, World.enterPass] using hknown

theorem alive_of_resolve_live {p : PassInfo} {e : Entry}
    (hlive : w.resolve p.registry p.removal e = .live) : w.isAlive e.key = true := by
  unfold World.resolve Registry.resolve at hlive
  by_contra hdead
  rw [if_neg hdead] at hlive
  split at hlive <;> exact absurd hlive (by decide)

/-- The dead stay dead. -/
theorem isAlive_of (h : Move floor w w') {o : Name} (hknown : w.observers.contains o = true)
    (halive : w'.isAlive o = true) : w.isAlive o = true := by
  cases h with
  | plain h => rwa [h.alive o hknown] at halive
  | free x h =>
      by_cases heq : o = x
      · rw [heq]
        exact h.before
      · rwa [h.others o heq] at halive
  | invoke p e hown hdue hlive =>
      rw [isAlive_record, isAlive_hold] at halive
      by_cases heq : o = e.key
      · rw [heq]
        exact alive_of_resolve_live hlive
      · simpa [heq] using halive
  | _ => simpa using halive

/-- A run leaves the passes alone that were there before it. -/
theorem news (h : Move floor w w') (hfloor : floor.passes ≤ w.passes) :
    ∃ news : List Moment, w'.past = news ++ w.past ∧
      ∀ m ∈ news, ∀ serial, serial < floor.passes → m.SilentOn serial := by
  cases h with
  | plain h =>
      obtain ⟨news, hpast, hplain⟩ := h.past
      exact ⟨news, hpast, fun m hm serial _ => Moment.silentOn_of_isPlain (hplain m hm) serial⟩
  | free o h =>
      obtain ⟨m, hm, hpast⟩ := h.past
      refine ⟨[.freed o, m], hpast, ?_⟩
      intro m' hm' serial _
      rcases List.mem_pair.mp hm' with rfl | rfl
      · exact ⟨rfl, rfl⟩
      · exact Moment.silentOn_of_isPlain hm serial
  | prune owner _ => exact ⟨[], past_updateRegistry w owner _, by simp⟩
  | enterPass p _ hserial =>
      refine ⟨[_], past_enterPass w p, ?_⟩
      intro m hm serial hlt
      rw [List.mem_singleton] at hm
      have hne : p.serial ≠ serial := by omega
      simp [hm, Moment.SilentOn, Moment.opens?, Moment.turn?, hne]
  | invoke p e hown _ _ =>
      refine ⟨[_, _], rfl, ?_⟩
      intro m hm serial hlt
      have hne : p.serial ≠ serial := by omega
      rcases List.mem_pair.mp hm with rfl | rfl <;>
        simp [Moment.SilentOn, Moment.opens?, Moment.turn?, hne]
  | skip p e hown _ _ =>
      refine ⟨[_], rfl, ?_⟩
      intro m hm serial hlt
      have hne : p.serial ≠ serial := by omega
      rw [List.mem_singleton] at hm
      simp [hm, Moment.SilentOn, Moment.opens?, Moment.turn?, hne]
  | miss p e hown _ _ =>
      refine ⟨[_], rfl, ?_⟩
      intro m hm serial hlt
      have hne : p.serial ≠ serial := by omega
      rw [List.mem_singleton] at hm
      simp [hm, Moment.SilentOn, Moment.opens?, Moment.turn?, hne]
  | register owner key _ _ =>
      rw [past_register]
      split
      · exact ⟨[], rfl, by simp⟩
      · exact ⟨[_], rfl, by simp [Moment.SilentOn, Moment.opens?, Moment.turn?]⟩
  | unregister owner key _ =>
      rw [past_unregister]
      split
      · exact ⟨[_], rfl, by simp [Moment.SilentOn, Moment.opens?, Moment.turn?]⟩
      · exact ⟨[], rfl, by simp⟩

end Move

/-- Only the journal since the snapshot, the registry and the life of the observer matter to a
slot. -/
theorem World.SnapshotEntry.of_entry {p : PassInfo} {e : Entry} (hf : w.SnapshotEntry p e)
    (news : List Moment) (hpast : w'.past = news ++ w.past)
    (hnews : ∀ m ∈ news, m.opens? p.serial = none ∧ m ≠ .unregistered p.registry e.key)
    (hhosts : ∀ owner, w.Hosts owner → w'.Hosts owner)
    (hknown : ∀ o, w.observers.contains o = true → w'.observers.contains o = true)
    (hentry : (w'.registry p.registry).Remembers e
      (.unregistered p.registry e.key ∈ Journal.since p.serial w.past) (w'.isAlive e.key = true)) :
    w'.SnapshotEntry p e where
  hosted := hhosts _ hf.hosted
  known := hknown _ hf.known
  entry := by
    have hmem : .unregistered p.registry e.key ∈ Journal.since p.serial w'.past ↔
        .unregistered p.registry e.key ∈ Journal.since p.serial w.past := by
      rw [hpast, Journal.since_append fun m hm => (hnews m hm).1, List.mem_append]
      exact or_iff_right fun hm => (hnews _ hm).2 rfl
    rwa [hmem]

theorem Moment.isPlain_news (news : List Moment) (h : ∀ m ∈ news, m.isPlain = true) (serial : Nat)
    (owner : Owner) (key : Name) :
    ∀ m ∈ news, m.opens? serial = none ∧ m ≠ .unregistered owner key := by
  intro m hm
  refine ⟨(Moment.silentOn_of_isPlain (h m hm) serial).1, ?_⟩
  rintro rfl
  exact absurd (h _ hm) (by simp [Moment.isPlain])

namespace Move

/-- Whatever happens while a pass is under way, its slots keep what they may rely on. -/
theorem snapshotEntry (h : Move floor w w') (hsound : w.Sound) {p : PassInfo} {e : Entry}
    (hserial : p.serial < w.passes) (hf : w.SnapshotEntry p e) : w'.SnapshotEntry p e := by
  have hhosts : ∀ owner, w.Hosts owner → w'.Hosts owner := fun _ => h.hosts
  have hknown : ∀ o, w.observers.contains o = true → w'.observers.contains o = true :=
    fun _ => h.known
  have hdead : w'.isAlive e.key = true → w.isAlive e.key = true := h.isAlive_of hf.known
  have hsame : w'.registry p.registry = w.registry p.registry →
      (w'.registry p.registry).Remembers e
        (.unregistered p.registry e.key ∈ Journal.since p.serial w.past)
        (w'.isAlive e.key = true) := by
    intro heq
    rw [heq]
    exact hf.entry.mono hdead
  cases h with
  | plain h =>
      obtain ⟨news, hpast, hplain⟩ := h.past
      refine hf.of_entry news hpast (Moment.isPlain_news news hplain _ _ _) hhosts hknown (hsame ?_)
      exact (h.registry p.registry).resolve_right fun hnew => hnew.1 hf.hosted
  | free o h =>
      obtain ⟨m, hm, hpast⟩ := h.past
      refine hf.of_entry [.freed o, m] hpast ?_ hhosts hknown (hsame (h.registry _))
      intro m' hm'
      rcases List.mem_pair.mp hm' with rfl | rfl
      · exact ⟨rfl, by simp⟩
      · exact Moment.isPlain_news [m'] (by simpa using hm) _ _ _ m' (by simp)
  | prune owner _ =>
      refine hf.of_entry [] (past_updateRegistry w owner _) (by simp) hhosts hknown ?_
      by_cases heq : p.registry = owner
      · rw [registry_prune, if_pos heq, ← heq, isAlive_prune]
        exact hf.entry.prune (hsound.registry _)
      · exact hsame (by rw [registry_prune, if_neg heq])
  | enterPass p' _ hserial' =>
      refine hf.of_entry [_] (past_enterPass w p') ?_ hhosts hknown ?_
      · intro m hm
        have hne : p'.serial ≠ p.serial := by omega
        rw [List.mem_singleton] at hm
        simp [hm, Moment.opens?, hne]
      · by_cases heq : p.registry = p'.registry
        · rw [registry_enterPass, if_pos heq, ← heq, isAlive_enterPass]
          exact hf.entry.prune (hsound.registry _)
        · exact hsame (by rw [registry_enterPass, if_neg heq])
  | invoke p' e' _ _ _ =>
      refine hf.of_entry [_, _] rfl ?_ hhosts hknown (hsame (by simp))
      simp [Moment.opens?]
  | skip p' e' _ _ _ =>
      refine hf.of_entry [_] rfl ?_ hhosts hknown (hsame (by simp))
      simp [Moment.opens?]
  | miss p' e' _ _ _ =>
      refine hf.of_entry [_] rfl ?_ hhosts hknown (hsame (by simp))
      simp [Moment.opens?]
  | register owner key _ _ =>
      have hentry : ((w.register owner key).registry p.registry).Remembers e
          (.unregistered p.registry e.key ∈ Journal.since p.serial w.past)
          ((w.register owner key).isAlive e.key = true) := by
        by_cases heq : p.registry = owner
        · rw [registry_register, if_pos heq, ← heq, isAlive_register]
          exact hf.entry.insert (hsound.registry _) key
        · exact hsame (by rw [registry_register, if_neg heq])
      have hpast := past_register w owner key
      split at hpast
      · exact hf.of_entry [] hpast (by simp) hhosts hknown hentry
      · exact hf.of_entry [_] hpast (by simp [Moment.opens?]) hhosts hknown hentry
  | unregister owner key _ =>
      have hpast := past_unregister w owner key
      split at hpast
      next hkey =>
        by_cases htarget : owner = p.registry ∧ key = e.key
        · obtain ⟨rfl, rfl⟩ := htarget
          -- The entry leaves with its ticket, and the journal says so.
          refine ⟨hhosts _ hf.hosted, hknown _ hf.known, ?_⟩
          have hremoved := hf.entry.remove (hsound.registry _) e.key
          rw [registry_unregister, if_pos rfl, isAlive_unregister, hpast,
            Journal.since_cons (by simp [Moment.opens?])]
          exact ⟨hremoved.issued, fun _ => hremoved.gone (.inr rfl),
            fun hnot => absurd (List.mem_cons_self) hnot⟩
        · refine hf.of_entry [_] hpast ?_ hhosts hknown ?_
          · intro m hm
            rw [List.mem_singleton] at hm
            subst hm
            refine ⟨rfl, ?_⟩
            simpa using htarget
          · by_cases heq : p.registry = owner
            · have hne : key ≠ e.key := fun hkey => htarget ⟨heq.symm, hkey⟩
              have hremoved := hf.entry.remove (hsound.registry _) key
              rw [registry_unregister, if_pos heq, ← heq, isAlive_unregister]
              simpa [hne] using hremoved
            · exact hsame (by rw [registry_unregister, if_neg heq])
      next hkey =>
        have hunchanged : w.unregister owner key = w := by
          unfold World.unregister
          rw [if_neg hkey]
        rw [hunchanged]
        exact hf

end Move

/-- What has become of a slot is decided by the life of its observer and by its removal since the
snapshot. -/
theorem World.SnapshotEntry.resolve_live_iff {p : PassInfo} {e : Entry} (h : w.SnapshotEntry p e) :
    w.resolve p.registry p.removal e = .live ↔ w.isAlive e.key = true ∧
      (p.removal = .deliver ∨
        .unregistered p.registry e.key ∉ Journal.since p.serial w.past) := by
  have hhonoured : p.removal.honoured = false ↔ p.removal = .deliver := by
    cases p.removal <;> simp [Removal.honoured]
  rw [World.resolve, h.entry.resolve_live_iff, hhonoured]

namespace Move

theorem passes_le (h : Move floor w w') : w.passes ≤ w'.passes := by
  cases h with
  | plain h => exact h.passes.ge
  | free o h => exact h.passes.ge
  | prune owner _ => simp [World.prune]
  | _ => simp

end Move

namespace Evolves

theorem hosts (h : Evolves floor w w') {owner : Owner} (hhosts : w.Hosts owner) :
    w'.Hosts owner := by
  induction h with
  | refl => exact hhosts
  | tail _ hstep ih => exact hstep.move.hosts ih

theorem passes_le (h : Evolves floor w w') : w.passes ≤ w'.passes := by
  induction h with
  | refl => exact le_rfl
  | tail _ hstep ih => exact ih.trans hstep.move.passes_le

theorem snapshotEntry (h : Evolves floor w w') (hsound : w.Sound) {p : PassInfo} {e : Entry}
    (hserial : p.serial < w.passes) (hf : w.SnapshotEntry p e) : w'.SnapshotEntry p e := by
  induction h with
  | refl => exact hf
  | tail hsteps hstep ih =>
      exact hstep.move.snapshotEntry (Evolves.sound hsteps hsound)
        (hserial.trans_le (Evolves.passes_le hsteps)) ih

theorem news (h : Evolves floor w w') (hfloor : floor.passes ≤ w.passes) :
    ∃ news : List Moment, w'.past = news ++ w.past ∧
      ∀ m ∈ news, ∀ serial, serial < floor.passes → m.SilentOn serial := by
  induction h with
  | refl => exact ⟨[], rfl, by simp⟩
  | tail hsteps hstep ih =>
      obtain ⟨news, hpast, hsilent⟩ := ih
      obtain ⟨more, hmore, hquiet⟩ :=
        hstep.move.news (hfloor.trans (Evolves.passes_le hsteps))
      refine ⟨more ++ news, by rw [hmore, hpast, List.append_assoc], ?_⟩
      intro m hm
      rcases List.mem_append.mp hm with hm | hm
      · exact hquiet m hm
      · exact hsilent m hm

end Evolves

end ChangeNotice
