import ChangeNotice.Proofs.JournalAccuracy

/-! # What a removal means for the rest of a run

Once an observer has been removed from a registry, only passes that do not honour
removals and that had their snapshot before it still invoke the observer, each of
them once. An observer that is registered again takes its place at the end; passes
that were under way go on as if it had not come back.
-/

namespace ChangeNotice

namespace Journal

variable {past news later earlier : List Moment} {owner : Owner} {key : Name} {p : PassInfo}
  {serial : Nat} {slots : List Name} {m : Moment}

theorem Orderly.suffix (h : Orderly (later ++ past)) : Orderly past := by
  induction later with
  | nil => exact h
  | cons m later ih => exact ih h.2

/-- Every moment of an orderly journal is justified by what came before it. -/
theorem Orderly.split (h : Orderly (later ++ m :: earlier)) :
    m.Justified earlier ∧ Orderly earlier :=
  h.suffix

theorem Orderly.nodup_standing (h : Orderly past) (owner : Owner) :
    (standing owner past).Nodup := by
  induction past with
  | nil => exact List.nodup_nil
  | cons m past ih =>
      rw [standing_cons]
      apply Moment.nodup_relist (ih h.2)
      rintro key rfl
      exact h.1.1

/-- Where a pass took its snapshot. -/
theorem split_of_opening? (h : opening? serial past = some (p, slots)) :
    p.serial = serial ∧ ∃ earlier, past = since serial past ++ .passEntered p slots :: earlier := by
  induction past with
  | nil => exact absurd h (by simp [opening?])
  | cons m past ih =>
      cases hopens : m.opens? serial with
      | none =>
          rw [opening?_cons hopens] at h
          obtain ⟨hserial, earlier, hpast⟩ := ih h
          refine ⟨hserial, earlier, ?_⟩
          rw [since_cons hopens, List.cons_append, ← hpast]
      | some opened =>
          rw [opening?_cons_of_opens hopens, Option.some.injEq] at h
          subst h
          unfold Moment.opens? at hopens
          split at hopens
          next p' slots' =>
            split at hopens
            next hserial =>
              rw [Option.some.injEq, Prod.mk.injEq] at hopens
              obtain ⟨rfl, rfl⟩ := hopens
              have hagain : (Moment.passEntered p' slots').opens? serial = some (p', slots') :=
                if_pos hserial
              refine ⟨hserial, past, ?_⟩
              rw [since_cons_of_opens hagain, List.nil_append]
            next => exact absurd hopens (by simp)
          next => exact absurd hopens (by simp)

theorem opening?_append (h : ∀ m ∈ news, m.opens? serial = none) :
    opening? serial (news ++ past) = opening? serial past := by
  induction news with
  | nil => rfl
  | cons m news ih =>
      obtain ⟨hm, hnews⟩ := List.forall_mem_cons.mp h
      rw [List.cons_append, opening?_cons hm, ih hnews]

/-- No pass takes a second snapshot. -/
theorem Orderly.opens_once (h : Orderly (news ++ past)) {opened : PassInfo × List Name}
    (hopened : opening? serial past = some opened) : ∀ m ∈ news, m.opens? serial = none := by
  induction news with
  | nil => exact fun m hm => absurd hm List.not_mem_nil
  | cons m news ih =>
      have hnews := ih h.2
      refine List.forall_mem_cons.mpr ⟨?_, hnews⟩
      by_contra hnot
      obtain ⟨again, hagain⟩ := Option.ne_none_iff_exists'.mp hnot
      unfold Moment.opens? at hagain
      split at hagain
      next p' slots' =>
        split at hagain
        next hserial =>
          have hfirst : opening? p'.serial (news ++ past) = none := h.1.1
          rw [hserial, opening?_append hnews, hopened] at hfirst
          exact absurd hfirst (by simp)
        next => exact absurd hagain (by simp)
      next => exact absurd hagain (by simp)

theorem Orderly.opening?_of_mem (h : Orderly past) (hmem : .passEntered p slots ∈ past) :
    opening? p.serial past = some (p, slots) := by
  obtain ⟨later, earlier, rfl⟩ := List.append_of_mem hmem
  have hfirst : opening? p.serial (.passEntered p slots :: earlier) = some (p, slots) :=
    opening?_cons_of_opens (if_pos rfl)
  rw [opening?_append (h.opens_once hfirst), hfirst]

theorem Due.mem_slots (h : Due past p key) :
    ∃ slots, opening? p.serial past = some (p, slots) ∧ key ∈ slots := by
  obtain ⟨rest, hopened⟩ := h
  exact ⟨_, hopened, List.mem_append_right _ List.mem_cons_self⟩

/-- The slots of a pass are distinct, and were registered and alive when it began. -/
theorem Orderly.snapshot (h : Orderly past) (hopened : opening? serial past = some (p, slots)) :
    ∃ earlier, past = since serial past ++ .passEntered p slots :: earlier ∧ slots.Nodup ∧
      ∀ key ∈ slots, key ∈ standing p.registry earlier := by
  obtain ⟨-, earlier, hpast⟩ := split_of_opening? hopened
  rw [hpast] at h
  obtain ⟨⟨-, hsublist, -⟩, hearlier⟩ := h.split
  exact ⟨earlier, hpast, (hearlier.nodup_standing p.registry).sublist hsublist,
    fun key hkey => hsublist.subset hkey⟩

/-! ## After a removal -/

theorem not_mem_standing_append (h : key ∉ standing owner past)
    (hnews : .registered owner key ∉ news) : key ∉ standing owner (news ++ past) := by
  induction news with
  | nil => exact h
  | cons m news ih =>
      rw [List.mem_cons, not_or] at hnews
      have hbefore := ih hnews.2
      rw [List.cons_append, standing_cons]
      rcases m.relist_cases owner (standing owner (news ++ past)) with
        hsame | ⟨j, rfl, hlist⟩ | ⟨j, rfl, hlist⟩
      · rw [hsame]
        exact hbefore
      · rw [hlist, List.mem_append, List.mem_singleton, not_or]
        refine ⟨hbefore, ?_⟩
        rintro rfl
        exact hnews.1 rfl
      · rw [hlist]
        exact fun hmem => hbefore (List.mem_of_mem_erase hmem)

/-- Whoever has been removed is no longer in the list. -/
theorem Orderly.not_mem_standing (h : Orderly (.unregistered owner key :: earlier))
    (hnews : .registered owner key ∉ news) :
    key ∉ standing owner (news ++ .unregistered owner key :: earlier) := by
  refine not_mem_standing_append ?_ hnews
  rw [standing_cons]
  simp only [Moment.relist, if_true]
  exact (h.2.nodup_standing owner).not_mem_erase

/-- Of two different moments of a journal, one came before the other. -/
theorem split_cases {m m' : Moment} {later later' earlier earlier' : List Moment} (hne : m ≠ m')
    (h : later ++ m :: earlier = later' ++ m' :: earlier') :
    (∃ between, later' = later ++ m :: between ∧ earlier = between ++ m' :: earlier') ∨
    ∃ between, later = later' ++ m' :: between ∧ earlier' = between ++ m :: earlier := by
  rcases List.append_eq_append_iff.mp h with ⟨between, hlater, hrest⟩ | ⟨between, hlater, hrest⟩
  · cases between with
    | nil => exact absurd (List.cons_eq_cons.mp hrest).1 hne
    | cons m'' between =>
        obtain ⟨rfl, hearlier⟩ := List.cons_eq_cons.mp hrest
        exact .inl ⟨between, hlater, hearlier⟩
  · cases between with
    | nil => exact absurd (List.cons_eq_cons.mp hrest).1.symm hne
    | cons m'' between =>
        obtain ⟨rfl, hearlier⟩ := List.cons_eq_cons.mp hrest
        exact .inr ⟨between, hlater, hearlier⟩

/-- Whoever is invoked after its removal is invoked by a pass that does not honour removals and that
had taken its snapshot by then. -/
theorem Orderly.invoking_of_removed
    (h : Orderly (.invoking p key :: (news ++ .unregistered p.registry key :: earlier)))
    (hnews : .registered p.registry key ∉ news) :
    p.removal = .deliver ∧ ∃ slots, .passEntered p slots ∈ earlier := by
  obtain ⟨⟨hdue, -, hheeded⟩, hpast⟩ := h
  obtain ⟨slots, hopened, hkey⟩ := hdue.mem_slots
  obtain ⟨before, hsplit, -, hslots⟩ := hpast.snapshot hopened
  rcases split_cases (by simp) hsplit with
    ⟨between, hsince, hearlier⟩ | ⟨between, hbetween, hbefore⟩
  · refine ⟨hheeded.resolve_right (fun hnot => hnot ?_), slots, ?_⟩
    · rw [hsince]
      exact List.mem_append_right _ List.mem_cons_self
    · rw [hearlier]
      exact List.mem_append_right _ List.mem_cons_self
  · -- A snapshot after the removal has no slot for the observer.
    have hstanding := hslots key hkey
    rw [hbefore] at hstanding
    refine absurd hstanding (Orderly.not_mem_standing (Orderly.suffix hpast) ?_)
    intro hmem
    apply hnews
    rw [hbetween]
    exact List.mem_append_right _ (List.mem_cons_of_mem _ hmem)

/-- A pass invokes nobody twice. -/
theorem Orderly.invoking_once (h : Orderly (.invoking p key :: past)) : .invoking p key ∉ past := by
  obtain ⟨⟨⟨rest, hopened⟩, -⟩, hpast⟩ := h
  obtain ⟨earlier, hsplit, hnodup, -⟩ := hpast.snapshot hopened
  intro hmem
  rw [hsplit, List.mem_append, List.mem_cons] at hmem
  rcases hmem with hsince | hopening | hearlier
  · -- It has had its turn, so that its slot is not the next one.
    have hvisited : key ∈ visitedKeys p.serial past := by
      unfold visitedKeys turns
      rw [List.mem_map]
      refine ⟨(key, .live), List.mem_reverse.mpr ?_, rfl⟩
      exact List.mem_filterMap.mpr ⟨_, hsince, if_pos rfl⟩
    exact (List.nodup_append.mp hnodup).2.2 key hvisited key List.mem_cons_self rfl
  · exact absurd hopening (by simp)
  · obtain ⟨later, before, rfl⟩ := List.append_of_mem hearlier
    rw [hsplit] at hpast
    obtain ⟨⟨hfirst, -⟩, hbefore⟩ := hpast.split
    obtain ⟨⟨⟨rest', hopened'⟩, -⟩, -⟩ := hbefore.split
    have hsilent := List.findSome?_eq_none_iff.mp hfirst
    have hnone : opening? p.serial before = none :=
      List.findSome?_eq_none_iff.mpr fun m hm =>
        hsilent m (List.mem_append_right _ (List.mem_cons_of_mem _ hm))
    rw [hnone] at hopened'
    exact absurd hopened' (by simp)

/-! ## After a registration -/

/-- Without the registration, the journal tells the same about the turns of every pass. -/
theorem turns_registered (serial : Nat) :
    turns serial (news ++ .registered owner key :: past) = turns serial (news ++ past) := by
  induction news with
  | nil => rw [List.nil_append, turns_cons rfl]; simp [Moment.turn?]
  | cons m news ih =>
      rw [List.cons_append, List.cons_append]
      cases hopens : m.opens? serial with
      | none => rw [turns_cons hopens, turns_cons hopens, ih]
      | some opened => rw [turns_cons_of_opens hopens, turns_cons_of_opens hopens]

theorem opening?_registered (serial : Nat) :
    opening? serial (news ++ .registered owner key :: past) = opening? serial (news ++ past) := by
  unfold opening?
  rw [List.findSome?_append, List.findSome?_append, List.findSome?_cons]
  rfl

theorem mem_since_registered (hne : m ≠ .registered owner key) :
    m ∈ since serial (news ++ .registered owner key :: past) ↔ m ∈ since serial (news ++ past) := by
  induction news with
  | nil =>
      rw [List.nil_append, List.nil_append, since_cons rfl, List.mem_cons]
      exact or_iff_right hne
  | cons m' news ih =>
      rw [List.cons_append, List.cons_append]
      cases hopens : m'.opens? serial with
      | none => rw [since_cons hopens, since_cons hopens, List.mem_cons, List.mem_cons, ih]
      | some opened => rw [since_cons_of_opens hopens, since_cons_of_opens hopens]

theorem due_registered {j : Name} :
    Due (news ++ .registered owner key :: past) p j ↔ Due (news ++ past) p j := by
  unfold Due visitedKeys
  rw [opening?_registered, turns_registered]

theorem callable_registered {j : Name} :
    Callable (news ++ .registered owner key :: past) p j ↔ Callable (news ++ past) p j := by
  unfold Callable
  rw [mem_since_registered (by simp)]
  simp

/-- The registration of an observer makes no difference to a pass that is under way: its slots have
their turns, and the live ones among them are invoked, as they would have been without it. -/
theorem Orderly.turn_registered {j : Name} {slots : List Name}
    (h : Orderly (m :: (news ++ .registered owner key :: earlier)))
    (hm : m = .invoking p j ∨ m = .skipping p j ∨ m = .missing p j)
    (hopened : .passEntered p slots ∈ earlier) :
    opening? p.serial (news ++ earlier) = some (p, slots) ∧ Due (news ++ earlier) p j ∧
      (m = .invoking p j ↔ Callable (news ++ earlier) p j) := by
  obtain ⟨hjustified, hpast⟩ := h
  have hslots := hpast.opening?_of_mem
    (List.mem_append_right news (List.mem_cons_of_mem (.registered owner key) hopened))
  rw [opening?_registered] at hslots
  refine ⟨hslots, ?_⟩
  rcases hm with rfl | rfl | rfl
  · obtain ⟨hdue, hcallable⟩ := hjustified
    exact ⟨due_registered.mp hdue, iff_of_true rfl (callable_registered.mp hcallable)⟩
  · obtain ⟨hdue, hnot⟩ := hjustified
    exact ⟨due_registered.mp hdue, iff_of_false (by simp) (mt callable_registered.mpr hnot)⟩
  · obtain ⟨hdue, hnot⟩ := hjustified
    exact ⟨due_registered.mp hdue, iff_of_false (by simp) (mt callable_registered.mpr hnot)⟩

theorem mem_standing_append {j : Name} (h : j ∈ standing owner past)
    (hnews : .unregistered owner j ∉ news) : j ∈ standing owner (news ++ past) := by
  induction news with
  | nil => exact h
  | cons m news ih =>
      rw [List.mem_cons, not_or] at hnews
      have hbefore := ih hnews.2
      rw [List.cons_append, standing_cons]
      rcases m.relist_cases owner (standing owner (news ++ past)) with
        hsame | ⟨k, rfl, hlist⟩ | ⟨k, rfl, hlist⟩
      · rw [hsame]
        exact hbefore
      · rw [hlist]
        exact List.mem_append_left _ hbefore
      · have hne : j ≠ k := by
          rintro rfl
          exact hnews.1 rfl
        rw [hlist]
        exact (List.mem_erase_of_ne hne).mpr hbefore

/-- Whoever is registered and is not removed is not registered again. -/
theorem Orderly.not_mem_registered {j : Name} (h : Orderly (news ++ past))
    (hj : j ∈ standing owner past) (hnews : .unregistered owner j ∉ news) :
    .registered owner j ∉ news := by
  intro hmem
  obtain ⟨later, earlier, rfl⟩ := List.append_of_mem hmem
  rw [List.append_assoc, List.cons_append] at h
  refine h.split.1.1 (mem_standing_append hj fun hearlier => hnews ?_)
  exact List.mem_append_right _ (List.mem_cons_of_mem _ hearlier)

/-- Only those who were registered later stand behind the observer. -/
theorem standing_registered (past : List Moment) (hnews : .unregistered owner key ∉ news) :
    ∃ before after, standing owner (news ++ .registered owner key :: past) =
      before ++ key :: after ∧ ∀ j ∈ after, .registered owner j ∈ news := by
  induction news with
  | nil =>
      refine ⟨standing owner past, [], ?_, fun j hj => absurd hj List.not_mem_nil⟩
      simp [Moment.relist]
  | cons m news ih =>
      rw [List.mem_cons, not_or] at hnews
      obtain ⟨before, after, hsplit, hlate⟩ := ih hnews.2
      have hold : ∀ j ∈ after, .registered owner j ∈ m :: news :=
        fun j hj => List.mem_cons_of_mem _ (hlate j hj)
      rw [List.cons_append, standing_cons, hsplit]
      rcases m.relist_cases owner (before ++ key :: after) with
        hsame | ⟨k, rfl, hlist⟩ | ⟨k, rfl, hlist⟩
      · exact ⟨before, after, hsame, hold⟩
      · refine ⟨before, after ++ [k], by simp [hlist], ?_⟩
        intro j hj
        rcases List.mem_append.mp hj with hj | hj
        · exact hold j hj
        · rw [List.mem_singleton.mp hj]
          exact List.mem_cons_self
      · have hne : key ≠ k := by
          rintro rfl
          exact hnews.1 rfl
        rw [hlist]
        -- The one who leaves stood before the observer or behind it.
        by_cases hmem : k ∈ before
        · exact ⟨before.erase k, after, List.erase_append_left _ hmem, hold⟩
        · refine ⟨before, after.erase k, ?_, fun j hj => hold j (List.mem_of_mem_erase hj)⟩
          rw [List.erase_append_right _ hmem, List.erase_cons_tail (by simpa using hne)]

/-- A pass that begins while the observer stays registered and alive has one slot for it, and behind
that slot nobody who was there before it. -/
theorem Orderly.slot_registered
    (h : Orderly (.passEntered p slots :: (news ++ .registered p.registry key :: earlier)))
    (hstays : .unregistered p.registry key ∉ news) (hlives : .freed key ∉ news) :
    ∃ before after, slots = before ++ key :: after ∧ key ∉ before ∧ key ∉ after ∧
      ∀ j ∈ standing p.registry earlier, .unregistered p.registry j ∉ news → j ∉ after := by
  obtain ⟨⟨-, hsublist, hslots⟩, hpast⟩ := h
  obtain ⟨front, back, hsplit, hlate⟩ := standing_registered earlier hstays
  have hnodup := hpast.nodup_standing p.registry
  rw [hsplit] at hsublist hnodup
  have hfront : key ∉ front := fun hmem =>
    (List.nodup_append.mp hnodup).2.2 key hmem key List.mem_cons_self rfl
  have hback : key ∉ back := (List.nodup_cons.mp (List.nodup_append.mp hnodup).2.1).1
  have hkey : key ∈ slots := by
    rw [hslots, hsplit]
    refine ⟨List.mem_append_right _ List.mem_cons_self, ?_⟩
    simp [hlives, hpast.split.1.2]
  obtain ⟨before, rest, rfl, hbefore, hrest⟩ := List.sublist_append_iff.mp hsublist
  have hrestkey : key ∈ rest :=
    (List.mem_append.mp hkey).resolve_left fun hmem => hfront (hbefore.subset hmem)
  rcases List.sublist_cons_iff.mp hrest with hmissing | ⟨after, rfl, hafter⟩
  · exact absurd (hmissing.subset hrestkey) hback
  · refine ⟨before, after, rfl, fun hmem => hfront (hbefore.subset hmem),
      fun hmem => hback (hafter.subset hmem), ?_⟩
    intro j hj hkept hmem
    have hstood : j ∈ standing p.registry (.registered p.registry key :: earlier) := by
      simp [Moment.relist, hj]
    exact hpast.not_mem_registered hstood hkept (hlate j (hafter.subset hmem))

end Journal

/-- Until an observer that was removed is registered again, it is invoked only by passes that do not
honour removals and had their snapshots before. Once it is registered again, passes under way go on
as they would have gone, and a pass that begins later has one slot for it, behind all who were
registered then and have stayed. -/
theorem Reached.removal_effective {w : World} (hw : Reached w) (owner : Owner) (key : Name) :
    (∀ (later news earlier : List Moment) (p : PassInfo),
      w.past = later ++ .invoking p key :: (news ++ .unregistered owner key :: earlier) →
      p.registry = owner → .registered owner key ∉ news →
        p.removal = .deliver ∧ ∃ slots, .passEntered p slots ∈ earlier) ∧
    (∀ (later earlier : List Moment) (p : PassInfo),
      w.past = later ++ .invoking p key :: earlier → .invoking p key ∉ earlier) ∧
    (∀ (later news earlier : List Moment) (p : PassInfo) (slots : List Name) (j : Name)
        (m : Moment),
      w.past = later ++ m :: (news ++ .registered owner key :: earlier) →
      .passEntered p slots ∈ earlier →
      m = .invoking p j ∨ m = .skipping p j ∨ m = .missing p j →
        Journal.opening? p.serial (news ++ earlier) = some (p, slots) ∧
        Journal.Due (news ++ earlier) p j ∧
        (m = .invoking p j ↔ Journal.Callable (news ++ earlier) p j)) ∧
    ∀ (later news earlier : List Moment) (p : PassInfo) (slots : List Name),
      w.past = later ++ .passEntered p slots :: (news ++ .registered owner key :: earlier) →
      p.registry = owner → .unregistered owner key ∉ news → .freed key ∉ news →
        ∃ before after, slots = before ++ key :: after ∧ key ∉ before ∧ key ∉ after ∧
          ∀ j ∈ Journal.standing owner earlier, .unregistered owner j ∉ news → j ∉ after := by
  have horderly := hw.journalAccurate.orderly
  refine ⟨?_, ?_, ?_, ?_⟩
  · rintro later news earlier p hpast rfl hnews
    rw [hpast] at horderly
    exact horderly.suffix.invoking_of_removed hnews
  · intro later earlier p hpast
    rw [hpast] at horderly
    exact horderly.suffix.invoking_once
  · intro later news earlier p slots j m hpast hopened hm
    rw [hpast] at horderly
    exact horderly.suffix.turn_registered hm hopened
  · rintro later news earlier p slots hpast rfl hstays hlives
    rw [hpast] at horderly
    exact horderly.suffix.slot_registered hstays hlives

/-- While the first pass is under way, which does not honour removals, the handler of one observer
removes the next one, whose own handler registers it again. Then a second pass runs. -/
def returned : World :=
  (Session.runFrom 3 none .empty
    [.perform none (.createDocument "d" ⟨64, .deliver, .panic⟩),
      .createRecorder none "a" false .proceed
        [⟨.beginLoad, none, some 1, [.perform none (.unregister (.document none) "k")], 0⟩],
      .createRecorder none "k" false .proceed
        [⟨.beginLoad, none, some 1, [.perform none (.register (.document none) "k")], 0⟩],
      .perform none (.createQuiet "b" false),
      .perform none (.register (.document none) "a"),
      .perform none (.register (.document none) "k"),
      .perform none (.register (.document none) "b"),
      .perform none (.notify none .beginLoad), .perform none (.notify none .endLoad)]).2

/-- The two passes. -/
def returnedPass (serial : Nat) (kind : Kind) : PassInfo :=
  ⟨serial, 0, .document "d", .document "d", (returned.document "d").id, kind, 1, .deliver⟩

namespace Journal

/-- The journal as it was when the moment came for the last time. -/
def before (m : Moment) (past : List Moment) : List Moment := (past.dropWhile (· ≠ m)).tail

/-- What has been written since. -/
def after (m : Moment) (past : List Moment) : List Moment := past.takeWhile (· ≠ m)

theorem after_append_before {m : Moment} {past : List Moment} (h : m ∈ past) :
    past = after m past ++ m :: before m past := by
  induction past with
  | nil => exact absurd h List.not_mem_nil
  | cons first rest ih =>
      by_cases hfirst : first = m
      · simp [after, before, hfirst]
      · have hrest : m ∈ rest := (List.mem_cons.mp h).resolve_left (Ne.symm hfirst)
        simpa [after, before, hfirst] using ih hrest

theorem after_append_before_twice {m m' : Moment} {past : List Moment} (h : m ∈ past)
    (h' : m' ∈ before m past) :
    past = after m past ++ m :: (after m' (before m past) ++ m' :: before m' (before m past)) := by
  rw [← after_append_before h']
  exact after_append_before h

end Journal

/-- The removed observer is still invoked, once, by the pass that had it in its snapshot; the slot
after it is invoked as if it had not come back; and it is the last one in the snapshot of the pass
that begins later. -/
theorem removal_effective_returned :
    let p := returnedPass 0 .beginLoad
    let removal := .unregistered (.document "d") "k"
    let back := .registered (.document "d") "k"
    let turn := Journal.before (.invoking p "b") returned.past
    Journal.visitedKeys 0 returned.past = ["a", "k", "b"] ∧
    Journal.visitedKeys 1 returned.past = ["a", "b", "k"] ∧
    (∃ slots, .passEntered p slots ∈
      Journal.before removal (Journal.before (.invoking p "k") returned.past)) ∧
    .invoking p "k" ∉ Journal.before (.invoking p "k") returned.past ∧
    Journal.Callable (Journal.after back turn ++ Journal.before back turn) p "b" ∧
    ∃ before after, ["a", "b", "k"] = before ++ "k" :: after ∧ "a" ∉ after ∧ "b" ∉ after := by
  intro p removal back turn
  have hreached : Reached returned := Session.runFrom_reached 3 none _ .start
  obtain ⟨hremoved, honce, hpassing, hlast⟩ := hreached.removal_effective (.document "d") "k"
  have hinvoked : .invoking p "k" ∈ returned.past := by decide +kernel
  have hturn : .invoking p "b" ∈ returned.past := by decide +kernel
  have hbegun : .passEntered (returnedPass 1 .endLoad) ["a", "b", "k"] ∈ returned.past := by
    decide +kernel
  obtain ⟨-, hslots⟩ := hremoved _ _ _ _
    (Journal.after_append_before_twice hinvoked (by decide +kernel)) rfl (by decide +kernel)
  obtain ⟨-, -, hcallable⟩ := hpassing _ _ _ _ ["a", "k", "b"] "b" _
    (Journal.after_append_before_twice hturn (by decide +kernel)) (by decide +kernel) (.inl rfl)
  obtain ⟨before, after, hsplit, -, -, hbehind⟩ := hlast _ _ _ _ _
    (Journal.after_append_before_twice hbegun (by decide +kernel)) rfl (by decide +kernel)
    (by decide +kernel)
  refine ⟨by decide +kernel, by decide +kernel, hslots,
    honce _ _ _ (Journal.after_append_before hinvoked), hcallable.mp rfl,
    before, after, hsplit, hbehind "a" ?_ ?_, hbehind "b" ?_ ?_⟩
  all_goals decide +kernel

/-- One observer is registered, and another one has been removed. -/
def awaited : World :=
  (Session.runFrom 3 none .empty
    [.perform none (.createDocument "d" {}),
      .perform none (.createQuiet "j" false), .perform none (.createQuiet "k" false),
      .perform none (.register (.document none) "j"),
      .perform none (.register (.document none) "k"),
      .perform none (.unregister (.document none) "k")]).2

/-- The other one is registered again, then the first one is removed and registered again, and a
pass runs. -/
def overtaken : World :=
  (Session.runFrom 3 none awaited
    [.perform none (.register (.document none) "k"),
      .perform none (.unregister (.document none) "j"),
      .perform none (.register (.document none) "j"),
      .perform none (.notify none .beginLoad)]).2

/-- A handler removes an observer, another observer is dropped, and then more steps are taken, all
before the turns of the two in the pass that called the handler. -/
def removedAmid (more : List Step) : World :=
  (Session.runFrom 3 none .empty
    [.perform none (.createDocument "d" {}),
      .createRecorder none "a" false .proceed
        [⟨.beginLoad, none, some 1,
          .perform none (.unregister (.document none) "k") ::
            .perform none (.drop "x") :: more, 0⟩],
      .perform none (.createQuiet "k" false), .perform none (.createQuiet "x" false),
      .perform none (.register (.document none) "a"),
      .perform none (.register (.document none) "k"),
      .perform none (.register (.document none) "x"), .perform none (.notify none .beginLoad)]).2

/-- Somebody who was registered when an observer came back may have a slot behind it later on, and
a pass that was under way may notice that the observer has come back: it takes one who had died for
one who was removed. -/
theorem return_overtaken_and_noticed :
    Journal.standing (.document "d") awaited.past = ["j"] ∧
    Journal.visitedKeys 0 overtaken.past = ["k", "j"] ∧
    Journal.turns 0 (removedAmid []).past =
      [("a", .live), ("k", .unregistered), ("x", .dropped)] ∧
    Journal.turns 0 (removedAmid [.perform none (.register (.document none) "k")]).past =
      [("a", .live), ("k", .unregistered), ("x", .unregistered)] := by
  refine ⟨?_, ?_, ?_, ?_⟩
  all_goals decide +kernel

end ChangeNotice
