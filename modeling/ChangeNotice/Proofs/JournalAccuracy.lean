import ChangeNotice.Proofs.Client

/-! # The journal is accurate

The journal tells who is registered, who is alive and what every pass has done.
Each moment is justified by those before it: a slot has its turn when the slots
before it have had theirs, it is invoked if the journal knows of no death and of
no removal that counts, and a pass freezes those who are registered and alive.
Whatever is to be known about removals can then be read off the journal alone.
-/

namespace ChangeNotice

open World

namespace Journal

/-- The slot of the observer is the next one of the pass to have its turn. -/
def Due (past : List Moment) (p : PassInfo) (key : Name) : Prop :=
  ∃ rest, opening? p.serial past = some (p, visitedKeys p.serial past ++ key :: rest)

/-- The observer has not died, and it has not been removed since the snapshot of the pass, if the
pass honours removals. -/
def Callable (past : List Moment) (p : PassInfo) (key : Name) : Prop :=
  .freed key ∉ past ∧
    (p.removal = .deliver ∨ .unregistered p.registry key ∉ since p.serial past)

end Journal

/-- What must have been so when the moment came. -/
def Moment.Justified (past : List Moment) : Moment → Prop
  | .passEntered p slots =>
    Journal.opening? p.serial past = none ∧ slots.Sublist (Journal.standing p.registry past) ∧
      ∀ key, key ∈ slots ↔ key ∈ Journal.standing p.registry past ∧ .freed key ∉ past
  | .invoking p key => Journal.Due past p key ∧ Journal.Callable past p key
  | .skipping p key | .missing p key => Journal.Due past p key ∧ ¬ Journal.Callable past p key
  | .registered owner key => key ∉ Journal.standing owner past ∧ .freed key ∉ past
  | .unregistered owner key => key ∈ Journal.standing owner past
  | _ => True

/-- Every moment is justified by those before it. -/
def Journal.Orderly : List Moment → Prop
  | [] => True
  | m :: past => m.Justified past ∧ Orderly past

/-- The journal knows who is registered; of the dead, the registry may have forgotten some. -/
structure World.Listed (w : World) (owner : Owner) : Prop where
  sublist : ((w.registry owner).entries.map (·.key)).Sublist (Journal.standing owner w.past)
  alive : ∀ key ∈ Journal.standing owner w.past, w.isAlive key = true →
    key ∈ (w.registry owner).entries.map (·.key)
  nodup : (Journal.standing owner w.past).Nodup
  known : ∀ key ∈ Journal.standing owner w.past, w.observers.contains key = true
  hosted : ¬ w.Hosts owner → Journal.standing owner w.past = []

/-- The journal tells the truth about the world. -/
structure World.JournalAccurate (w : World) : Prop where
  lives : ∀ o, .freed o ∈ w.past ↔ w.observers.contains o = true ∧ w.isAlive o = false
  listed : ∀ owner, w.Listed owner
  serials : ∀ serial, w.passes ≤ serial → Journal.opening? serial w.past = none
  orderly : Journal.Orderly w.past

variable {floor w w' : World}

theorem Moment.justified_of_isPlain {m : Moment} (h : m.isPlain = true) (past : List Moment) :
    m.Justified past := by
  cases m <;> trivial

theorem Journal.standing_append {news : List Moment} (h : ∀ m ∈ news, m.isPlain = true)
    (owner : Owner) (past : List Moment) : standing owner (news ++ past) = standing owner past := by
  induction news with
  | nil => rfl
  | cons m news ih =>
      obtain ⟨hm, hnews⟩ := List.forall_mem_cons.mp h
      rw [List.cons_append, standing_cons, Moment.relist_of_isPlain hm, ih hnews]

theorem Journal.Orderly.append {news past : List Moment} (h : ∀ m ∈ news, m.isPlain = true)
    (hpast : Orderly past) : Orderly (news ++ past) := by
  induction news with
  | nil => exact hpast
  | cons m news ih =>
      obtain ⟨hm, hnews⟩ := List.forall_mem_cons.mp h
      exact ⟨Moment.justified_of_isPlain hm _, ih hnews⟩

theorem Moment.ne_freed_of_isPlain {m : Moment} (h : m.isPlain = true) (o : Name) :
    m ≠ .freed o := by
  rintro rfl
  exact absurd h (by simp [isPlain])

namespace World

theorem JournalAccurate.empty : World.empty.JournalAccurate where
  lives o := by simp [World.empty]
  listed owner := by
    refine ⟨?_, by simp [World.empty, Journal.standing], List.nodup_nil,
      by simp [World.empty, Journal.standing], fun _ => rfl⟩
    cases owner <;> exact List.Sublist.refl []
  serials _ _ := rfl
  orderly := trivial

namespace JournalAccurate

variable (hw : w.JournalAccurate)

include hw

/-- For whoever has been made, to be alive is not to have been freed. -/
theorem isAlive_iff {o : Name} (hknown : w.observers.contains o = true) :
    w.isAlive o = true ↔ .freed o ∉ w.past := by
  rw [hw.lives o, hknown]
  simp

theorem mem_keys_iff {owner : Owner} {key : Name} :
    key ∈ w.keys owner ↔ key ∈ Journal.standing owner w.past ∧ .freed key ∉ w.past := by
  have hlisted := hw.listed owner
  simp only [keys, Registry.keys, List.mem_filter]
  constructor
  · rintro ⟨hmem, halive⟩
    have hstanding := hlisted.sublist.subset hmem
    exact ⟨hstanding, (hw.isAlive_iff (hlisted.known key hstanding)).mp halive⟩
  · rintro ⟨hstanding, hfreed⟩
    have halive := (hw.isAlive_iff (hlisted.known key hstanding)).mpr hfreed
    exact ⟨hlisted.alive key hstanding halive, halive⟩

theorem keys_sublist (owner : Owner) :
    (w.keys owner).Sublist (Journal.standing owner w.past) :=
  List.filter_sublist.trans (hw.listed owner).sublist

end JournalAccurate

end World

/-! ## Every move is told -/

namespace Move

theorem lives (h : Move floor w w') (hw : w.JournalAccurate) (o : Name) :
    .freed o ∈ w'.past ↔ w'.observers.contains o = true ∧ w'.isAlive o = false := by
  have hlives := hw.lives o
  -- Where nobody's life changes and no death is told, nothing has to be shown.
  have hsame : ∀ news : List Moment, w'.past = news ++ w.past → .freed o ∉ news →
      w'.observers.contains o = w.observers.contains o → w'.isAlive o = w.isAlive o →
      (.freed o ∈ w'.past ↔ w'.observers.contains o = true ∧ w'.isAlive o = false) := by
    intro news hpast hnews hcontains halive
    rw [hpast, List.mem_append, hcontains, halive, ← hlives]
    exact or_iff_right hnews
  cases h with
  | plain h =>
      obtain ⟨news, hpast, hplain⟩ := h.past
      have hnews : .freed o ∉ news := fun hmem => Moment.ne_freed_of_isPlain (hplain _ hmem) o rfl
      cases hknown : w.observers.contains o with
      | true => exact hsame news hpast hnews (by rw [h.known o hknown, hknown]) (h.alive o hknown)
      | false =>
          rw [hpast, List.mem_append, or_iff_right hnews, hlives, hknown]
          constructor
          · rintro ⟨hfalse, -⟩
            exact absurd hfalse (by decide)
          · rintro ⟨hmade, hdead⟩
            rw [h.born o hknown hmade] at hdead
            exact absurd hdead (by decide)
  | free x h =>
      obtain ⟨m, hm, hpast⟩ := h.past
      by_cases heq : o = x
      · subst heq
        rw [hpast, h.known o (contains_of_isAlive h.before), h.after]
        simp
      · refine hsame [.freed x, m] hpast ?_ ?_ (h.others o heq)
        · simp [heq, Ne.symm (Moment.ne_freed_of_isPlain hm o)]
        · cases hknown : w.observers.contains o with
          | true => exact h.known o hknown
          | false => exact h.strangers o hknown
  | prune owner _ =>
      exact hsame [] (past_updateRegistry w owner _) (by simp) (by simp [World.prune]) (by simp)
  | enterPass p _ _ =>
      exact hsame [_] (past_enterPass w p) (by simp) (by simp [World.enterPass, World.prune])
        (by simp)
  | invoke p e _ hdue hlive =>
      have hknown := hdue.snapshotEntry.known
      refine hsame [_, _] rfl (by simp) ?_ ?_
      · by_cases heq : o = e.key <;> simp [heq, hknown]
      · rw [isAlive_record, isAlive_hold]
        by_cases heq : o = e.key <;> simp [heq, alive_of_resolve_live hlive]
  | skip p e _ _ _ => exact hsame [_] rfl (by simp) rfl rfl
  | miss p e _ _ _ => exact hsame [_] rfl (by simp) rfl rfl
  | register owner key _ _ =>
      have hpast := past_register w owner key
      split at hpast
      · exact hsame [] hpast (by simp) (by simp) (by simp)
      · exact hsame [_] hpast (by simp) (by simp) (by simp)
  | unregister owner key _ =>
      have hpast := past_unregister w owner key
      split at hpast
      · exact hsame [_] hpast (by simp) (by simp) (by simp)
      · exact hsame [] hpast (by simp) (by simp) (by simp)

theorem serials (h : Move floor w w') (hw : w.JournalAccurate) (serial : Nat)
    (hserial : w'.passes ≤ serial) : Journal.opening? serial w'.past = none := by
  have hbefore := hw.serials serial (h.passes_le.trans hserial)
  cases h with
  | plain h =>
      obtain ⟨news, hpast, hplain⟩ := h.past
      rw [hpast, (Journal.silent_append news fun m hm =>
        Moment.silentOn_of_isPlain (hplain m hm) serial).2]
      exact hbefore
  | free o h =>
      obtain ⟨m, hm, hpast⟩ := h.past
      rw [hpast, Journal.opening?_cons rfl,
        Journal.opening?_cons (Moment.silentOn_of_isPlain hm serial).1]
      exact hbefore
  | prune owner _ => simpa [World.prune] using hbefore
  | enterPass p _ hnew =>
      rw [passes_enterPass] at hserial
      rw [past_enterPass, Journal.opening?_cons (by simp [Moment.opens?]; omega)]
      exact hbefore
  | invoke p e _ _ _ => exact hbefore
  | skip p e _ _ _ => exact hbefore
  | miss p e _ _ _ => exact hbefore
  | register owner key _ _ =>
      rw [past_register]
      split
      · exact hbefore
      · exact hbefore
  | unregister owner key _ =>
      rw [past_unregister]
      split
      · exact hbefore
      · exact hbefore

end Move

namespace World.Listed

variable {owner : Owner}

/-- Nothing happens to the registry, and nobody comes to life. -/
theorem of_same (hl : w.Listed owner) (h : Move floor w w')
    (hregistry : w'.registry owner = w.registry owner)
    (hstanding : Journal.standing owner w'.past = Journal.standing owner w.past) :
    w'.Listed owner where
  sublist := by
    rw [hregistry, hstanding]
    exact hl.sublist
  alive key hkey halive := by
    rw [hstanding] at hkey
    rw [hregistry]
    exact hl.alive key hkey (h.isAlive_of (hl.known key hkey) halive)
  nodup := by
    rw [hstanding]
    exact hl.nodup
  known key hkey := by
    rw [hstanding] at hkey
    exact h.known (hl.known key hkey)
  hosted hnot := by
    rw [hstanding]
    exact hl.hosted fun hhosts => hnot (h.hosts hhosts)

/-- The registry loses entries of the dead. -/
theorem of_prune (hl : w.Listed owner) (h : Move floor w w')
    (hregistry : w'.registry owner = (w.registry owner).prune w.isAlive)
    (hstanding : Journal.standing owner w'.past = Journal.standing owner w.past) :
    w'.Listed owner where
  sublist := by
    rw [hregistry, hstanding]
    exact (List.filter_sublist.map _).trans hl.sublist
  alive key hkey halive := by
    rw [hstanding] at hkey
    have hbefore := h.isAlive_of (hl.known key hkey) halive
    obtain ⟨e, he, rfl⟩ := List.mem_map.mp (hl.alive key hkey hbefore)
    rw [hregistry]
    exact List.mem_map_of_mem (List.mem_filter.mpr ⟨he, hbefore⟩)
  nodup := by
    rw [hstanding]
    exact hl.nodup
  known key hkey := by
    rw [hstanding] at hkey
    exact h.known (hl.known key hkey)
  hosted hnot := by
    rw [hstanding]
    exact hl.hosted fun hhosts => hnot (h.hosts hhosts)

/-- An observer that is alive and not in the registry is not in the list either. -/
theorem not_mem_of_hasKey (hl : w.Listed owner) {key : Name} (halive : w.isAlive key = true)
    (hnew : ((w.registry owner).prune w.isAlive).hasKey key = false) :
    key ∉ Journal.standing owner w.past := by
  intro hstanding
  obtain ⟨e, he, rfl⟩ := List.mem_map.mp (hl.alive key hstanding halive)
  have hhas : ((w.registry owner).prune w.isAlive).hasKey e.key = true :=
    Registry.hasKey_iff.mpr ⟨e, List.mem_filter.mpr ⟨he, halive⟩, rfl⟩
  rw [hnew] at hhas
  exact absurd hhas (by decide)

theorem of_register (hl : w.Listed owner) {key : Name} (hhosts : w.Hosts owner)
    (hown : w.isOwned key = true) : (w.register owner key).Listed owner := by
  have hmove : Move w w (w.register owner key) := .register owner key hhosts hown
  have halive := isAlive_of_isOwned hown
  have hregistry := registry_register w owner owner key
  rw [if_pos rfl, Registry.insert_eq] at hregistry
  have hpast := past_register w owner key
  cases hnew : ((w.registry owner).prune w.isAlive).hasKey key with
  | true =>
      rw [hnew, if_pos rfl] at hregistry hpast
      exact hl.of_prune hmove hregistry (by rw [hpast])
  | false =>
      rw [hnew, if_neg (by decide)] at hregistry hpast
      have hstanding : Journal.standing owner (w.register owner key).past =
          Journal.standing owner w.past ++ [key] := by
        rw [hpast, Journal.standing_cons]
        simp [Moment.relist]
      refine ⟨?_, ?_, ?_, ?_, fun hnot => absurd (hmove.hosts hhosts) hnot⟩
      · rw [hregistry, hstanding, List.map_append]
        exact ((List.filter_sublist.map _).trans hl.sublist).append (List.Sublist.refl _)
      · intro k hk hlive
        rw [isAlive_register] at hlive
        rw [hstanding, List.mem_append] at hk
        rw [hregistry, List.map_append, List.mem_append]
        rcases hk with hk | hk
        · obtain ⟨e, he, rfl⟩ := List.mem_map.mp (hl.alive k hk hlive)
          exact .inl (List.mem_map_of_mem (List.mem_filter.mpr ⟨he, hlive⟩))
        · exact .inr hk
      · rw [hpast, Journal.standing_cons]
        apply Moment.nodup_relist hl.nodup
        rintro k ⟨⟩
        exact hl.not_mem_of_hasKey halive hnew
      · intro k hk
        rw [hstanding, List.mem_append, List.mem_singleton] at hk
        rcases hk with hk | rfl
        · exact hmove.known (hl.known k hk)
        · exact hmove.known (contains_of_isAlive halive)

theorem of_unregister (hl : w.Listed owner) (key : Name) (hhosts : w.Hosts owner) :
    (w.unregister owner key).Listed owner := by
  have hmove : Move w w (w.unregister owner key) := .unregister owner key hhosts
  have hregistry := registry_unregister w owner owner key
  rw [if_pos rfl] at hregistry
  have hpast := past_unregister w owner key
  cases hhas : (w.registry owner).hasKey key with
  | false =>
      have hsame : w.unregister owner key = w := by
        unfold unregister
        rw [if_neg (by simp [hhas])]
      rw [hsame]
      exact hl
  | true =>
      rw [hhas, if_pos rfl] at hpast
      have hstanding : Journal.standing owner (w.unregister owner key).past =
          (Journal.standing owner w.past).erase key := by
        rw [hpast, Journal.standing_cons]
        simp [Moment.relist]
      have hkeys : ((w.unregister owner key).registry owner).entries.map (·.key) =
          ((w.registry owner).entries.map (·.key)).erase key := by
        rw [hregistry, Registry.keys_remove]
      refine ⟨?_, ?_, ?_, ?_, fun hnot => absurd (hmove.hosts hhosts) hnot⟩
      · rw [hkeys, hstanding]
        exact hl.sublist.erase key
      · intro k hk hlive
        rw [hstanding, hl.nodup.mem_erase_iff] at hk
        rw [isAlive_unregister] at hlive
        rw [hkeys, List.mem_erase_of_ne hk.1]
        exact hl.alive k hk.2 hlive
      · rw [hstanding]
        exact hl.nodup.erase key
      · intro k hk
        rw [hstanding] at hk
        exact hmove.known (hl.known k (List.mem_of_mem_erase hk))

end World.Listed

namespace Journal

variable {m : Moment} {past : List Moment} {p : PassInfo} {key : Name}

/-- A plain moment makes no difference to a slot. -/
theorem due_cons (hm : m.isPlain = true) : Due (m :: past) p key ↔ Due past p key := by
  obtain ⟨hopens, hturn⟩ := Moment.silentOn_of_isPlain hm p.serial
  unfold Due visitedKeys
  rw [opening?_cons hopens, turns_cons hopens, hturn]
  simp

theorem callable_cons (hm : m.isPlain = true) :
    Callable (m :: past) p key ↔ Callable past p key := by
  obtain ⟨hopens, -⟩ := Moment.silentOn_of_isPlain hm p.serial
  have hfreed : (.freed key : Moment) ≠ m := Ne.symm (Moment.ne_freed_of_isPlain hm key)
  have hremoved : (.unregistered p.registry key : Moment) ≠ m := by
    rintro rfl
    exact absurd hm (by simp [Moment.isPlain])
  unfold Callable
  rw [since_cons hopens, List.mem_cons, List.mem_cons, or_iff_right hfreed, or_iff_right hremoved]

end Journal

/-- What the pass finds at the turn of a slot is what the journal says. -/
theorem World.JournalAccurate.live_iff_callable (hw : w.JournalAccurate) {p : PassInfo} {e : Entry}
    (hentry : w.SnapshotEntry p e) :
    w.resolve p.registry p.removal e = .live ↔ Journal.Callable w.past p e.key := by
  rw [hentry.resolve_live_iff, hw.isAlive_iff hentry.known]
  rfl

namespace Move

theorem listed (h : Move floor w w') (hw : w.JournalAccurate) (owner : Owner) :
    w'.Listed owner := by
  have hl := hw.listed owner
  have hmove := h
  cases h with
  | plain h =>
      obtain ⟨news, hpast, hplain⟩ := h.past
      have hstanding : Journal.standing owner w'.past = Journal.standing owner w.past := by
        rw [hpast, Journal.standing_append hplain]
      rcases h.registry owner with hsame | ⟨hnot, hempty⟩
      · exact hl.of_same hmove hsame hstanding
      · rw [hl.hosted hnot] at hstanding
        exact ⟨by rw [hempty, hstanding]; exact List.Sublist.refl [], by simp [hstanding],
          by simp [hstanding], by simp [hstanding], fun _ => hstanding⟩
  | free o h =>
      obtain ⟨m, hm, hpast⟩ := h.past
      refine hl.of_same hmove (h.registry owner) ?_
      rw [hpast, Journal.standing_cons, Journal.standing_cons, Moment.relist_of_isPlain hm]
      rfl
  | prune target _ =>
      have hstanding : Journal.standing owner (w.prune target).past =
          Journal.standing owner w.past := by
        simp [World.prune]
      have hregistry := registry_prune w target owner
      split at hregistry
      next heq => exact hl.of_prune hmove (heq ▸ hregistry) hstanding
      next => exact hl.of_same hmove hregistry hstanding
  | enterPass p _ _ =>
      have hstanding : Journal.standing owner (w.enterPass p).past =
          Journal.standing owner w.past := by
        rw [past_enterPass]
        rfl
      have hregistry := registry_enterPass w p owner
      split at hregistry
      next heq => exact hl.of_prune hmove (heq ▸ hregistry) hstanding
      next => exact hl.of_same hmove hregistry hstanding
  | invoke p e _ _ _ => exact hl.of_same hmove (by simp) rfl
  | skip p e _ _ _ => exact hl.of_same hmove (by simp) rfl
  | miss p e _ _ _ => exact hl.of_same hmove (by simp) rfl
  | register target key hhosts hown =>
      by_cases heq : owner = target
      · subst heq
        exact hl.of_register hhosts hown
      · refine hl.of_same hmove (by rw [registry_register, if_neg heq]) ?_
        rw [past_register]
        split
        · rfl
        · simp [Moment.relist, Ne.symm heq]
  | unregister target key hhosts =>
      by_cases heq : owner = target
      · subst heq
        exact hl.of_unregister key hhosts
      · refine hl.of_same hmove (by rw [registry_unregister, if_neg heq]) ?_
        rw [past_unregister]
        split
        · simp [Moment.relist, Ne.symm heq]
        · rfl

theorem orderly (h : Move floor w w') (hw : w.JournalAccurate) : Journal.Orderly w'.past := by
  have hpast := hw.orderly
  cases h with
  | plain h =>
      obtain ⟨news, hnews, hplain⟩ := h.past
      rw [hnews]
      exact hpast.append hplain
  | free o h =>
      obtain ⟨m, hm, hnews⟩ := h.past
      rw [hnews]
      exact ⟨trivial, Moment.justified_of_isPlain hm _, hpast⟩
  | prune owner _ =>
      rw [World.prune, past_updateRegistry]
      exact hpast
  | enterPass p _ hserial =>
      rw [past_enterPass]
      exact ⟨⟨hw.serials p.serial hserial.ge, hw.keys_sublist p.registry,
        fun key => hw.mem_keys_iff⟩, hpast⟩
  | invoke p e _ hdue hlive =>
      have hplain : (Moment.held e.key).isPlain = true := rfl
      refine ⟨⟨(Journal.due_cons hplain).mpr hdue.next, ?_⟩, trivial, hpast⟩
      exact (Journal.callable_cons hplain).mpr ((hw.live_iff_callable hdue.snapshotEntry).mp hlive)
  | skip p e _ hdue hgone =>
      refine ⟨⟨hdue.next, fun hcallable => ?_⟩, hpast⟩
      rw [(hw.live_iff_callable hdue.snapshotEntry).mpr hcallable] at hgone
      exact absurd hgone (by decide)
  | miss p e _ hdue hdead =>
      refine ⟨⟨hdue.next, fun hcallable => ?_⟩, hpast⟩
      rw [(hw.live_iff_callable hdue.snapshotEntry).mpr hcallable] at hdead
      exact absurd hdead (by decide)
  | register owner key _ hown =>
      have halive := isAlive_of_isOwned hown
      rw [past_register]
      split
      next => exact hpast
      next hnew =>
        refine ⟨⟨(hw.listed owner).not_mem_of_hasKey halive (by simpa using hnew), ?_⟩, hpast⟩
        exact (hw.isAlive_iff (contains_of_isAlive halive)).mp halive
  | unregister owner key _ =>
      rw [past_unregister]
      split
      next hhas =>
        obtain ⟨e, he, rfl⟩ := Registry.hasKey_iff.mp hhas
        exact ⟨(hw.listed owner).sublist.subset (List.mem_map_of_mem he), hpast⟩
      next => exact hpast

theorem journalAccurate (h : Move floor w w') (hw : w.JournalAccurate) : w'.JournalAccurate :=
  ⟨h.lives hw, h.listed hw, h.serials hw, h.orderly hw⟩

end Move

theorem Evolves.journalAccurate (h : Evolves floor w w') (hw : w.JournalAccurate) :
    w'.JournalAccurate := by
  induction h with
  | refl => exact hw
  | tail _ hstep ih => exact hstep.move.journalAccurate ih

theorem Reached.journalAccurate (h : Reached w) : w.JournalAccurate :=
  Evolves.journalAccurate h.leads .empty

end ChangeNotice
