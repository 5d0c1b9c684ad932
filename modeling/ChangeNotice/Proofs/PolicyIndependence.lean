import ChangeNotice.Proofs.Client

/-! # Runs that do not depend on removal policies

Two runs are followed at once, in worlds that differ only by removal policies. They do
the same as long as the policies cannot make a difference: as long as nobody is removed
from a registry during a pass over it. Then every entry of the snapshot still stands when
its turn comes, unless its observer has died, and the dead are not called under either
policy.
-/

namespace ChangeNotice

open World

namespace Journal

/-- Nobody was removed from a registry between the beginning and the end of a pass over it. -/
def Undisturbed (past : List Moment) : Prop :=
  ∀ later owner key earlier, past = later ++ .unregistered owner key :: earlier →
    ∀ p slots q, p.registry = owner → .passEntered p slots ∈ earlier → .passLeft q ∈ later →
      q.serial ≠ p.serial

variable {news past : List Moment}

theorem Undisturbed.of_append (h : Undisturbed (news ++ past)) : Undisturbed past := by
  intro later owner key earlier hpast p slots q hp hentered hleft
  refine h (news ++ later) owner key earlier ?_ p slots q hp hentered ?_
  · rw [hpast, List.append_assoc]
  · exact List.mem_append_right _ hleft

/-- What was written since a pass took its snapshot is either new or was there before. -/
theorem mem_since_append {serial : Nat} {m : Moment} (h : m ∈ since serial (news ++ past)) :
    m ∈ news ∨ m ∈ since serial past := by
  unfold since at h
  rw [List.takeWhile_append] at h
  split at h
  · exact List.mem_append.mp h
  · exact .inl ((List.takeWhile_prefix _).subset h)

/-- Nobody was removed during a pass that has ended. -/
theorem Undisturbed.of_pass {p : PassInfo} {slots : List Name} {ending : List Moment}
    (h : Undisturbed (ending ++ news ++ .passEntered p slots :: past))
    (hleft : .passLeft p ∈ ending) (key : Name) : .unregistered p.registry key ∉ news := by
  intro hmem
  obtain ⟨later, earlier, rfl⟩ := List.append_of_mem hmem
  refine h (ending ++ later) p.registry key (earlier ++ .passEntered p slots :: past) ?_
    p slots p rfl ?_ ?_ rfl
  · simp
  · exact List.mem_append_right _ List.mem_cons_self
  · exact List.mem_append_left _ hleft

/-- The registry that an observer is removed from. -/
def removedFrom? : Moment → Option Owner
  | .unregistered owner _ => some owner
  | _ => none

/-- The registry that a pass begins on. -/
def passOver? : Moment → Option Owner
  | .passEntered p _ => some p.registry
  | _ => none

theorem Undisturbed.of_apart
    (h : ∀ owner ∈ past.filterMap removedFrom?, owner ∉ past.filterMap passOver?) :
    Undisturbed past := by
  rintro later owner key earlier rfl p slots q rfl hentered -
  have hremoved : p.registry ∈
      (later ++ .unregistered p.registry key :: earlier).filterMap removedFrom? := by
    refine List.mem_filterMap.mpr ⟨.unregistered p.registry key, ?_, rfl⟩
    exact List.mem_append_right _ List.mem_cons_self
  have hpass : p.registry ∈
      (later ++ .unregistered p.registry key :: earlier).filterMap passOver? := by
    refine List.mem_filterMap.mpr ⟨.passEntered p slots, ?_, rfl⟩
    exact List.mem_append_right _ (List.mem_cons_of_mem _ hentered)
  exact absurd hpass (h _ hremoved)

end Journal

theorem World.Leads.past {w v : World} (h : w.Leads v) : ∃ news, v.past = news ++ w.past := by
  obtain ⟨news, hpast, -⟩ := Evolves.news h le_rfl
  exact ⟨news, hpast⟩

theorem World.Leads.undisturbed {w v : World} (h : w.Leads v)
    (hv : Journal.Undisturbed v.past) : Journal.Undisturbed w.past := by
  obtain ⟨news, hpast⟩ := h.past
  rw [hpast] at hv
  exact hv.of_append

/-! ## Runs that cannot be told apart -/

/-- Results that show the same have both come about, or the same went wrong. -/
theorem cases_of_map {ε α γ : Type} {f : α → γ} {x x' : Except ε α} (h : x.map f = x'.map f) :
    (∃ a a', x = .ok a ∧ x' = .ok a' ∧ f a = f a') ∨ ∃ e, x = .error e ∧ x' = .error e := by
  cases x with
  | ok a =>
      cases x' with
      | ok a' => exact .inl ⟨a, a', rfl, rfl, Except.ok.inj h⟩
      | error e' => exact nomatch h
  | error e =>
      cases x' with
      | ok a' => exact nomatch h
      | error e' => exact .inr ⟨e, rfl, congrArg Except.error (Except.error.inj h).symm⟩

theorem map_eq_of_map {ε α β γ : Type} {f : α → γ} {l l' : α → β} {x x' : Except ε α}
    (hl : ∀ a a', f a = f a' → l a = l' a') (h : x.map f = x'.map f) : x.map l = x'.map l' := by
  obtain ⟨a, a', rfl, rfl, hsame⟩ | ⟨e, rfl, rfl⟩ := cases_of_map h
  · exact congrArg Except.ok (hl a a' hsame)
  · rfl

theorem map_map_of_map {ε α β γ δ : Type} {f : α → γ} {g : β → δ} {l l' : α → β} {x x' : Except ε α}
    (hl : ∀ a a', f a = f a' → g (l a) = g (l' a')) (h : x.map f = x'.map f) :
    (x.map l).map g = (x'.map l').map g := by
  obtain ⟨a, a', rfl, rfl, hsame⟩ | ⟨e, rfl, rfl⟩ := cases_of_map h
  · exact congrArg Except.ok (hl a a' hsame)
  · rfl

namespace Run

variable {α β γ δ : Type} {w w' : World}

/-- From these worlds on the two runs do the same, if nobody is removed during a pass: they end
alike, and what `f` shows of their results is the same. -/
def AlikeFrom (f : α → γ) (w w' : World) (m m' : Run α) : Prop :=
  Journal.Undisturbed (m w).2.past →
    (m w).1.map f = (m' w').1.map f ∧ (m w).2.erased = (m' w').2.erased

namespace AlikeFrom

variable {f : α → γ} {g : β → δ} {m m' : Run α} {r r' : α → Run β}

theorem pure {a a' : α} (halike : w.erased = w'.erased) (h : f a = f a') :
    AlikeFrom f w w' (Pure.pure a) (Pure.pure a') :=
  fun _ => ⟨congrArg Except.ok h, halike⟩

theorem read {l l' : World → α} (halike : w.erased = w'.erased) (h : f (l w) = f (l' w')) :
    AlikeFrom f w w' (Run.read l) (Run.read l') :=
  fun _ => ⟨congrArg Except.ok h, halike⟩

theorem unwind (halike : w.erased = w'.erased) (e : Unwind) :
    AlikeFrom f w w' (Run.unwind e) (Run.unwind e) :=
  fun _ => ⟨rfl, halike⟩

theorem change {l l' : World → World} (h : (l w).erased = (l' w').erased) :
    AlikeFrom id w w' (Run.change l) (Run.change l') :=
  fun _ => ⟨rfl, h⟩

theorem read_bind {l l' : World → α} (h : AlikeFrom g w w' (r (l w)) (r' (l' w'))) :
    AlikeFrom g w w' (Run.read l >>= r) (Run.read l' >>= r') := h

theorem change_bind {l l' : World → World} {r r' : Unit → Run β}
    (h : AlikeFrom g (l w) (l' w') (r ()) (r' ())) :
    AlikeFrom g w w' (Run.change l >>= r) (Run.change l' >>= r') := h

/-- The first part of an undisturbed journal is undisturbed. -/
theorem bind (h : AlikeFrom f w w' m m')
    (hpast : ∀ a v, m w = (.ok a, v) → ∃ news, (r a v).2.past = news ++ v.past)
    (hr : ∀ a a' v v', m w = (.ok a, v) → f a = f a' → v.erased = v'.erased →
      AlikeFrom g v v' (r a) (r' a')) :
    AlikeFrom g w w' (m >>= r) (m' >>= r') := by
  intro hcalm
  unfold AlikeFrom at h
  rw [bind_apply] at hcalm
  rw [bind_apply, bind_apply]
  cases hrun : m w with
  | mk result v =>
      rw [hrun] at h hcalm
      cases result with
      | error e =>
          obtain ⟨hsame, halike⟩ := h hcalm
          rcases cases_of_map hsame with ⟨_, _, ⟨⟩, _⟩ | ⟨e, ⟨⟩, hfailed⟩
          rw [show m' w' = (.error e, (m' w').2) from Prod.ext hfailed rfl]
          exact ⟨rfl, halike⟩
      | ok a =>
          obtain ⟨news, hnews⟩ := hpast a v hrun
          obtain ⟨hsame, halike⟩ := h (hnews ▸ hcalm).of_append
          rcases cases_of_map hsame with ⟨_, a', ⟨⟩, hdone, hseen⟩ | ⟨_, ⟨⟩, _⟩
          rw [show m' w' = (.ok a', (m' w').2) from Prod.ext hdone rfl]
          exact hr a a' v _ hrun hseen halike hcalm

theorem map {l k : α → β} (h : AlikeFrom f w w' m m')
    (hl : ∀ a a', f a = f a' → g (l a) = g (k a')) :
    AlikeFrom g w w' (m >>= fun a => Pure.pure (l a)) (m' >>= fun a => Pure.pure (k a)) := by
  intro hcalm
  rw [bind_pure_apply] at hcalm
  rw [bind_pure_apply, bind_pure_apply]
  obtain ⟨hsame, halike⟩ := h hcalm
  exact ⟨map_map_of_map hl hsame, halike⟩

theorem weaken {k : α → δ} (h : AlikeFrom f w w' m m') (hk : ∀ a a', f a = f a' → k a = k a') :
    AlikeFrom k w w' m m' :=
  fun hcalm => ⟨map_eq_of_map hk (h hcalm).1, (h hcalm).2⟩

theorem congr {n n' : Run α} (h : AlikeFrom f w w' m m') (hn : n w = m w) (hn' : n' w' = m' w') :
    AlikeFrom f w w' n n' := by
  unfold AlikeFrom
  rw [hn, hn']
  exact h

theorem ensuring (h : AlikeFrom f w w' m m') (after : World → World)
    (hpast : ∀ v : World, ∃ news, (after v).past = news ++ v.past)
    (hafter : ∀ v : World, (after v).erased = after v.erased) :
    AlikeFrom f w w' (Run.ensuring m after) (Run.ensuring m' after) := by
  intro hcalm
  obtain ⟨news, hnews⟩ := hpast (m w).2
  rw [ensuring_apply] at hcalm
  rw [ensuring_apply, ensuring_apply]
  obtain ⟨hsame, halike⟩ := h (hnews ▸ hcalm).of_append
  exact ⟨hsame, alike_of_comm hafter halike⟩

theorem holding {o : Name} (h : AlikeFrom f (w.hold o) (w'.hold o) m m') :
    AlikeFrom f w w' (Run.holding o m) (Run.holding o m') := by
  refine h.ensuring (·.unhold o) (fun v => ?_) fun v => erased_unhold v o
  rw [past_unhold]
  split
  · exact ⟨[_], rfl⟩
  · exact ⟨[_, _], rfl⟩

theorem keeping {guard : Nat} (h : AlikeFrom f (w.keepGuard guard) (w'.keepGuard guard) m m') :
    AlikeFrom f w w' (Run.keeping guard m) (Run.keeping guard m') :=
  h.ensuring (·.leaveGuard guard) (fun v => ⟨[], (World.Aside.leaveGuard guard).past_eq v⟩)
    fun v => erased_leaveGuard v guard

theorem catching {m m' : Run Unit} (h : AlikeFrom id w w' m m') :
    AlikeFrom id w w' (Run.catching m) (Run.catching m') := by
  have hworld : ∀ (m : Run Unit) w, (Run.catching m w).2 = (m w).2 := by
    intro m w
    unfold Run.catching
    split <;> simp_all
  intro hcalm
  rw [hworld] at hcalm
  obtain ⟨hsame, halike⟩ := h hcalm
  rw [hworld, hworld]
  refine ⟨?_, halike⟩
  unfold Run.catching
  cases hrun : m w with
  | mk result v =>
      cases hrun' : m' w' with
      | mk result' v' =>
          rw [hrun, hrun'] at hsame
          rcases cases_of_map hsame with ⟨a, a', rfl, rfl, -⟩ | ⟨e, rfl, rfl⟩
          · rfl
          · cases e <;> rfl

end AlikeFrom

end Run

open Run

/-! ## Passes -/

/-- An entry that still stands or whose observer has died is resolved in the same way under all
policies: the observer is called if it is alive. -/
theorem World.resolve_live_iff_of_stands {w : World} {owner : Owner} {e : Entry}
    (h : e ∈ (w.registry owner).entries ∨ w.isAlive e.key = false) (removal : Removal) :
    w.resolve owner removal e = .live ↔ w.isAlive e.key = true := by
  unfold resolve Registry.resolve
  rcases h with he | hdead
  · rw [Registry.isCurrent_of_mem he]
    cases w.isAlive e.key <;> simp
  · rw [hdead]
    split <;> simp

namespace Pass

/-- What a turn shows: whether the observer was called, and its answer. -/
def turnShows (t : Resolved × Option Verdict) : Bool × Option Verdict := (t.1 = .live, t.2)

/-- What a pass shows: its report, and the answers. -/
def shows (told : Report × List Verdict) : Report × List Verdict := (told.1.erased, told.2)

theorem erased_count {r r' : Report} {t t' : Resolved × Option Verdict} (hr : r.erased = r'.erased)
    (ht : turnShows t = turnShows t') : (count r t).erased = (count r' t').erased := by
  obtain ⟨hdelivered, -, hskipped, hunsupported⟩ := Report.mk.inj hr
  obtain ⟨found, answer⟩ := t
  obtain ⟨found', answer'⟩ := t'
  obtain ⟨hlive, rfl⟩ := Prod.mk.inj ht
  simp only [Report.skipped] at hskipped
  cases found <;> cases found' <;> cases answer <;>
    simp_all [count, Report.countVisit, Report.erased, Report.skipped] <;> omega

theorem shows_addTurn {t t' : Resolved × Option Verdict} {told told' : Report × List Verdict}
    (ht : turnShows t = turnShows t') (htold : shows told = shows told') :
    shows (addTurn t told) = shows (addTurn t' told') := by
  obtain ⟨hreport, hanswers⟩ := Prod.mk.inj htold
  have hanswer : t.2 = t'.2 := (Prod.mk.inj ht).2
  unfold shows addTurn
  rw [erased_count hreport ht, hanswers, hanswer]

variable {origin w w' : World} {p p' : PassInfo} {visit visit' : Name → Run (Option Verdict)}
  {e : Entry} {rest : Snapshot}

/-- From worlds that are alike, both visits do the same to an observer that is held. -/
def VisitsAlike (origin : World) (visit visit' : Name → Run (Option Verdict)) : Prop :=
  ∀ v v' o, origin.Settles v → 0 < (v.observer o).holds → v.erased = v'.erased →
    AlikeFrom id v v' (visit o) (visit' o)

/-- An observer that is not called leaves a trace that is the same for all reasons. -/
theorem turn_of_gone (visit : Name → Run (Option Verdict))
    (hgone : w.resolve p.registry p.removal e ≠ .live) :
    ∃ found m, found ≠ .live ∧ m.erased = .missing p.erased e.key ∧
      turn p visit e w = (.ok (found, none), w.record m) := by
  cases hfound : w.resolve p.registry p.removal e with
  | live => exact absurd hfound hgone
  | unregistered =>
      exact ⟨.unregistered, .skipping p e.key, by decide, rfl, turn_unregistered visit hfound⟩
  | dropped => exact ⟨.dropped, .missing p e.key, by decide, rfl, turn_dropped visit hfound⟩

/-- A turn is the same in both worlds, if nobody has been removed since the snapshot. -/
theorem turn_alike (hp : p.erased = p'.erased) (hvisit : VisitsAlike origin visit visit')
    (h : Underway origin w p (e :: rest)) (halike : w.erased = w'.erased)
    (hkept : ∀ key, .unregistered p.registry key ∉ Journal.since p.serial w.past) :
    AlikeFrom turnShows w w' (turn p visit e) (turn p' visit' e) := by
  have hregistry : p'.registry = p.registry := (congrArg PassInfo.registry hp.symm :)
  have hstands : e ∈ (w.registry p.registry).entries ∨ w.isAlive e.key = false := by
    rcases h.due.snapshotEntry.entry.stands (hkept e.key) with he | ⟨-, hdead⟩
    · exact .inl he
    · exact .inr (by simpa using hdead)
  have hstands' : e ∈ (w'.registry p'.registry).entries ∨ w'.isAlive e.key = false := by
    rw [hregistry, ← (PolicyFree.registry p.registry).same halike, ← PolicyFree.isAlive.same halike]
    exact hstands
  have hsame : w'.isAlive e.key = w.isAlive e.key := by rw [PolicyFree.isAlive.same halike]
  cases halive : w.isAlive e.key with
  | true =>
      have hlive := (resolve_live_iff_of_stands hstands p.removal).mpr halive
      have hlive' := (resolve_live_iff_of_stands hstands' p'.removal).mpr (hsame.trans halive)
      have hinvoked : ((w.hold e.key).record (.invoking p e.key)).erased =
          ((w'.hold e.key).record (.invoking p' e.key)).erased := by
        rw [erased_record, erased_record, erased_hold, erased_hold, halike]
        exact congrArg (fun q => record _ (.invoking q e.key)) hp
      have hheld : AlikeFrom id w w'
          (Run.holding e.key (Run.note (.invoking p e.key) >>= fun _ => visit e.key))
          (Run.holding e.key (Run.note (.invoking p' e.key) >>= fun _ => visit' e.key)) :=
        .holding (hvisit _ _ e.key (h.invoked hlive) (by simp) hinvoked)
      apply (hheld.map (l := (.live, ·)) (k := (.live, ·)) fun a a' hsame => ?_).congr
      · simp only [turn, bind_apply, read_apply, hlive]
      · simp only [turn, bind_apply, read_apply, hlive']
      · exact congrArg (true, ·) hsame
  | false =>
      have hgone : w.resolve p.registry p.removal e ≠ .live := by
        rw [Ne, resolve_live_iff_of_stands hstands, halive]
        exact Bool.false_ne_true
      have hgone' : w'.resolve p'.registry p'.removal e ≠ .live := by
        rw [Ne, resolve_live_iff_of_stands hstands', hsame, halive]
        exact Bool.false_ne_true
      obtain ⟨found, m, hfound, hm, hturn⟩ := turn_of_gone visit hgone
      obtain ⟨found', m', hfound', hm', hturn'⟩ := turn_of_gone visit' hgone'
      intro _
      rw [hturn, hturn']
      constructor
      · simp [Except.map, turnShows, hfound, hfound']
      · rw [erased_record, erased_record, halike, hm, hm', hp]

/-- The whole walk, by one turn after the other: as long as nobody is removed, what stands at one
turn stands at the next. -/
theorem walk_alike (hp : p.erased = p'.erased) (hsound : origin.Sound)
    (htracks : VisitsTrack origin visit visit) (hvisit : VisitsAlike origin visit visit')
    (slots : Snapshot) (h : Underway origin w p slots) (halike : w.erased = w'.erased)
    (hkept : ∀ key, .unregistered p.registry key ∉ Journal.since p.serial w.past)
    (hnews : ∀ news, (walk p visit slots w).2.past = news ++ w.past →
      ∀ key, .unregistered p.registry key ∉ news) :
    AlikeFrom shows w w' (walk p visit slots) (walk p' visit' slots) := by
  induction slots generalizing w w' with
  | nil => exact .pure halike rfl
  | cons e rest ih =>
      obtain ⟨-, htaken⟩ := turn_taken h hsound htracks
      have hrest : ∀ t v, turn p visit e w = (.ok t, v) →
          (walk p visit (e :: rest) w).2 = (walk p visit rest v).2 ∧
            Underway origin v p rest ∧ ∃ news, (walk p visit rest v).2.past = news ++ v.past := by
        intro t v hrun
        rw [hrun] at htaken
        obtain ⟨-, hevolves, -⟩ := walk_tracks hsound htracks rest htaken.underway
        obtain ⟨news, hpast, -⟩ := Evolves.news hevolves htaken.underway.settles.leads.below.passes
        rw [walk_cons_apply, hrun]
        exact ⟨rfl, htaken.underway, news, hpast⟩
      obtain ⟨first, hfirst, -⟩ := Evolves.news htaken.evolves h.settles.leads.below.passes
      rw [walk_cons, walk_cons]
      refine (turn_alike hp hvisit h halike hkept).bind (fun t v hrun => ?_) ?_
      · obtain ⟨-, -, news, hpast⟩ := hrest t v hrun
        rw [bind_pure_apply]
        exact ⟨news, hpast⟩
      · intro t t' v v' hrun hturn halike'
        obtain ⟨hend, hunderway, second, hsecond⟩ := hrest t v hrun
        rw [hrun] at hfirst
        -- nobody is removed during this turn, nor during those that follow
        have hcalm : ∀ news, (walk p visit rest v).2.past = news ++ v.past →
            ∀ key, .unregistered p.registry key ∉ news ++ first := by
          intro news hpast
          apply hnews
          rw [hend, hpast, hfirst, List.append_assoc]
        refine (ih hunderway halike' (fun key hmem => ?_) fun news hpast key hmem => ?_).map
          fun told told' htold => shows_addTurn hturn htold
        · rw [hfirst] at hmem
          rcases Journal.mem_since_append hmem with hmem | hmem
          · exact hcalm second hsecond key (List.mem_append_right _ hmem)
          · exact hkept key hmem
        · exact hcalm news hpast key (List.mem_append_left _ hmem)

theorem leave_alike (hp : p.erased = p'.erased)
    {outcome outcome' : Except Unwind (Report × List Verdict) × World}
    (hresult : outcome.1.map shows = outcome'.1.map shows)
    (halike : outcome.2.erased = outcome'.2.erased) :
    (leave p outcome).1.map shows = (leave p' outcome').1.map shows ∧
      (leave p outcome).2.erased = (leave p' outcome').2.erased := by
  obtain ⟨result, v⟩ := outcome
  obtain ⟨result', v'⟩ := outcome'
  obtain ⟨told, told', rfl, rfl, hshows⟩ | ⟨x, rfl, rfl⟩ := cases_of_map hresult
  · have hreport : told.1.erased = told'.1.erased := (Prod.mk.inj hshows).1
    refine ⟨hresult, ?_⟩
    simp only [leave, erased_record, Moment.erased]
    rw [hp, hreport, halike]
  · refine ⟨hresult, ?_⟩
    simp only [leave, erased_record, Moment.erased]
    rw [hp, halike]

/-- A pass over a registry that has been made does not depend on removal policies. -/
theorem start_alike {registry issuer : Owner} {t : Thread} {dispatcher dispatcher' : Dispatcher}
    {kind : Kind} {depth : Nat} (hsound : w.Sound) (hhosts : w.Hosts registry)
    (hdispatcher : dispatcher.erased = dispatcher'.erased) (halike : w.erased = w'.erased)
    (htracks : VisitsTrack w visit visit) (hvisit : VisitsAlike w visit visit') :
    AlikeFrom shows w w' (start registry issuer t dispatcher kind depth visit)
      (start registry issuer t dispatcher' kind depth visit') := by
  obtain ⟨p, hp⟩ : ∃ p, p = infoOf registry issuer t dispatcher kind depth w := ⟨_, rfl⟩
  obtain ⟨p', hp'⟩ : ∃ p', p' = infoOf registry issuer t dispatcher' kind depth w' := ⟨_, rfl⟩
  have herased : p.erased = p'.erased := by
    have hpasses : w.passes = w'.passes := (congrArg World.passes halike :)
    have hdocument : dispatcher.document = dispatcher'.document :=
      (congrArg Dispatcher.document hdispatcher :)
    rw [hp, hp', infoOf, infoOf, hpasses, hdocument]
    rfl
  have hslots : snapshotOf w' registry = snapshotOf w registry := by
    unfold snapshotOf
    rw [(PolicyFree.registry registry).same halike, PolicyFree.isAlive.same halike]
  have hentered : (w.enterPass p).erased = (w'.enterPass p').erased := by
    rw [erased_enterPass, erased_enterPass, halike, herased]
  have hregistry : p.registry = registry := by rw [hp, infoOf]
  have hunderway : Underway w (w.enterPass p) p (snapshotOf w registry) := by
    have h := enterPass_underway (p := p) hsound (hregistry ▸ hhosts) (by rw [hp, infoOf])
    rwa [hregistry] at h
  intro hcalm
  rw [start_apply visit hp] at hcalm
  rw [start_apply visit hp, start_apply visit' hp', hslots]
  -- whoever is removed before the end of the pass is removed during the pass
  have hending := past_leave p (walk p visit (snapshotOf w registry) (w.enterPass p)).1
    (walk p visit (snapshotOf w registry) (w.enterPass p)).2
  have hwalk := walk_alike herased hsound htracks hvisit (snapshotOf w registry) hunderway hentered
    (fun key => ?_) fun news hpast => ?_
  · rw [hending] at hcalm
    obtain ⟨hresult, halike'⟩ := hwalk hcalm.of_append
    exact leave_alike herased hresult halike'
  · have hopens : (Moment.passEntered p (w.keys p.registry)).opens? p.serial =
        some (p, w.keys p.registry) := by
      simp [Moment.opens?]
    rw [past_enterPass, Journal.since_cons_of_opens hopens]
    exact List.not_mem_nil
  · rw [hending, hpast, past_enterPass, ← List.append_assoc] at hcalm
    exact hcalm.of_pass (List.mem_reverse.mpr (passLeft_mem_closing p _))

end Pass

/-! ## Notifications and passes by hand -/

/-- The handlers do the same whatever the removal policies are. -/
def Handlers.Alike (handle handle' : Handlers) : Prop :=
  ∀ v v' : World, v.Sound → v.erased = v'.erased → ∀ t d o n,
    AlikeFrom id v v' (handle t d o n) (handle' t d o n)

variable {α γ : Type} {w w' : World} {handle handle' : Handlers}

/-- Code of clients only adds to the journal. -/
theorem Client.past {m : Run α} (hm : Client m) (hsound : w.Sound) :
    ∃ news, (m w).2.past = news ++ w.past :=
  (hm.tracks hsound).leads.past

theorem Dispatcher.enter?_erased (dispatcher : Dispatcher) (t : Thread) :
    dispatcher.erased.enter? t = (dispatcher.enter? t).map fun slot => (slot.1, slot.2.erased) := by
  have hfull : dispatcher.erased.isFull t = dispatcher.isFull t := rfl
  unfold enter?
  rw [hfull]
  cases dispatcher.isFull t <;> rfl

theorem Dispatcher.enter?_alike {dispatcher dispatcher' : Dispatcher}
    (halike : dispatcher.erased = dispatcher'.erased) (t : Thread) :
    dispatcher.enter? t = none ∧ dispatcher'.enter? t = none ∨
      ∃ depth left left', dispatcher.enter? t = some (depth, left) ∧
        dispatcher'.enter? t = some (depth, left') ∧ left.erased = left'.erased := by
  have hslot := dispatcher.enter?_erased t
  rw [halike, dispatcher'.enter?_erased t] at hslot
  cases h : dispatcher.enter? t with
  | none =>
      rw [h] at hslot
      exact .inl ⟨rfl, Option.map_eq_none_iff.mp hslot⟩
  | some slot =>
      rw [h] at hslot
      obtain ⟨slot', h', hslot'⟩ := Option.map_eq_some_iff.mp hslot
      obtain ⟨hdepth, hleft⟩ := Prod.mk.inj hslot'
      exact .inr ⟨slot.1, slot.2, slot'.2, rfl, by rw [h', ← hdepth], hleft.symm⟩

namespace Notify

variable {t : Thread} {d : Name} {n : Notice}

theorem deliver_alike (hh : handle.Alike handle') (hsound : w.Sound)
    (halike : w.erased = w'.erased) (o : Name) :
    AlikeFrom id w w' (deliver handle t d n o) (deliver handle' t d n o) := by
  have hsupports : (w.observer o).supports n.kind = (w'.observer o).supports n.kind :=
    PolicyFree.same (l := fun v => (v.observer o).supports n.kind)
      (fun v => supports_erased v o n.kind) halike
  have hcall : w.callOf t d o n = w'.callOf t d o n :=
    PolicyFree.same (l := fun v => v.callOf t d o n) (fun v => callOf_erased v o d t n) halike
  have hcalled : (w.record (.called (w.callOf t d o n))).erased =
      (w'.record (.called (w.callOf t d o n))).erased := by
    rw [erased_record, erased_record, halike]
  rw [deliver_eq, deliver_eq]
  apply AlikeFrom.read_bind
  rw [← hsupports]
  cases (w.observer o).supports n.kind with
  | false => exact .pure halike rfl
  | true =>
      apply AlikeFrom.read_bind
      rw [← hcall]
      apply AlikeFrom.change_bind
      have hrecorded : (w.record (.called (w.callOf t d o n))).Sound :=
        hsound.of_same (registry_record w _) rfl
      refine (hh _ _ hrecorded hcalled t d o n).bind ?_ ?_
      · exact fun a v _ => ⟨[_], rfl⟩
      · rintro a _ v v' _ ⟨⟩ halike'
        apply AlikeFrom.change_bind
        exact .pure (by rw [erased_record, erased_record, halike']) rfl

theorem announce_alike (hclient : handle.Client) (hh : handle.Alike handle') (hsound : w.Sound)
    (hdocument : w.documents.contains d = true) (halike : w.erased = w'.erased) (depth : Nat) :
    AlikeFrom Pass.shows w w' (announce handle t d n depth) (announce handle' t d n depth) := by
  have hdispatcher : (w.document d).dispatcher.erased = (w'.document d).dispatcher.erased :=
    ((PolicyFree.document d).map Document.dispatcher).same halike
  have hhosts : w.Hosts (.document d) := hdocument
  apply AlikeFrom.read_bind
  apply Pass.start_alike hsound hhosts hdispatcher halike
  · exact fun v o hv => deliver_tracks (hclient.track (Evolves.sound hv.leads hsound)) n
  · exact fun v v' o hv _ halike' => deliver_alike hh (Evolves.sound hv.leads hsound) halike' o

/-- A notification is followed from where its document has been prepared. -/
theorem withSlot_alike {f : Except NotifyError α → γ}
    {body body' : Nat → Run (Except NotifyError α)} (rest rest' : Nat → Run (Except NotifyError α))
    (hbody : ∀ depth v, body depth v = rest depth (v.prepare d n))
    (hbody' : ∀ depth v, body' depth v = rest' depth (v.prepare d n))
    (halike : w.erased = w'.erased)
    (hrest : ∀ depth left v', (w.document d).dispatcher.enter? t = some (depth, left) →
      ((w.takeSlot d t n left).prepare d n).erased = v'.erased →
      AlikeFrom f ((w.takeSlot d t n left).prepare d n) v' (rest depth) (rest' depth)) :
    AlikeFrom f w w' (withSlot t d n body) (withSlot t d n body') := by
  have hdispatcher : (w.document d).dispatcher.erased = (w'.document d).dispatcher.erased :=
    ((PolicyFree.document d).map Document.dispatcher).same halike
  have hid : (w.document d).id = (w'.document d).id :=
    ((PolicyFree.document d).map Document.id).same halike
  have hlimit : (w.document d).dispatcher.maxDepth = (w'.document d).dispatcher.maxDepth :=
    (congrArg Dispatcher.maxDepth hdispatcher :)
  rcases Dispatcher.enter?_alike hdispatcher t with
    ⟨hfull, hfull'⟩ | ⟨depth, left, left', h, h', hleft⟩
  · intro _
    rw [withSlot_full hfull, withSlot_full hfull', hid, hlimit, erased_record, erased_record,
      halike]
    exact ⟨rfl, rfl⟩
  · have htaken : ((w.takeSlot d t n left).prepare d n).erased =
        ((w'.takeSlot d t n left').prepare d n).erased := by
      rw [erased_prepare, erased_prepare, erased_takeSlot, erased_takeSlot, halike, hleft]
    have hreleased := (hrest depth left _ h htaken).ensuring (·.releaseSlot d t)
      (fun v => ⟨[_], rfl⟩) fun v => erased_releaseSlot v d t
    unfold AlikeFrom at hreleased ⊢
    rw [ensuring_apply, ensuring_apply, ← hbody, ← hbody'] at hreleased
    rw [withSlot_taken h, withSlot_taken h']
    exact hreleased

end Notify

namespace Scenario

variable {c : Context}

theorem given_alike {condition : World → Bool} {m m' : Run Answer}
    (hcondition : PolicyFree condition) (halike : w.erased = w'.erased)
    (h : condition w = true → AlikeFrom Answer.erased w w' m m') :
    AlikeFrom Answer.erased w w' (given condition m) (given condition m') := by
  apply AlikeFrom.read_bind
  rw [← hcondition.same halike]
  split
  next hholds => exact h hholds
  next => exact .pure halike rfl

theorem createDocument_alike (name : Name) {config config' : Config}
    (hconfig : config.erased = config'.erased) (halike : w.erased = w'.erased) :
    AlikeFrom Answer.erased w w' (createDocument name config) (createDocument name config') := by
  have hnew : PolicyFree fun w => !w.documents.contains name :=
    PolicyFree.map (fun w => contains_documents_erased w name) not
  refine given_alike hnew halike fun _ => AlikeFrom.read_bind ?_
  have hrows : w.documents.rows.length = w'.documents.rows.length := by
    have hdocuments : w.documents.map Document.erased = w'.documents.map Document.erased :=
      (congrArg World.documents halike :)
    simpa [Table.map] using congrArg (fun table => table.rows.length) hdocuments
  rw [hrows]
  apply AlikeFrom.change_bind
  apply AlikeFrom.pure
  · rw [erased_createDocument, erased_createDocument, halike, hconfig]
  · exact congrArg (Answer.documentCreated _) hconfig

theorem createObserver_alike (name : Name) {role role' : Role} (hrole : role.erased = role'.erased)
    (halike : w.erased = w'.erased) :
    AlikeFrom Answer.erased w w' (createObserver name role) (createObserver name role') := by
  refine given_alike ((PolicyFree.knows name).map not) halike fun _ => AlikeFrom.change_bind ?_
  apply AlikeFrom.pure
  · rw [erased_createObserver, erased_createObserver, halike, hrole]
  · rfl

theorem createDispatcher_alike (name : Name) (document : DocumentId) (maxDepth : Nat)
    (removal removal' : Removal) (halike : w.erased = w'.erased) :
    AlikeFrom Answer.erased w w'
      (perform handle c (.createDispatcher name document maxDepth removal))
      (perform handle' c (.createDispatcher name document maxDepth removal')) := by
  have hmade := (erased_createDispatcher w name document maxDepth removal).trans
    (halike ▸ (erased_createDispatcher w' name document maxDepth removal').symm)
  have hnumber : PolicyFree fun v => v.dispatchers.number? name := fun _ => rfl
  apply AlikeFrom.change_bind
  apply AlikeFrom.read_bind
  rw [hnumber.same hmade]
  split
  next number _ =>
    apply AlikeFrom.read hmade
    exact (congrArg (fun d : Dispatcher => Answer.dispatcher (d.inFlight c.thread) d.maxDepth .skip)
      ((PolicyFree.dispatcher number).same hmade) :)
  next => exact .pure hmade rfl

theorem visit_alike (hh : handle.Alike handle') (hsound : w.Sound) (halike : w.erased = w'.erased)
    (v : Visit) (o : Name) : AlikeFrom id w w' (visit handle c v o) (visit handle' c v o) := by
  have hvisited : (w.record (.visited o)).erased = (w'.record (.visited o)).erased := by
    rw [erased_record, erased_record, halike]
  apply AlikeFrom.change_bind
  cases v with
  | answer supported => exact .pure hvisited rfl
  | deliver e d =>
      apply AlikeFrom.change_bind
      apply Notify.deliver_alike hh
      · exact hsound.of_same (fun owner => rfl) rfl
      · exact alike_of_comm (fun v => erased_record v (.targeted d)) hvisited

theorem pass_alike (hclient : handle.Client) (hh : handle.Alike handle') (hsound : w.Sound)
    (halike : w.erased = w'.erased) {owner issuer : Owner} (hhosts : w.Hosts owner)
    {dispatcher dispatcher' : Dispatcher} (hdispatcher : dispatcher.erased = dispatcher'.erased)
    {guard : Nat} {kind : Kind} {depth : Nat} {v : Visit} :
    AlikeFrom Pass.shows w w'
      (Run.keeping guard
        (Pass.start owner issuer c.thread dispatcher kind depth (visit handle c v)))
      (Run.keeping guard
        (Pass.start owner issuer c.thread dispatcher' kind depth (visit handle' c v))) := by
  have hkept : w.Settles (w.keepGuard guard) :=
    .of_change (.aside w.snapshots w.dispatchers _ w.trackers w.threads) rfl
  have hsound' := Evolves.sound hkept.leads hsound
  apply AlikeFrom.keeping
  apply Pass.start_alike hsound' (Evolves.hosts hkept.leads hhosts) hdispatcher
  · exact alike_of_comm (g := (·.keepGuard guard)) (fun _ => rfl) halike
  · intro x o hx hheld
    exact visit_tracks (hclient.track (Evolves.sound hx.leads hsound')) v hheld
  · exact fun x x' o hx _ halike' => visit_alike hh (Evolves.sound hx.leads hsound') halike' v o

end Scenario

/-! ## Operations -/

variable {at? : Option Name} {slot : Option (Name × Thread × Nat)} {c : Context}
  {operation operation' : Operation}

/-- Every part of an operation does the same whatever the removal policies are. -/
theorem Composed.alike {f : α → γ} {m : Handlers → Run α}
    (h : Composed handle c operation at? slot f w m) (hclient : handle.Client)
    (hh : handle.Alike handle') (hsound : w.Sound) (halike : w.erased = w'.erased) :
    AlikeFrom f w w' (m handle) (m handle') := by
  induction h generalizing w' with
  | pure a => exact .pure halike rfl
  | panic message => exact .unwind halike _
  | bind hm hr ihm ihr =>
      have htracks := hm.tracks hsound (hclient.track hsound)
      refine (ihm hsound halike).bind (fun a v hrun => ?_) ?_
      · have hsound' := htracks.sound_of_eq hsound hrun
        exact ((hr a v hrun).tracks hsound' (hclient.track hsound')).leads.past
      · rintro a _ v v' hrun ⟨⟩ halike'
        exact ihr a v hrun (htracks.sound_of_eq hsound hrun) halike'
  | map _ ih => exact (ih hsound halike).map fun _ _ hsame => hsame
  | read _ hfree => exact .read halike (hfree.same halike)
  | edit hg => exact .change (hg.alike halike)
  | @target _ _ _ w d _ _ ih =>
      apply AlikeFrom.change_bind
      apply ih
      · exact hsound.of_same (registry_record w _) rfl
      · rw [erased_record, erased_record, halike]
  | createDocument _ _ number config =>
      apply AlikeFrom.change
      rw [erased_createDocument, erased_createDocument, halike]
  | @slot _ _ _ w d n _ _ _ hbody _ ih =>
      refine Notify.withSlot_alike _ _ (hbody handle) (hbody handle') halike ?_
      intro depth left v' hleft halike'
      exact ih depth left hleft (Evolves.sound (accept_reaches hleft).leads hsound) halike'
  | announce hdocument hk hl ih =>
      have htracks := Notify.announce_tracks (t := c.thread) hsound hdocument (hclient.track hsound)
      refine (Notify.announce_alike hclient hh hsound hdocument halike _).bind
        (fun told v hrun => ?_) fun told told' v v' hrun hshows halike' => ?_
      · have hsound' := (htracks _ _).sound_of_eq hsound hrun
        rw [bind_pure_apply]
        exact ((hk told v hrun).tracks hsound' (hclient.track hsound')).leads.past
      · obtain ⟨hreport, hanswers⟩ := Prod.mk.inj hshows
        have hrest := ih told v hrun ((htracks _ _).sound_of_eq hsound hrun) halike'
        rw [← hanswers]
        apply hrest.map
        rintro b _ ⟨⟩
        exact hl _ _ b hreport
  | @deliver w d o n _ halive =>
      have hhold : w.Settles (w.hold o) := .of_change (.hold o halive) rfl
      apply AlikeFrom.holding
      apply Notify.deliver_alike hh (Evolves.sound hhold.leads hsound)
      rw [erased_hold, erased_hold, halike]
  | pass _ _ hhosts hf =>
      apply AlikeFrom.read_bind
      apply AlikeFrom.weaken (f := Pass.shows)
      · exact Scenario.pass_alike hclient hh hsound halike (hhosts hsound)
          ((PolicyFree.dispatcher _).same halike)
      · exact fun told told' hshows => hf told told' (Prod.mk.inj hshows).1

/-- Operations that differ at most by removal policies are the same, or make a document or a
dispatcher. -/
theorem Operation.cases_of_erased {operation operation' : Operation}
    (h : operation.erased = operation'.erased) :
    operation = operation' ∨
      (∃ name config config', operation = .createDocument name config ∧
        operation' = .createDocument name config' ∧ config.erased = config'.erased) ∨
      ∃ name document maxDepth removal removal',
        operation = .createDispatcher name document maxDepth removal ∧
          operation' = .createDispatcher name document maxDepth removal' := by
  unfold erased at h
  split at h
  next name config =>
    split at h
    next name' config' =>
      obtain ⟨rfl, hconfig⟩ := createDocument.inj h
      exact .inr (.inl ⟨name, config, config', rfl, rfl, hconfig⟩)
    next => exact nomatch h
    next hdocument _ => exact (hdocument _ _ h.symm).elim
  next name document maxDepth removal =>
    split at h
    next => exact nomatch h
    next removal' =>
      obtain ⟨rfl, rfl, rfl, -⟩ := createDispatcher.inj h
      exact .inr (.inr ⟨name, document, maxDepth, removal, removal', rfl, rfl⟩)
    next hdispatcher => exact (hdispatcher _ _ _ _ h.symm).elim
  next hdocument hdispatcher =>
    split at h
    next => exact (hdocument _ _ h).elim
    next => exact (hdispatcher _ _ _ _ h).elim
    next => exact .inl h

/-- Operations that differ at most by removal policies do the same. -/
theorem Scenario.perform_alike (hclient : handle.Client) (hh : handle.Alike handle')
    (hsound : w.Sound) (halike : w.erased = w'.erased) (h : operation.erased = operation'.erased) :
    AlikeFrom Answer.erased w w' (perform handle c operation) (perform handle' c operation') := by
  rcases Operation.cases_of_erased h with rfl | ⟨name, config, config', rfl, rfl, hconfig⟩ |
    ⟨name, document, maxDepth, removal, removal', rfl, rfl⟩
  · exact (perform_composed handle c operation w).alike hclient hh hsound halike
  · exact createDocument_alike name hconfig halike
  · exact createDispatcher_alike name document maxDepth removal removal' halike

end ChangeNotice
