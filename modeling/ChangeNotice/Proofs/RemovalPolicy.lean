import ChangeNotice.Proofs.PolicyIndependence
import Mathlib.Data.List.Forall2

/-! # Removal policies matter only for removals during passes

Two clients that do the same, but give other removal policies to what they make, run side
by side. As long as nobody is removed from a registry during a pass over it, they cannot
tell the policies apart: the same handlers are called in the same order, in documents that
look the same, and the passes report the same but for why an observer was skipped.
-/

namespace ChangeNotice

open World Run

variable {α β γ : Type}

/-- Two clients that do the same, but may give other removal policies to the documents and
dispatchers that they make. Of what the first and the second are told, or find in the world, they
use only what shows nothing of removal policies; `f` is what is seen of their results. -/
inductive PolicyVariants : {α γ : Type} → (α → γ) → Run α → Run α → Prop
  | pure {α γ : Type} {f : α → γ} {a a' : α} (h : f a = f a') :
      PolicyVariants f (Pure.pure a) (Pure.pure a')
  | bind {α β γ δ : Type} {f : α → γ} {g : β → δ} {m m' : Run α} {r r' : α → Run β}
      (hm : PolicyVariants f m m') (hr : ∀ a a', f a = f a' → PolicyVariants g (r a) (r' a')) :
      PolicyVariants g (m >>= r) (m' >>= r')
  | read {α γ : Type} {f : α → γ} {l l' : World → α}
      (h : ∀ w w' : World, w.erased = w'.erased → f (l w) = f (l' w')) :
      PolicyVariants f (Run.read l) (Run.read l')
  | unwind {α γ : Type} {f : α → γ} (e : Unwind) : PolicyVariants f (Run.unwind e) (Run.unwind e)
  | catching {m m' : Run Unit} (hm : PolicyVariants id m m') :
      PolicyVariants id (Run.catching m) (Run.catching m')
  /-- Operations that differ by removal policies at most, over handlers that do the same. -/
  | perform {handle handle' : Handlers}
      (hhandle : ∀ t d o n, PolicyVariants id (handle t d o n) (handle' t d o n)) (c : Context)
      {operation operation' : Operation} (h : operation.erased = operation'.erased) :
      PolicyVariants Answer.erased (Scenario.perform handle c operation)
        (Scenario.perform handle' c operation')
  | createRecorder (name : Name) {r r' : Recorder} (h : r.erased = r'.erased) :
      PolicyVariants Answer.erased (Scenario.createObserver name (.recorder r))
        (Scenario.createObserver name (.recorder r'))
  | remember (o : Name) {f f' : Recorder → Recorder}
      (h : ∀ r r', r.erased = r'.erased → (f r).erased = (f' r').erased) :
      PolicyVariants id (Run.change (·.updateRecorder o f)) (Run.change (·.updateRecorder o f'))
  | offer (sink d : Name) (e : Event) :
      PolicyVariants id (Run.change fun w => Scenario.offer sink (w.document d).id e w)
        (Run.change fun w => Scenario.offer sink (w.document d).id e w)
  | startThread :
      PolicyVariants id (Run.change fun w => { w with threads := w.threads + 1 })
        (Run.change fun w => { w with threads := w.threads + 1 })
  | say {m m' : Moment} (hm : m.isSaying = true) (h : m.erased = m'.erased) :
      PolicyVariants id (Run.note m) (Run.note m')

/-- Two worlds that variants of one client get to, each in its own run. -/
inductive Lockstep : World → World → Prop
  | start : Lockstep .empty .empty
  | run {α γ : Type} {f : α → γ} {m m' : Run α} {w w' : World} (h : Lockstep w w')
      (hm : PolicyVariants f m m') : Lockstep (m w).2 (m' w').2

/-- The first of two variants is a client. -/
theorem PolicyVariants.client {f : α → γ} {m m' : Run α} (h : PolicyVariants f m m') :
    Client m := by
  induction h with
  | pure h => exact .pure _
  | bind _ _ ihm ihr => exact ihm.bind fun a => ihr a a rfl
  | read h => exact .read _
  | unwind e => exact .unwind e
  | catching _ ih => exact ih.catching
  | perform _ c h ih => exact .perform ih c _
  | createRecorder name h => exact .createRecorder name _
  | remember o h => exact .remember o _
  | offer sink d e => exact .offer sink d e
  | startThread => exact .startThread
  | say hm h => exact .say _ hm

theorem PolicyVariants.alike {f : α → γ} {m m' : Run α} (h : PolicyVariants f m m') {w w' : World}
    (hsound : w.Sound) (halike : w.erased = w'.erased) : AlikeFrom f w w' m m' := by
  induction h generalizing w w' with
  | pure h => exact .pure halike h
  | bind hm hr ihm ihr =>
      have htracks := hm.client.tracks hsound
      refine (ihm hsound halike).bind (fun a v hrun => ?_) fun a a' v v' hrun hsame halike' => ?_
      · exact (hr a a rfl).client.past (htracks.sound_of_eq hsound hrun)
      · exact ihr a a' hsame (htracks.sound_of_eq hsound hrun) halike'
  | read h => exact .read halike (h w w' halike)
  | unwind e => exact .unwind halike e
  | catching _ ih => exact (ih hsound halike).catching
  | perform hhandle c h ih =>
      apply Scenario.perform_alike (fun t d o n => (hhandle t d o n).client) ?_ hsound halike h
      exact fun v v' hsound' halike' t d o n => ih t d o n hsound' halike'
  | createRecorder name h =>
      exact Scenario.createObserver_alike name (congrArg Role.recorder h) halike
  | remember o h => exact .change (erased_updateRecorder o halike h)
  | offer sink d e =>
      have hid : (w.document d).id = (w'.document d).id :=
        ((PolicyFree.document d).map Document.id).same halike
      apply AlikeFrom.change
      rw [erased_offer, erased_offer, halike, hid]
  | startThread =>
      exact .change (alike_of_comm (g := fun w => { w with threads := w.threads + 1 })
        (fun _ => rfl) halike)
  | say _ h =>
      apply AlikeFrom.change
      rw [erased_record, erased_record, halike, h]

theorem Lockstep.reached {w w' : World} (h : Lockstep w w') : Reached w := by
  induction h with
  | start => exact .start
  | run _ hm ih => exact ih.run hm.client

/-- Whoever does not know the policies cannot tell the two worlds apart. -/
theorem Lockstep.alike {w w' : World} (h : Lockstep w w') (hcalm : Journal.Undisturbed w.past) :
    w.erased = w'.erased := by
  induction h with
  | start => rfl
  | run h hm ih =>
      have hsound := h.reached.sound
      have hbefore := (hm.client.tracks hsound).leads.undisturbed hcalm
      exact (hm.alike hsound (ih hbefore) hcalm).2

/-! ## Scripted variants -/

namespace Scenario

variable {handle : Handlers}

theorem times_variants {m m' : Run Unit} (hm : PolicyVariants id m m') (count : Nat) :
    PolicyVariants id (Run.times count m) (Run.times count m') := by
  induction count with
  | zero => exact .pure rfl
  | succ count ih => exact .bind hm fun _ _ _ => ih

theorem each_variants {run run' : β → Run Unit} (hrun : ∀ b, PolicyVariants id (run b) (run' b))
    (list : List β) : PolicyVariants id (Run.each run list) (Run.each run' list) := by
  induction list with
  | nil => exact .pure rfl
  | cons b rest ih => exact .bind (hrun b) fun _ _ _ => ih

theorem caught_variants {m m' : Run Unit} (hm : PolicyVariants id m m') :
    PolicyVariants Answer.erased (do return caught (← Run.catching m))
      (do return caught (← Run.catching m')) :=
  .bind (.catching hm) fun _ _ h => .pure (congrArg (fun fault => (caught fault).erased) h)

mutual

/-- Steps that differ at most by removal policies, their own and those inside of them. -/
theorem runStep_variants (hh : ∀ t d o n, PolicyVariants id (handle t d o n) (handle t d o n))
    (c : Context) (s s' : Step) (h : s.erased = s'.erased) :
    PolicyVariants Answer.erased (runStep handle c s) (runStep handle c s') := by
  cases s with
  | perform label operation =>
      cases s' with
      | perform label' operation' => exact .perform hh c (Step.perform.inj h).2
      | _ => exact nomatch h
  | createRecorder label name binding verdict rules =>
      cases s' with
      | createRecorder label' name' binding' verdict' rules' =>
          obtain ⟨-, rfl, rfl, rfl, hrules⟩ := Step.createRecorder.inj h
          exact .createRecorder name (congrArg (Recorder.mk binding verdict) hrules)
      | _ => exact nomatch h
  | attempt label steps =>
      cases s' with
      | attempt label' steps' =>
          exact caught_variants (runSteps_variants hh c steps steps' (Step.attempt.inj h).2)
      | _ => exact nomatch h
  | spawn label steps =>
      cases s' with
      | spawn label' steps' =>
          have hthreads : PolicyVariants id (Run.read (·.threads)) (Run.read (·.threads)) :=
            .read fun w w' halike => (congrArg World.threads halike :)
          refine .bind .startThread fun _ _ _ => .bind hthreads ?_
          rintro t - rfl
          exact caught_variants (runSteps_variants hh _ steps steps' (Step.spawn.inj h).2)
      | _ => exact nomatch h
  | iterate label count steps =>
      cases s' with
      | iterate label' count' steps' =>
          obtain ⟨-, rfl, hsame⟩ := Step.iterate.inj h
          refine .bind (times_variants (runSteps_variants hh c steps steps' hsame) count) ?_
          exact fun _ _ _ => .pure rfl
      | _ => exact nomatch h
  | unusable label =>
      cases s' with
      | unusable label' => exact .pure rfl
      | _ => exact nomatch h
termination_by structural s

theorem runSteps_variants (hh : ∀ t d o n, PolicyVariants id (handle t d o n) (handle t d o n))
    (c : Context)
    (steps steps' : List Step) (h : Step.erasedSteps steps = Step.erasedSteps steps') :
    PolicyVariants id (runSteps handle c steps) (runSteps handle c steps') := by
  cases steps with
  | nil =>
      cases steps' with
      | nil => exact .pure rfl
      | cons s' rest' => exact nomatch h
  | cons s rest =>
      cases steps' with
      | nil => exact nomatch h
      | cons s' rest' =>
          obtain ⟨hs, hrest⟩ := List.cons.inj h
          have hlabel : s.label = s'.label := by
            rw [← Step.label_erased, hs, Step.label_erased]
          refine .bind (runStep_variants hh c s s' hs) fun answer answer' hanswer => ?_
          refine .bind (.say rfl ?_) fun _ _ _ => runSteps_variants hh c rest rest' hrest
          simp only [Moment.erased, hlabel, hanswer]
termination_by structural steps

end

theorem countFiring_variants (o : Name) (i : Nat) :
    PolicyVariants id (Run.change (countFiring o i)) (Run.change (countFiring o i)) := by
  refine .remember o fun r r' h => ?_
  obtain ⟨hbinding, hverdict, hrules⟩ := Recorder.mk.inj h
  simp only [Recorder.erased, Step.erasedRules_modify, hbinding, hverdict, hrules]

/-- The rules of an observer are the same in both worlds but for the policies in their steps. -/
theorem rulesOf_variants (o : Name) :
    PolicyVariants Step.erasedRules (Run.read (rulesOf · o)) (Run.read (rulesOf · o)) := by
  have hrules : ∀ w : World, Step.erasedRules (rulesOf w o) = rulesOf w.erased o := by
    intro w
    unfold rulesOf
    rw [observer_erased]
    unfold Observer.erased Role.erased
    cases (w.observer o).role <;> rfl
  refine .read fun w w' halike => ?_
  rw [hrules, hrules, halike]

theorem fireRule_variants {run : List Step → Run Unit} (o : Name) (n : Notice) (i : Nat)
    (hrun : ∀ steps steps', Step.erasedSteps steps = Step.erasedSteps steps' →
      PolicyVariants id (run steps) (run steps')) :
    PolicyVariants id (fireRule run o n i) (fireRule run o n i) := by
  refine .bind (rulesOf_variants o) fun rules rules' hrules => ?_
  have hrule : rules[i]?.map Step.erasedRule = rules'[i]?.map Step.erasedRule := by
    rw [← List.getElem?_map, ← List.getElem?_map, ← Step.erasedRules_eq,
      ← Step.erasedRules_eq, hrules]
  cases h : rules[i]? with
  | none =>
      rw [h] at hrule
      rw [Option.map_eq_none_iff.mp hrule.symm]
      exact .pure rfl
  | some rule =>
      rw [h] at hrule
      obtain ⟨rule', h', hsame⟩ := Option.map_eq_some_iff.mp hrule.symm
      have hfires : rule.fires n = rule'.fires n := by
        rw [← Step.fires_erasedRule, ← hsame, Step.fires_erasedRule]
      have hsteps : Step.erasedSteps rule.steps = Step.erasedSteps rule'.steps := by
        rw [← Step.steps_erasedRule, ← hsame, Step.steps_erasedRule]
      simp only [h', hfires]
      split
      · exact .bind (countFiring_variants o i) fun _ _ _ => hrun _ _ hsteps
      · exact .pure rfl

theorem handleOnce_variants (hh : ∀ t d o n, PolicyVariants id (handle t d o n) (handle t d o n))
    (t : Thread) (d o : Name) (n : Notice) :
    PolicyVariants id (handleOnce handle t d o n) (handleOnce handle t d o n) := by
  rw [handleOnce_eq]
  have hobserver :
      PolicyVariants Observer.erased (Run.read (·.observer o)) (Run.read (·.observer o)) := by
    refine .read fun w w' halike => ?_
    rw [← observer_erased, halike, observer_erased]
  refine .bind hobserver fun observer observer' hsame => ?_
  -- both are observers of the same kind, and only the steps of recorders may differ
  have hrole : observer.role.erased = observer'.role.erased := congrArg Observer.role hsame
  generalize observer.role = role at hrole ⊢
  generalize observer'.role = role' at hrole ⊢
  cases role with
  | quiet binding =>
      cases role' with
      | quiet binding' => exact .pure rfl
      | _ => exact nomatch hrole
  | sink s =>
      cases role' with
      | sink s' =>
          cases n with
          | event e =>
              rw [sinkHandlers_on]
              exact .bind (.offer o d e) fun _ _ _ => .pure rfl
          | script content parser => exact .pure rfl
      | _ => exact nomatch hrole
  | recorder r =>
      cases role' with
      | recorder r' =>
          obtain ⟨-, hverdict, hrules⟩ := Recorder.mk.inj (Role.recorder.inj hrole)
          have hlength : r.rules.length = r'.rules.length := by
            simpa [Step.erasedRules_eq] using congrArg List.length hrules
          simp only [runRules, hlength, hverdict]
          refine .bind (each_variants (fun i => ?_) _) fun _ _ _ => .pure rfl
          exact fireRule_variants o n i (runSteps_variants hh ⟨t, some o, some d⟩)
      | _ => exact nomatch hrole

/-- Scripted handlers do the same in both worlds, however deep they may be nested. -/
theorem respond_variants (depth : Nat) (t : Thread) (d o : Name) (n : Notice) :
    PolicyVariants id (respond depth t d o n) (respond depth t d o n) := by
  induction depth generalizing t d o n with
  | zero =>
      rw [respond_zero]
      exact .unwind _
  | succ depth ih => exact handleOnce_variants ih t d o n

end Scenario

/-- Sessions whose steps differ at most by removal policies run side by side. -/
theorem Session.runFrom_lockstep (depth : Nat) (chosen : Option Level) {steps steps' : List Step}
    (hsteps : steps.map Step.erased = steps'.map Step.erased) {w w' : World} (h : Lockstep w w') :
    Lockstep (Session.runFrom depth chosen w steps).2
      (Session.runFrom depth chosen w' steps').2 := by
  induction steps generalizing steps' w w' with
  | nil =>
      cases steps' with
      | nil => exact h
      | cons s' rest' => exact nomatch hsteps
  | cons s rest ih =>
      cases steps' with
      | nil => exact nomatch hsteps
      | cons s' rest' =>
          obtain ⟨hs, hrest⟩ := List.cons.inj hsteps
          have hstep := Scenario.runStep_variants (Scenario.respond_variants depth) .top s s' hs
          exact ih hrest (h.run hstep)

/-! ## What agrees -/

/-- Reports that differ at most in why observers were skipped. -/
structure Report.Agrees (r r' : Report) : Prop where
  delivered : r.delivered = r'.delivered
  unsupported : r.unsupported = r'.unsupported
  skipped : r.unregistered + r.dropped = r'.unregistered + r'.dropped
  visited : r.visited = r'.visited

/-- Answers that are the same, but for reports, which agree, and for removal policies that are
shown. -/
inductive Answer.Agrees : Answer → Answer → Prop
  | same (a : Answer) : Agrees a a
  | report {r r' : Report} (h : r.Agrees r') : Agrees (.report r) (.report r')
  | documentCreated (id : DocumentId) {config config' : Config}
      (h : config.erased = config'.erased) :
      Agrees (.documentCreated id config) (.documentCreated id config')
  | dispatcher (inFlight maxDepth : Nat) (removal removal' : Removal) :
      Agrees (.dispatcher inFlight maxDepth removal) (.dispatcher inFlight maxDepth removal')

theorem Report.agrees_of_erased {r r' : Report} (h : r.erased = r'.erased) : r.Agrees r' := by
  obtain ⟨hdelivered, -, hskipped, hunsupported⟩ := Report.mk.inj h
  refine ⟨hdelivered, hunsupported, hskipped, ?_⟩
  unfold skipped at hskipped
  unfold visited
  omega

theorem Answer.agrees_of_erased {a a' : Answer} (h : a.erased = a'.erased) : a.Agrees a' := by
  unfold erased at h
  split at h
  next id config =>
    split at h
    next id' config' =>
      obtain ⟨rfl, hconfig⟩ := documentCreated.inj h
      exact .documentCreated id hconfig
    next => exact nomatch h
    next => exact nomatch h
    next hdocument _ _ => exact (hdocument _ _ h.symm).elim
  next r =>
    split at h
    next => exact nomatch h
    next r' => exact .report (Report.agrees_of_erased (report.inj h))
    next => exact nomatch h
    next hreport _ => exact (hreport _ h.symm).elim
  next inFlight maxDepth removal =>
    split at h
    next => exact nomatch h
    next => exact nomatch h
    next removal' =>
      obtain ⟨rfl, rfl, -⟩ := dispatcher.inj h
      exact .dispatcher inFlight maxDepth removal removal'
    next hdispatcher => exact (hdispatcher _ _ _ h.symm).elim
  next hdocument hreport hdispatcher =>
    split at h
    next => exact (hdocument _ _ h).elim
    next => exact (hreport _ h).elim
    next => exact (hdispatcher _ _ _ h).elim
    next => exact h ▸ .same a

def Moment.call? : Moment → Option Call
  | called call => some call
  | _ => none

def Moment.verdict? : Moment → Option (Call × Verdict)
  | handled call v => some (call, v)
  | _ => none

def Moment.report? : Moment → Option Report
  | passFinished _ r => some r
  | _ => none

def Moment.answer? : Moment → Option Answer
  | answered _ _ a => some a
  | _ => none

/-- The worlds agree in all but the removal policies and why observers were skipped. -/
structure World.Agrees (w w' : World) : Prop where
  /-- The same handlers were called in the same order, with the same arguments, and their documents
  looked the same. -/
  calls : w.past.filterMap Moment.call? = w'.past.filterMap Moment.call?
  verdicts : w.past.filterMap Moment.verdict? = w'.past.filterMap Moment.verdict?
  reports : List.Forall₂ Report.Agrees (w.past.filterMap Moment.report?)
    (w'.past.filterMap Moment.report?)
  /-- The answers that nested steps got. -/
  answers : List.Forall₂ Answer.Agrees (w.past.filterMap Moment.answer?)
    (w'.past.filterMap Moment.answer?)
  registries : ∀ owner, w.registry owner = w'.registry owner
  scopes : ∀ owner, w.scope owner = w'.scope owner
  loads : ∀ d, (w.document d).load = (w'.document d).load
  slots : ∀ d t, (w.document d).dispatcher.inFlight t = (w'.document d).dispatcher.inFlight t
  standaloneSlots : ∀ number t,
    (w.dispatchers.get number).inFlight t = (w'.dispatchers.get number).inFlight t
  alive : ∀ o, w.isAlive o = w'.isAlive o

/-- What erasure leaves alone is the same in journals that look the same. -/
theorem Journal.filterMap_alike {past past' : List Moment} {g : Moment → Option β}
    (hg : ∀ m, g m.erased = g m) (h : past.map Moment.erased = past'.map Moment.erased) :
    past.filterMap g = past'.filterMap g := by
  have herased : ∀ past : List Moment, (past.map Moment.erased).filterMap g = past.filterMap g := by
    intro past
    rw [List.filterMap_map]
    exact congrArg (List.filterMap · past) (funext hg)
  rw [← herased past, h, herased past']

/-- What erasure turns into `f` of it agrees up to `f`, item by item. -/
theorem Journal.forall₂_alike {past past' : List Moment} {g : Moment → Option β} {f : β → β}
    {R : β → β → Prop} (hg : ∀ m, g m.erased = (g m).map f) (hR : ∀ b b', f b = f b' → R b b')
    (h : past.map Moment.erased = past'.map Moment.erased) :
    List.Forall₂ R (past.filterMap g) (past'.filterMap g) := by
  have herased : ∀ past : List Moment,
      (past.map Moment.erased).filterMap g = (past.filterMap g).map f := by
    intro past
    rw [List.filterMap_map, List.map_filterMap]
    exact congrArg (List.filterMap · past) (funext hg)
  have hsame : (past.filterMap g).map f = (past'.filterMap g).map f := by
    rw [← herased past, h, herased past']
  have hitems : List.Forall₂ (· = ·) ((past.filterMap g).map f) ((past'.filterMap g).map f) := by
    rw [hsame]
    exact List.forall₂_refl _
  rw [List.forall₂_map_left_iff, List.forall₂_map_right_iff] at hitems
  exact hitems.imp fun b b' => hR b b'

theorem World.agrees_of_erased {w w' : World} (halike : w.erased = w'.erased) : w.Agrees w' := by
  have hpast : w.past.map Moment.erased = w'.past.map Moment.erased :=
    (congrArg World.past halike :)
  refine ⟨Journal.filterMap_alike ?_ hpast, Journal.filterMap_alike ?_ hpast,
    Journal.forall₂_alike ?_ (fun _ _ => Report.agrees_of_erased) hpast,
    Journal.forall₂_alike ?_ (fun _ _ => Answer.agrees_of_erased) hpast,
    fun owner => (PolicyFree.registry owner).same halike,
    fun owner => (PolicyFree.scope owner).same halike,
    fun d => ((PolicyFree.document d).map Document.load).same halike,
    fun d t => ((PolicyFree.document d).map (·.dispatcher.inFlight t)).same halike,
    fun number t => ((PolicyFree.dispatcher number).map (·.inFlight t)).same halike,
    fun o => (PolicyFree.isAlive.map (· o)).same halike⟩
  · exact fun m => by cases m <;> rfl
  · exact fun m => by cases m <;> rfl
  · exact fun m => by cases m <;> rfl
  · exact fun m => by cases m <;> rfl

/-- Variants that run side by side, and during whose passes nobody is removed from the registry of
the pass, get the same answers, errors and panics, and leave worlds that agree. -/
theorem Lockstep.removal_immaterial {w w' : World} (h : Lockstep w w') {f : α → γ} {m m' : Run α}
    (hm : PolicyVariants f m m') (hcalm : Journal.Undisturbed (m w).2.past) :
    (m w).1.map f = (m' w').1.map f ∧ (m w).2.Agrees (m' w').2 := by
  have hsound : w.Sound := h.reached.sound
  have hbefore : w.erased = w'.erased := h.alike ((hm.client.tracks hsound).leads.undisturbed hcalm)
  obtain ⟨hresult, hafter⟩ := hm.alike hsound hbefore hcalm
  exact ⟨hresult, agrees_of_erased hafter⟩

/-- A document of this policy with two observers, the second of which also stands in a registry of
its own. The handler of the first removes the second from that registry, drops it, and registers a
third observer with the document. -/
def droppingSteps (removal : Removal) : List Step :=
  [.perform none (.createDocument "d" { removal := removal }),
    .perform none (.createRegistry "r"),
    .createRecorder none "a" false .proceed
      [⟨.beginLoad, none, none,
        [.perform none (.unregister (.registry "r") "b"), .perform none (.drop "b"),
          .perform none (.register (.document none) "c")], 0⟩],
    .perform none (.createQuiet "b" false), .perform none (.createQuiet "c" false),
    .perform none (.register (.registry "r") "b"),
    .perform none (.register (.document none) "a"),
    .perform none (.register (.document none) "b")]

def droppingWorld (removal : Removal) : World :=
  (Session.runFrom 1 none .empty (droppingSteps removal)).2

/-- Loading begins there. -/
def droppingLoad (removal : Removal) : Except Unwind Answer × World :=
  Scenario.perform (Scenario.respond 1) .top (.notify (some "d") .beginLoad) (droppingWorld removal)

/-- To register the third observer prunes the entry of the second, which then counts as unregistered
or as dropped. Nothing else depends on the policy. -/
theorem removal_immaterial_dropping :
    (droppingLoad .skip).1 = .ok (.report ⟨1, 1, 0, 0⟩) ∧
      (droppingLoad .deliver).1 = .ok (.report ⟨1, 0, 1, 0⟩) ∧
      (droppingLoad .skip).2.Agrees (droppingLoad .deliver).2 := by
  have hsteps :
      (droppingSteps .skip).map Step.erased = (droppingSteps .deliver).map Step.erased := rfl
  have hlockstep : Lockstep (droppingWorld .skip) (droppingWorld .deliver) :=
    Session.runFrom_lockstep 1 none hsteps .start
  have hvariants : PolicyVariants Answer.erased
      (Scenario.perform (Scenario.respond 1) .top (.notify (some "d") .beginLoad))
      (Scenario.perform (Scenario.respond 1) .top (.notify (some "d") .beginLoad)) :=
    .perform (Scenario.respond_variants 1) .top rfl
  have hcalm : Journal.Undisturbed (droppingLoad .skip).2.past :=
    Journal.Undisturbed.of_apart (by decide +kernel)
  refine ⟨by decide +kernel, by decide +kernel, ?_⟩
  exact (hlockstep.removal_immaterial hvariants hcalm).2

end ChangeNotice
