import ChangeNotice.Proofs.Client

/-! # Documents that are not targeted

Documents share observers, and passes of one nest in passes of another. All the
same, a call that never targets a document, in no handler at any depth, leaves the
document as it is and does not depend on it: in a world with another document in
its place the call does the same, moment by moment.

Handlers are code of clients that looks at documents only through operations.
-/

namespace ChangeNotice

open World

variable {α β : Type} {at? : Option Name} {b : Name} {w : World}

theorem World.updateDocument_substitute {d : Name} (hknown : w.documents.contains b = true)
    (hne : d ≠ b) (doc : Document) (past : List Moment) (f : Document → Document) :
    (w.substitute b doc past).updateDocument d f =
    (w.updateDocument d f).substitute b doc past := by
  have hdocuments : (w.documents.set b doc).update d f = (w.documents.update d f).set b doc := by
    unfold Table.update
    rw [Table.get_set, if_neg hne]
    exact Table.set_comm hknown hne doc _
  unfold World.updateDocument substitute
  rw [hdocuments]

/-! ## Runs that overlook a document -/

namespace Run

/-- Ends as another run has ended. -/
def resume : Except Unwind α → Run α
  | .ok a => pure a
  | .error e => unwind e

/-- Goes on with what became of the first run. -/
def andThen (m : Run α) (k : Except Unwind α → Run β) : Run β := fun w => k (m w).1 (m w).2

/-- From this world on the run writes these moments. If it does not stand at `b` and none of the
moments targets `b`, then it leaves `b` alone and does the same whatever document is in the
place of `b`. -/
structure Overlooked (at? : Option Name) (b : Name) (m : Run α) (w : World)
    (news : List Moment) : Prop where
  past : (m w).2.past = news ++ w.past
  known : (m w).2.documents.contains b = true
  same : at? ≠ some b → .targeted b ∉ news → (m w).2.document b = w.document b
  oblivious : at? ≠ some b → .targeted b ∉ news → ∀ doc past, w.Substitutes b doc →
    m (w.substitute b doc past) = ((m w).1, (m w).2.substitute b doc (news ++ past))

/-- The run overlooks `b` if it begins in this world. -/
def Overlooks (at? : Option Name) (b : Name) (w : World) (m : Run α) : Prop :=
  w.documents.contains b = true → ∃ news, Overlooked at? b m w news

namespace Overlooks

variable {m : Run α} {f : α → Run β}

theorem pure (a : α) : Overlooks at? b w (Pure.pure a : Run α) :=
  fun hw => ⟨[], rfl, hw, fun _ _ => rfl, fun _ _ _ _ _ => rfl⟩

theorem unwind (e : Unwind) : Overlooks at? b w (Run.unwind e : Run α) :=
  fun hw => ⟨[], rfl, hw, fun _ _ => rfl, fun _ _ _ _ _ => rfl⟩

theorem look {g : World → α} (hg : at? ≠ some b → ∀ doc past, w.Substitutes b doc →
    g (w.substitute b doc past) = g w) : Overlooks at? b w (Run.read g) := by
  intro hw
  refine ⟨[], rfl, hw, fun _ _ => rfl, ?_⟩
  intro hb _ doc past hdoc
  rw [read_apply, read_apply, hg hb doc past hdoc]
  rfl

theorem read {g : World → α} (hg : Sees at? g) : Overlooks at? b w (Run.read g) :=
  look fun hb doc past hdoc => hg w b doc past hb hdoc

/-- Whoever stands nowhere is held to no more than others are. -/
theorem stand (hm : Overlooks none b w m) : Overlooks at? b w m := by
  intro hw
  obtain ⟨news, hpast, hknown, hsame, hoblivious⟩ := hm hw
  exact ⟨news, hpast, hknown, fun _ => hsame (by simp), fun _ => hoblivious (by simp)⟩

theorem congr {m' : Run α} (hm : Overlooks at? b w m) (h : ∀ w, m' w = m w) :
    Overlooks at? b w m' :=
  (funext h : m' = m) ▸ hm

/-- One run and then another that is chosen by the result of the first. -/
theorem andThen {k : Except Unwind α → Run β} (hm : Overlooks at? b w m)
    (hk : ∀ result v, m w = (result, v) → Overlooks at? b v (k result)) :
    Overlooks at? b w (Run.andThen m k) := by
  intro hw
  obtain ⟨news, hpast, hknown, hsame, hoblivious⟩ := hm hw
  obtain ⟨more, hpast', hknown', hsame', hoblivious'⟩ := hk (m w).1 (m w).2 rfl hknown
  have hparts : .targeted b ∉ more ++ news → .targeted b ∉ more ∧ .targeted b ∉ news :=
    fun hnews => not_or.mp (mt List.mem_append.mpr hnews)
  refine ⟨more ++ news, ?_, hknown', ?_, ?_⟩
  · rw [List.append_assoc, ← hpast]
    exact hpast'
  · intro hb hnews
    obtain ⟨hmore, hnews⟩ := hparts hnews
    exact (hsame' hb hmore).trans (hsame hb hnews)
  · intro hb hnews doc past hdoc
    obtain ⟨hmore, hnews⟩ := hparts hnews
    -- The first run has left the document alone, so that it can still be replaced.
    have hdoc' : (m w).2.Substitutes b doc := ⟨hknown, hdoc.id.trans (by rw [hsame hb hnews])⟩
    have hrest := hoblivious' hb hmore doc (news ++ past) hdoc'
    unfold Run.andThen
    rw [hoblivious hb hnews doc past hdoc, List.append_assoc]
    exact hrest

theorem resume (result : Except Unwind α) : Overlooks at? b w (Run.resume result) := by
  cases result with
  | ok a => exact pure a
  | error e => exact unwind e

theorem bind (hm : Overlooks at? b w m)
    (hf : ∀ a v, m w = (.ok a, v) → Overlooks at? b v (f a)) : Overlooks at? b w (m >>= f) := by
  have hrest : ∀ result v, m w = (result, v) → Overlooks at? b v (Run.resume result >>= f) := by
    intro result v hrun
    cases result with
    | ok a => exact hf a v hrun
    | error e => exact unwind e
  apply (hm.andThen hrest).congr
  intro w
  rw [bind_apply, Run.andThen]
  cases m w with
  | mk result v => cases result <;> rfl

theorem map {l : α → β} (hm : Overlooks at? b w m) :
    Overlooks at? b w (m >>= fun a => Pure.pure (l a)) :=
  hm.bind fun _ _ _ => pure _

theorem change_bind {g : World → World} {k : Unit → Run β}
    (hg : Overlooks at? b w (Run.change g)) (hk : Overlooks at? b (g w) (k ())) :
    Overlooks at? b w (Run.change g >>= k) := by
  apply hg.bind
  rintro _ v ⟨⟩
  exact hk

/-- What a change writes and does is the same in every world that differs in `b` only. -/
theorem change {g : World → World} (news : List Moment) (hpast : (g w).past = news ++ w.past)
    (hknown : w.documents.contains b = true → (g w).documents.contains b = true)
    (hsame : w.documents.contains b = true → at? ≠ some b → (g w).document b = w.document b)
    (hoblivious : at? ≠ some b → ∀ doc past, w.Substitutes b doc →
      g (w.substitute b doc past) = (g w).substitute b doc (news ++ past)) :
    Overlooks at? b w (Run.change g) := by
  intro hw
  refine ⟨news, hpast, hknown hw, fun hb _ => hsame hw hb, ?_⟩
  intro hb _ doc past hdoc
  rw [change_apply, change_apply, hoblivious hb doc past hdoc]

theorem record {f : World → Moment} (hf : Sees at? f) :
    Overlooks at? b w (Run.change fun w => w.record (f w)) := by
  apply change [f w]
  · rfl
  · exact fun hw => hw
  · exact fun _ _ => rfl
  · intro hb doc past hdoc
    rw [hf w b doc past hb hdoc]
    rfl

theorem note (moment : Moment) : Overlooks at? b w (Run.note moment) :=
  record (f := fun _ => moment) (.elsewhere fun _ _ _ => rfl)

theorem updateDocument {d : Name} {f : World → Document → Document} (hf : Sees (some d) f) :
    Overlooks (some d) b w (Run.change fun w => w.updateDocument d (f w)) := by
  apply change []
  · rfl
  · intro hw
    rw [contains_updateDocument, hw, Bool.or_true]
  · intro _ hb
    have hne : b ≠ d := fun heq => hb (congrArg some heq.symm)
    rw [document_updateDocument, if_neg hne]
  · intro hb doc past hdoc
    have hne : d ≠ b := fun heq => hb (congrArg some heq)
    rw [hf w b doc past hb hdoc, updateDocument_substitute hdoc.known hne]
    rfl

/-- A document that is new is no document that was there. -/
theorem createDocument {name : Name} (hnew : w.documents.contains name = false)
    (number : DocumentId) (config : Config) :
    Overlooks at? b w (Run.change fun v =>
      { v with documents := v.documents.set name (.new number config) }) := by
  have hne : w.documents.contains b = true → b ≠ name := by
    rintro hw rfl
    rw [hw] at hnew
    exact Bool.noConfusion hnew
  apply change []
  · rfl
  · intro hw
    rw [Table.contains_set, hw, Bool.or_true]
  · intro hw _
    exact (Table.get_set ..).trans (if_neg (hne hw))
  · intro _ doc past hdoc
    unfold substitute
    rw [List.nil_append, ← Table.set_comm hdoc.known (hne hdoc.known).symm]

theorem ensuring {after : World → World} (hm : Overlooks at? b w m)
    (hafter : ∀ v, Overlooks at? b v (Run.change after)) :
    Overlooks at? b w (Run.ensuring m after) := by
  apply (hm.andThen fun result v _ => (hafter v).bind fun _ _ _ => resume result).congr
  intro w
  rw [ensuring_apply, Run.andThen]
  cases (m w).1 <;> rfl

theorem catching {m : Run Unit} (hm : Overlooks at? b w m) :
    Overlooks at? b w (Run.catching m) := by
  have hrest : ∀ result v, m w = (result, v) →
      Overlooks at? b v (Run.catching (Run.resume result)) := by
    rintro ((message | _) | _) v -
    · exact pure (some message)
    · exact unwind .exhausted
    · exact pure none
  apply (hm.andThen hrest).congr
  intro w
  unfold Run.catching Run.andThen
  rcases m w with ⟨(message | _) | _, v⟩ <;> rfl

/-- A run that has said that it targets `b` is not held to anything, and any other run now stands
at a document that is not `b`. -/
theorem target {d : Name} (hm : Overlooks (some d) b (w.record (.targeted d)) m) :
    Overlooks at? b w (Run.note (.targeted d) >>= fun _ => m) := by
  intro hw
  obtain ⟨news, hpast, hknown, hsame, hoblivious⟩ := hm hw
  have hother : .targeted b ∉ news ++ [.targeted d] → some d ≠ some b ∧ .targeted b ∉ news := by
    intro hnews
    refine ⟨?_, fun hmem => hnews (List.mem_append_left _ hmem)⟩
    rintro ⟨⟩
    exact hnews (List.mem_append_right _ List.mem_cons_self)
  refine ⟨news ++ [.targeted d], ?_, hknown, ?_, ?_⟩
  · rw [List.append_assoc]
    exact hpast
  · intro _ hnews
    obtain ⟨hb, hnews⟩ := hother hnews
    exact hsame hb hnews
  · intro _ hnews doc past hdoc
    obtain ⟨hb, hnews⟩ := hother hnews
    rw [List.append_assoc]
    exact hoblivious hb hnews doc (.targeted d :: past) ⟨hdoc.known, hdoc.id⟩

end Overlooks

end Run

open Run

theorem Confined.overlooks {g : World → World} (hg : Confined at? g) :
    Overlooks at? b w (Run.change g) := by
  induction hg generalizing w with
  | @aside _ g h =>
      apply Overlooks.change []
      · exact h.past_eq w
      · intro hw
        rw [h.documents_eq, hw]
      · exact fun _ _ => congrArg (Table.get · b) (h.documents_eq w)
      · intro _ doc past _
        calc g (w.substitute b doc past)
            = { g w with documents := w.documents.set b doc, past := past } := h w _ past
          _ = (g w).substitute b doc past := by rw [substitute, h.documents_eq]
  | record hsees _ => exact .record hsees
  | document hsees _ => exact .updateDocument hsees
  | comp _ _ ih ih' => exact ih.bind fun _ _ _ => ih'
  | @ite at? p g g' hp _ _ ih ih' =>
      have hchosen : Overlooks at? b w
          (Run.read p >>= fun met => if met then Run.change g else Run.change g') := by
        refine (Overlooks.read hp).bind fun met v _ => ?_
        split
        · exact ih
        · exact ih'
      apply hchosen.congr
      intro w
      rw [bind_apply, read_apply, change_apply]
      dsimp only
      split <;> rfl

theorem Run.Overlooks.holding {o : Name} {m : Run α} (hm : Overlooks at? b (w.hold o) m) :
    Overlooks at? b w (Run.holding o m) :=
  .change_bind (Confined.hold o).overlooks (hm.ensuring fun _ => (Confined.unhold o).overlooks)

namespace Pass

variable {p : PassInfo} {visit : Name → Run (Option Verdict)}

theorem turn_overlooks (hregistry : p.registry.Within at?)
    (hvisit : ∀ v o, Overlooks at? b v (visit o)) (e : Entry) :
    Overlooks at? b w (turn p visit e) := by
  have hresolve : Sees at? fun w => w.resolve p.registry p.removal e :=
    (Sees.registry hregistry).map₂ .isAlive fun r alive =>
      r.resolve alive p.removal.honoured e
  refine (Overlooks.read hresolve).bind fun found v _ => ?_
  cases found with
  | live => exact (Overlooks.holding (.change_bind (.note _) (hvisit _ e.key))).map
  | unregistered => exact (Overlooks.note _).bind fun _ _ _ => .pure _
  | dropped => exact (Overlooks.note _).bind fun _ _ _ => .pure _

theorem walk_overlooks (hregistry : p.registry.Within at?)
    (hvisit : ∀ v o, Overlooks at? b v (visit o)) (slots : Snapshot) :
    Overlooks at? b w (walk p visit slots) := by
  induction slots generalizing w with
  | nil => exact .pure _
  | cons e rest ih =>
      rw [walk_cons]
      exact (turn_overlooks hregistry hvisit e).bind fun told v _ => ih.map

theorem start_overlooks {registry issuer : Owner} {t : Thread} {dispatcher : Dispatcher}
    {kind : Kind} {depth : Nat} (hregistry : registry.Within at?)
    (hvisit : ∀ v o, Overlooks at? b v (visit o)) :
    Overlooks at? b w (start registry issuer t dispatcher kind depth visit) := by
  refine .change_bind (Confined.prune hregistry).overlooks ?_
  refine (Overlooks.read ((Sees.registry hregistry).map (·.entries))).bind fun slots _ _ => ?_
  refine (Overlooks.read (.elsewhere fun _ _ _ => rfl)).bind fun serial _ _ => ?_
  have hcounted : Confined at? fun w => { w with passes := w.passes + 1 } := .aside fun _ _ _ => rfl
  refine .change_bind hcounted.overlooks ?_
  refine Overlooks.ensuring ?_ fun _ => .record (.elsewhere fun _ _ _ => rfl)
  refine .change_bind (.note _) ?_
  refine (walk_overlooks hregistry hvisit slots).bind fun told _ _ => ?_
  exact .change_bind (.note _) (.pure _)

end Pass

variable {handle : Handlers} {c : Context}

section

variable (hhandle : ∀ v t d o n, Overlooks none b v (handle t d o n))

include hhandle

/-- Of its document an observer is shown only what it may see. -/
theorem Notify.deliver_overlooks (t : Thread) (d : Name) (n : Notice) (o : Name) :
    Overlooks (some d) b w (deliver handle t d n o) := by
  have hcall : Sees (some d) (·.callOf t d o n) :=
    (Sees.document d).map fun doc =>
      (⟨o, n, t, d, doc.id, doc.scope, doc.dispatcher.inFlight t⟩ : Call)
  rw [deliver_eq]
  refine (Overlooks.read (.elsewhere fun _ _ _ => rfl)).bind fun supported v _ => ?_
  split
  · refine (Overlooks.read hcall).bind fun call _ _ => .change_bind (.note _) ?_
    refine (hhandle _ t d o n).stand.bind fun answer _ _ => ?_
    exact .change_bind (.note _) (.pure _)
  · exact .pure _

theorem Scenario.visit_overlooks (visited : Visit) (o : Name) :
    Overlooks at? b w (visit handle c visited o) := by
  refine .change_bind (.note _) ?_
  cases visited with
  | deliver e d => exact .target (Notify.deliver_overlooks hhandle _ _ _ _)
  | answer supported => exact .pure _

end

/-- A notification stands at its document. -/
theorem Notify.withSlot_overlooks {t : Thread} {d : Name} {n : Notice}
    {body : Nat → Run (Except NotifyError α)} (rest : Nat → Run (Except NotifyError α))
    (hbody : ∀ depth v, body depth v = rest depth (v.prepare d n))
    (hrest : ∀ depth left, (w.document d).dispatcher.enter? t = some (depth, left) →
      Overlooks (some d) b ((w.takeSlot d t n left).prepare d n) (rest depth)) :
    Overlooks (some d) b w (withSlot t d n body) := by
  apply (Overlooks.read (.document d)).bind
  rintro doc v ⟨⟩
  cases hleft : (w.document d).dispatcher.enter? t with
  | none => exact .change_bind (.note _) (.pure _)
  | some slot =>
      obtain ⟨depth, left⟩ := slot
      have htake : Overlooks (some d) b w (Run.change (·.takeSlot d t n left)) :=
        (Overlooks.updateDocument (.elsewhere fun _ _ _ => rfl)).bind fun _ _ _ => .note _
      have hrelease : ∀ v, Overlooks (some d) b v (Run.change (·.releaseSlot d t)) :=
        fun v => (Overlooks.updateDocument (.elsewhere fun _ _ _ => rfl)).bind fun _ _ _ => .note _
      have hprepared : Overlooks (some d) b (w.takeSlot d t n left)
          (Run.change (·.prepare d n) >>= fun _ => rest depth) :=
        .change_bind (Confined.prepare n).overlooks (hrest depth left hleft)
      exact .change_bind htake ((hprepared.congr (hbody depth)).ensuring hrelease)

/-- Every part of an operation overlooks the documents that it does not target, if its handlers
do. -/
theorem Composed.overlooks {γ : Type} {operation : Operation} {slot : Option (Name × Thread × Nat)}
    {f : α → γ} {m : Handlers → Run α} (h : Composed handle c operation at? slot f w m)
    (hhandle : ∀ v t d o n, Overlooks none b v (handle t d o n)) :
    Overlooks at? b w (m handle) := by
  induction h with
  | pure a => exact .pure a
  | panic message => exact .unwind _
  | bind _ _ ihm ihr => exact ihm.bind ihr
  | map _ ih => exact ih.map
  | read hsees _ => exact .read hsees
  | edit hg => exact hg.confined.overlooks
  | target d _ ih => exact ih.target
  | createDocument _ hnew number config => exact .createDocument hnew number config
  | slot _ hbody _ ih => exact Notify.withSlot_overlooks _ (hbody handle) ih
  | @announce _ _ _ _ _ d n depth _ _ _ _ _ ih =>
      have hpass : ∀ w, Overlooks (some d) b w (Notify.announce handle c.thread d n depth) :=
        fun w => (Overlooks.read (.document d)).bind fun doc _ _ =>
          Pass.start_overlooks (.self d) fun _ => Notify.deliver_overlooks hhandle _ _ _
      exact (hpass _).bind fun told v hrun => (ih told v hrun).map
  | deliver => exact .holding (Notify.deliver_overlooks hhandle _ _ _ _)
  | @pass at? _ _ _ _ _ guard _ _ _ _ hwithin =>
      have hkeep : Confined at? (·.keepGuard guard) := .aside fun _ _ _ => rfl
      refine (Overlooks.read (.elsewhere fun _ _ _ => rfl)).bind fun dispatcher _ _ => ?_
      refine .change_bind hkeep.overlooks ?_
      refine Overlooks.ensuring ?_ fun _ => (Confined.leaveGuard guard).overlooks
      exact Pass.start_overlooks hwithin fun _ => Scenario.visit_overlooks hhandle _

/-! ## Clients that keep away from a document -/

/-- Code of a client that looks at `b` only by operations on it. It may know the id of `b`. -/
inductive ObliviousTo (b : Name) : {α : Type} → Run α → Prop
  | pure {α : Type} (a : α) : ObliviousTo b (Pure.pure a : Run α)
  | bind {α β : Type} {m : Run α} {f : α → Run β} (hm : ObliviousTo b m)
      (hf : ∀ a, ObliviousTo b (f a)) :
      ObliviousTo b (m >>= f)
  | read {α : Type} {f : World → α}
      (hf : ∀ w doc past, w.Substitutes b doc → f (w.substitute b doc past) = f w) :
      ObliviousTo b (Run.read f)
  | unwind {α : Type} (e : Unwind) : ObliviousTo b (Run.unwind e : Run α)
  | catching {m : Run Unit} (hm : ObliviousTo b m) : ObliviousTo b (Run.catching m)
  /-- Any operation, also one on `b`, which then is targeted. -/
  | perform {handle : Handlers} (hhandle : ∀ t d o n, ObliviousTo b (handle t d o n)) (c : Context)
      (operation : Operation) : ObliviousTo b (Scenario.perform handle c operation)
  | createRecorder (name : Name) (r : Recorder) :
      ObliviousTo b (Scenario.createObserver name (.recorder r))
  | remember (o : Name) (f : Recorder → Recorder) :
      ObliviousTo b (Run.change (·.updateRecorder o f))
  | offer (sink d : Name) (e : Event) :
      ObliviousTo b (Run.change fun w => Scenario.offer sink (w.document d).id e w)
  | startThread : ObliviousTo b (Run.change fun w => { w with threads := w.threads + 1 })
  | say (m : Moment) (hm : m.isSaying = true) : ObliviousTo b (Run.note m)

namespace Scenario

/-- An offer to a sink, step by step. -/
def offering (sink : Name) (id : DocumentId) (e : Event) : Run Unit := do
  match (← Run.read (·.observer sink)).sink? with
  | none => pure ()
  | some s =>
    Run.change (·.updateSink sink fun _ => (s.offer id e).1)
    Run.note (.offered sink id e (s.offer id e).2)
    match (s.offer id e).2 with
    | .lost position true => Run.note (.sinkFull sink id position)
    | _ => pure ()

theorem change_offer (sink : Name) (id : DocumentId) (e : Event) :
    Run.change (offer sink id e) = offering sink id e := by
  funext w
  rw [change_apply, offering, bind_apply, read_apply]
  dsimp only [offer]
  cases (w.observer sink).sink? with
  | none => rfl
  | some s =>
      dsimp only
      generalize s.offer id e = told
      rcases told with ⟨kept, _ | _ | ⟨position, _ | _⟩⟩ <;> rfl

theorem offering_overlooks (sink : Name) (id : DocumentId) (e : Event) :
    Overlooks at? b w (offering sink id e) := by
  refine (Overlooks.read (.elsewhere fun _ _ _ => rfl)).bind fun a _ _ => ?_
  cases a.sink? with
  | none => exact .pure ()
  | some s =>
      refine .change_bind (Confined.updateSink sink _).overlooks (.change_bind (.note _) ?_)
      split
      · exact .note _
      · exact .pure ()

/-- A sink is told the id of the document and nothing else of it. -/
theorem offer_overlooks (sink d : Name) (e : Event) :
    Overlooks at? b w (Run.change fun w => offer sink (w.document d).id e w) := by
  have hid : Overlooks at? b w (Run.read fun w => (w.document d).id) := by
    apply Overlooks.look
    intro _ doc past hdoc
    rw [document_substitute]
    split
    next heq => rw [hdoc.id, heq]
    next => rfl
  apply (hid.bind fun id _ _ => offering_overlooks sink id e).congr
  intro w
  rw [bind_apply, read_apply]
  exact congrFun (change_offer sink (w.document d).id e) w

theorem createObserver_overlooks (name : Name) (role : Role) :
    Overlooks at? b w (createObserver name role) := by
  refine (Overlooks.read (.elsewhere fun _ _ _ => rfl)).bind fun met _ _ => ?_
  split
  · exact .change_bind (Confined.aside fun _ _ _ => rfl).overlooks (.pure _)
  · exact .pure _

end Scenario

/-- Clients that keep away from a document overlook it. -/
theorem ObliviousTo.overlooks {m : Run α} (hm : ObliviousTo b m) : Overlooks none b w m := by
  induction hm generalizing w with
  | pure a => exact .pure a
  | bind _ _ ihm ihf => exact ihm.bind fun a _ _ => ihf a
  | read hf => exact .look fun _ => hf w
  | unwind e => exact .unwind e
  | catching _ ih => exact ih.catching
  | perform _ c operation ih =>
      exact (Scenario.perform_composed _ c operation w).overlooks fun _ t d o n => ih t d o n
  | createRecorder name r => exact Scenario.createObserver_overlooks name _
  | remember o f => exact (Confined.updateRecorder o f).overlooks
  | offer sink d e => exact Scenario.offer_overlooks sink d e
  | startThread => exact (Confined.aside fun _ _ _ => rfl).overlooks
  | say m _ => exact .note m

/-! ### Scripted handlers -/

namespace Scenario

theorem times_oblivious {m : Run Unit} (hm : ObliviousTo b m) (count : Nat) :
    ObliviousTo b (Run.times count m) := by
  induction count with
  | zero => exact .pure ()
  | succ count ih => exact .bind hm fun _ => ih

theorem each_oblivious {run : β → Run Unit} (hrun : ∀ a, ObliviousTo b (run a)) (list : List β) :
    ObliviousTo b (Run.each run list) := by
  induction list with
  | nil => exact .pure ()
  | cons a rest ih => exact .bind (hrun a) fun _ => ih

variable {handle : Handlers}

mutual

theorem runStep_oblivious (hhandle : ∀ t d o n, ObliviousTo b (handle t d o n)) (c : Context)
    (s : Step) :
    ObliviousTo b (runStep handle c s) := by
  cases s with
  | perform label operation => exact .perform hhandle c operation
  | createRecorder label name binding verdict rules => exact .createRecorder name _
  | attempt label steps =>
      exact .bind (.catching (runSteps_oblivious hhandle c steps)) fun _ => .pure _
  | spawn label steps =>
      refine .bind .startThread fun _ => .bind (.read fun _ _ _ _ => rfl) fun t => ?_
      exact .bind (.catching (runSteps_oblivious hhandle { c with thread := t } steps))
        fun _ => .pure _
  | iterate label count steps =>
      exact .bind (times_oblivious (runSteps_oblivious hhandle c steps) count) fun _ => .pure _
  | unusable label => exact .pure _
termination_by structural s

theorem runSteps_oblivious (hhandle : ∀ t d o n, ObliviousTo b (handle t d o n)) (c : Context)
    (steps : List Step) : ObliviousTo b (runSteps handle c steps) := by
  cases steps with
  | nil => exact .pure ()
  | cons s rest =>
      refine .bind (runStep_oblivious hhandle c s) fun answer => ?_
      exact .bind (.say _ rfl) fun _ => runSteps_oblivious hhandle c rest
termination_by structural steps

end

theorem handleOnce_oblivious (hhandle : ∀ t d o n, ObliviousTo b (handle t d o n)) (t : Thread)
    (d o : Name) (n : Notice) : ObliviousTo b (handleOnce handle t d o n) := by
  rw [handleOnce_eq]
  refine .bind (.read fun _ _ _ _ => rfl) fun observer => ?_
  cases observer.role with
  | quiet binding => exact .pure _
  | sink s =>
      cases n with
      | event e =>
          rw [sinkHandlers_on]
          exact .bind (.offer o d e) fun _ => .pure _
      | script content parser => exact .pure _
  | recorder r =>
      refine .bind (each_oblivious (fun i => ?_) _) fun _ => .pure _
      refine .bind (.read fun _ _ _ _ => rfl) fun rules => ?_
      cases rules[i]? with
      | none => exact .pure ()
      | some rule =>
          dsimp only
          split
          · exact .bind (.remember o _) fun _ => runSteps_oblivious hhandle _ _
          · exact .pure ()

/-- Scripted handlers know documents only by their operations. -/
theorem respond_oblivious (depth : Nat) (t : Thread) (d o : Name) (n : Notice) :
    ObliviousTo b (respond depth t d o n) := by
  induction depth generalizing t d o n with
  | zero =>
      rw [respond_zero]
      exact .unwind _
  | succ depth ih => exact handleOnce_oblivious ih t d o n

/-! ## Operations -/

/-- Documents do not interfere. If a call never targets `b`, in no handler at any depth, then `b` is
afterwards as it was before, however the call ends. In a world that has any other document in the
place of `b`, the call ends in the same way, leaves every other document the same, and writes the
same journal, the calls of handlers among it. -/
theorem perform_apart {handle : Handlers} (hhandle : ∀ t d o n, ObliviousTo b (handle t d o n))
    (c : Context) (operation : Operation) (hb : w.documents.contains b = true)
    (hnot : .targeted b ∉ (perform handle c operation w).2.since w.past.length) :
    let after := perform handle c operation w
    after.2.document b = w.document b ∧
      ∀ (doc : Document) (past : List Moment), doc.id = (w.document b).id →
        let other := perform handle c operation (w.substitute b doc past)
        other.1 = after.1 ∧ other.2.document b = doc ∧
          (∀ a, a ≠ b → other.2.document a = after.2.document a) ∧
          other.2.since past.length = after.2.since w.past.length := by
  intro after
  obtain ⟨news, hpast, _, hsame, hoblivious⟩ :=
    (ObliviousTo.perform hhandle c operation).overlooks hb
  have hsince : after.2.since w.past.length = news.reverse := since_of_past hpast
  have hnews : .targeted b ∉ news := by
    intro hmem
    apply hnot
    rw [hsince]
    exact List.mem_reverse.mpr hmem
  refine ⟨hsame (by simp) hnews, ?_⟩
  intro doc past hid
  have hother := hoblivious (by simp) hnews doc past ⟨hb, hid⟩
  dsimp only
  rw [hother]
  refine ⟨rfl, ?_, ?_, ?_⟩
  · rw [document_substitute, if_pos rfl]
  · intro a ha
    rw [document_substitute, if_neg ha]
  · rw [hsince]
    exact since_of_past rfl

end Scenario

/-- Two documents share two observers; the first lets go of the second when it hears of a load. -/
def sharing : World :=
  (Session.runFrom 3 none .empty
    [.perform none (.createDocument "d" {}), .perform none (.createDocument "e" {}),
      .createRecorder none "x" false .proceed
        [⟨.beginLoad, none, none, [.perform none (.drop "y")], 0⟩],
      .perform none (.createQuiet "y" false),
      .perform none (.register (.document none) "x"),
      .perform none (.register (.document none) "y"),
      .perform none (.register (.document (some "e")) "y"),
      .perform none (.register (.document (some "e")) "x")]).2

/-- An observer of both documents dies in the call, and the other document keeps its entry. -/
theorem perform_apart_sharing :
    let after := Scenario.perform (Scenario.respond 3) .top (.raise none .beginLoad) sharing
    let other := Scenario.perform (Scenario.respond 3) .top (.raise none .beginLoad)
      (sharing.substitute "e" (.new ⟨2⟩ {}) sharing.past)
    sharing.isAlive "y" = true ∧ after.2.isAlive "y" = false ∧
      after.2.document "e" = sharing.document "e" ∧ other.1 = after.1 ∧
      other.2.document "d" = after.2.document "d" := by
  have hapart :=
    Scenario.perform_apart (b := "e") (w := sharing) (Scenario.respond_oblivious 3) .top
    (.raise none .beginLoad) (by decide +kernel) (by decide +kernel)
  obtain ⟨hresult, -, hdocuments, -⟩ := hapart.2 (.new ⟨2⟩ {}) sharing.past (by decide +kernel)
  exact ⟨by decide +kernel, by decide +kernel, hapart.1, hresult, hdocuments "d" (by decide)⟩

end ChangeNotice
