import ChangeNotice.Proofs.PolicyErasure
import ChangeNotice.Proofs.Visibility
import ChangeNotice.Scenario.Perform

/-! # What operations are composed of

An operation looks at the world, edits it, takes slots, lets passes run and delivers
notices. It looks at a document and edits it only after it has said that it targets the
document, a document's own passes run only in a slot of the document, and what it looks
at, reports of passes apart, shows nothing of removal policies. This is said once, of all
operations, with what is known where each of its parts begins. What then holds of all
operations follows by one induction.
-/

namespace ChangeNotice

open World

variable {α β γ : Type} {at? : Option Name} {w : World} {d : Name}

/-! ## Edits -/

namespace World

/-- Only things change that stand beside documents, observers and registries, and the change shows
nothing of removal policies. -/
structure Detached (g : World → World) : Prop where
  aside : Aside g
  kept : ∀ w, ∃ snapshots dispatchers guards trackers threads,
    g w = { w with snapshots, dispatchers, guards, trackers, threads }
  alike : ∀ w w' : World, w.erased = w'.erased → (g w).erased = (g w').erased

theorem alike_of_comm {g : World → World} (h : ∀ w : World, (g w).erased = g w.erased)
    {w w' : World} (halike : w.erased = w'.erased) : (g w).erased = (g w').erased := by
  rw [h, h, halike]

theorem Detached.of_comm {g : World → World} (haside : Aside g)
    (hkept : ∀ w, ∃ snapshots dispatchers guards trackers threads,
      g w = { w with snapshots, dispatchers, guards, trackers, threads })
    (hcomm : ∀ w : World, (g w).erased = g w.erased) : Detached g :=
  ⟨haside, hkept, fun _ _ => alike_of_comm hcomm⟩

theorem Detached.releaseGuard (name : Name) (guard : Nat) :
    Detached fun w => (w.forgetGuard name).leaveGuard guard := by
  apply of_comm
  · exact Aside.comp (g := (·.forgetGuard name)) (fun _ _ _ => rfl) (.leaveGuard guard)
  · intro w
    simp only [leaveGuard, releaseIfFree]
    split <;> exact ⟨_, _, _, _, _, rfl⟩
  · exact fun w => erased_leaveGuard (w.forgetGuard name) guard

/-- What is read does not depend on removal policies. -/
def PolicyFree (l : World → α) : Prop := ∀ w : World, l w.erased = l w

namespace PolicyFree

theorem same {l : World → α} (hl : PolicyFree l) {w w' : World} (halike : w.erased = w'.erased) :
    l w = l w' := by
  rw [← hl w, halike, hl w']

theorem map {l : World → α} (hl : PolicyFree l) (g : α → β) : PolicyFree fun w => g (l w) :=
  fun w => congrArg g (hl w)

theorem map₂ {l : World → α} {l' : World → β} (hl : PolicyFree l) (hl' : PolicyFree l')
    (g : α → β → γ) :
    PolicyFree fun w => g (l w) (l' w) :=
  fun w => congrArg₂ g (hl w) (hl' w)

theorem document (d : Name) : PolicyFree fun w => (w.document d).erased :=
  fun w => (congrArg Document.erased (document_erased w d) :)

theorem dispatcher (number : Nat) : PolicyFree fun w => (w.dispatchers.get number).erased :=
  fun w => (congrArg Dispatcher.erased (dispatcher_erased w number) :)

theorem sink? (o : Name) : PolicyFree fun w => (w.observer o).sink? := fun w => sink?_erased w o

theorem knows (o : Name) : PolicyFree (·.observers.contains o) :=
  fun w => contains_observers_erased w o

theorem isOwned (o : Name) : PolicyFree (·.isOwned o) := fun w => isOwned_erased w o

theorem isAlive : PolicyFree (·.isAlive) := isAlive_erased

theorem isOwnedSink (sink : Name) : PolicyFree (Scenario.isOwnedSink sink) :=
  (isOwned sink).map₂ (sink? sink) fun owned found => owned && found.isSome

theorem registry (owner : Owner) : PolicyFree (·.registry owner) := fun w => registry_erased w owner

theorem scope (owner : Owner) : PolicyFree (·.scope owner) := fun w => scope_erased w owner

end PolicyFree

end World

/-- The moment tells that something was turned down. -/
def Moment.isRejection : Moment → Bool
  | refused .. | unbalanced .. => true
  | _ => false

/-- A change that an operation makes by itself, with what is known where it is made. -/
inductive Edit (w : World) : Option Name → (World → World) → Prop
  | aside {at? : Option Name} {g : World → World} (h : World.Detached g) : Edit w at? g
  | reject {at? : Option Name} {m : Moment} (hm : m.isRejection = true) : Edit w at? (·.record m)
  | blockScript (d : Name) (content : ContentId) :
      Edit w (some d) fun v => v.record (.scriptBlocked d (v.document d).id content)
  | createQuiet {at? : Option Name} {name : Name} (hnew : w.observers.contains name = false)
      (binding : Bool) :
      Edit w at? fun v => { v with observers := v.observers.set name (.new (.quiet binding)) }
  | createSink {at? : Option Name} {name : Name} (hnew : w.observers.contains name = false)
      (config : SinkConfig) :
      Edit w at? fun v => { v.record (.sinkMade name config) with
        observers := v.observers.set name (.new (.sink (.new config))) }
  | createRegistry {at? : Option Name} (name : Name) :
      Edit w at? fun v => { v with registries := v.registries.make name .empty }
  | disown {at? : Option Name} {o : Name} (hown : w.isOwned o = true) : Edit w at? (·.disown o)
  | register {at? : Option Name} {owner : Owner} {o : Name} (hwithin : owner.Within at?)
      (hhosts : w.Sound → w.Hosts owner) (hown : w.isOwned o = true) :
      Edit w at? (·.register owner o)
  | unregister {at? : Option Name} {owner : Owner} (hwithin : owner.Within at?)
      (hhosts : w.Sound → w.Hosts owner) (o : Name) : Edit w at? (·.unregister owner o)
  | prune {at? : Option Name} {owner : Owner} (hwithin : owner.Within at?)
      (hhosts : w.Sound → w.Hosts owner) : Edit w at? (·.prune owner)
  /-- The oldest events of a stream are taken. -/
  | readStream {at? : Option Name} {sink : Name} {s : Sink}
      (hsink : (w.observer sink).sink? = some s) {events rest : List Recorded}
      (hbuffer : s.buffer = events ++ rest) :
      Edit w at? (·.readStream sink { s with buffer := rest } events)
  | disconnect {at? : Option Name} (sink : Name) : Edit w at? (·.updateSink sink Sink.disconnect)
  | openTracker {at? : Option Name} (number : Nat) (m : UpdateMask) :
      Edit w at? (·.openScope (.standalone number) m)
  | closeScope {at? : Option Name} {owner : Owner} (hwithin : owner.Within at?) {m : UpdateMask}
      {s : ScopeState} (hleave : (w.scope owner).leave m = .ok s) :
      Edit w at? (·.closeScope owner m s)

theorem Edit.confined {g : World → World} (h : Edit w at? g) : Confined at? g := by
  cases h with
  | aside h => exact .aside h.aside
  | reject hm =>
      apply Confined.note
      revert hm
      cases ‹Moment› <;> simp [Moment.isRejection, Moment.isSpan]
  | blockScript d content =>
      exact .record ((Sees.document d).map fun doc => Moment.scriptBlocked d doc.id content)
        fun _ => rfl
  | createQuiet => exact .aside fun _ _ _ => rfl
  | @createSink _ name _ config =>
      have hmade : Confined at? fun v =>
          { v with observers := v.observers.set name (.new (.sink (.new config))) } :=
        .aside fun _ _ _ => rfl
      exact hmade.comp (.note (m := .sinkMade name config) rfl)
  | createRegistry => exact .aside fun _ _ _ => rfl
  | @disown _ o => exact .disown o
  | register hwithin => exact .register hwithin _
  | unregister hwithin _ o => exact .unregister hwithin o
  | prune hwithin => exact .prune hwithin
  | readStream => exact .readStream _ _ _
  | disconnect sink => exact .updateSink sink _
  | openTracker number m => exact .openScope (.standalone number) m
  | closeScope hwithin => exact .closeScope hwithin _ _

/-- Worlds that differ only by removal policies are changed alike. -/
theorem Edit.alike {g : World → World} (h : Edit w at? g) {v v' : World}
    (halike : v.erased = v'.erased) : (g v).erased = (g v').erased := by
  cases h with
  | aside h => exact h.alike v v' halike
  | reject => rw [erased_record, erased_record, halike]
  | blockScript d content =>
      have hid : (v.document d).id = (v'.document d).id :=
        ((PolicyFree.document d).map Document.id).same halike
      rw [erased_record, erased_record, halike, hid]
  | createQuiet => rw [erased_createObserver, erased_createObserver, halike]
  | @createSink _ name _ config =>
      have hmade := erased_createObserver v name (.sink (.new config))
      have hmade' := erased_createObserver v' name (.sink (.new config))
      have hobservers :
          { v with observers := v.observers.set name (.new (.sink (.new config))) }.erased =
          { v' with observers := v'.observers.set name (.new (.sink (.new config))) }.erased := by
        rw [hmade, hmade', halike]
      exact (congrArg (record · (.sinkMade name config)) hobservers :)
  | createRegistry name =>
      exact alike_of_comm (g := fun u => { u with registries := u.registries.make name .empty })
        (fun _ => rfl) halike
  | disown => exact alike_of_comm (fun u => erased_disown u _) halike
  | register => exact alike_of_comm (fun u => erased_register u _ _) halike
  | unregister => exact alike_of_comm (fun u => erased_unregister u _ _) halike
  | prune => exact alike_of_comm (fun u => erased_prune u _) halike
  | readStream => exact alike_of_comm (fun u => erased_readStream u _ _ _) halike
  | disconnect sink => exact alike_of_comm (fun u => erased_updateSink u sink _) halike
  | openTracker number m => exact alike_of_comm (fun u => erased_openScope u _ m) halike
  | closeScope => exact alike_of_comm (fun u => erased_closeScope u _ _ _) halike

/-! ## Operations -/

namespace Operation

/-- The notification that the operation makes: which document it names, and the notice. -/
def notice? : Operation → Option (Option Name × Notice)
  | beginUpdate d m => some (d, .event (.beginUpdate m))
  | endUpdate d m => some (d, .event (.endUpdate m))
  | raise d e | notify d e => some (d, .event e)
  | queryScript d content parser => some (d, .script content parser)
  | _ => none

/-- The operation makes this notification. -/
def Raises (operation : Operation) (c : Context) (d : Name) (n : Notice) : Prop :=
  ∃ target, operation.notice? = some (target, n) ∧ c.documentName target = d

/-- The operation neither makes a document nor hands notices to observers by itself. -/
def isTame : Operation → Bool
  | createDocument .. | deliver .. | pass .. => false
  | _ => true

end Operation

/-- The run is part of the operation, and begins here. It stands at the document that it targets, if
any, and in a slot of a document, if it has taken one: the document, the thread and the depth of the
slot. Of its result only `f` is used in what follows. -/
inductive Composed (handle : Handlers) (c : Context) (operation : Operation) :
    Option Name → Option (Name × Thread × Nat) → {α γ : Type} → (α → γ) → World →
      (Handlers → Run α) → Prop
  | pure {at? : Option Name} {slot : Option (Name × Thread × Nat)} {α γ : Type} {f : α → γ}
      {w : World} (a : α) : Composed handle c operation at? slot f w fun _ => Pure.pure a
  | panic {at? : Option Name} {slot : Option (Name × Thread × Nat)} {α γ : Type} {f : α → γ}
      {w : World} (message : String) :
      Composed handle c operation at? slot f w fun _ => Run.panic message
  | bind {at? : Option Name} {slot : Option (Name × Thread × Nat)} {α β γ : Type} {f : β → γ}
      {w : World} {m : Handlers → Run α} {r : α → Handlers → Run β}
      (hm : Composed handle c operation at? slot id w m)
      (hr : ∀ a v, m handle w = (.ok a, v) → Composed handle c operation at? slot f v (r a)) :
      Composed handle c operation at? slot f w fun h => m h >>= fun a => r a h
  | map {at? : Option Name} {slot : Option (Name × Thread × Nat)} {α β γ : Type} {f : β → γ}
      {w : World} {m : Handlers → Run α} {l : α → β}
      (hm : Composed handle c operation at? slot (fun a => f (l a)) w m) :
      Composed handle c operation at? slot f w fun h => m h >>= fun a => Pure.pure (l a)
  | read {at? : Option Name} {slot : Option (Name × Thread × Nat)} {α γ : Type} {f : α → γ}
      {w : World} {l : World → α} (hsees : Sees at? l) (hfree : PolicyFree fun v => f (l v)) :
      Composed handle c operation at? slot f w fun _ => Run.read l
  | edit {at? : Option Name} {slot : Option (Name × Thread × Nat)} {w : World} {g : World → World}
      (hg : Edit w at? g) : Composed handle c operation at? slot id w fun _ => Run.change g
  | target {α γ : Type} {f : α → γ} {w : World} (d : Name) {m : Handlers → Run α}
      (hm : Composed handle c operation (some d) none f (w.record (.targeted d)) m) :
      Composed handle c operation none none f w fun h => Run.note (.targeted d) >>= fun _ => m h
  | createDocument {w : World} {name : Name} (htame : operation.isTame = false)
      (hnew : w.documents.contains name = false) (number : DocumentId) (config : Config) :
      Composed handle c operation none none id w fun _ =>
        Run.change fun v => { v with documents := v.documents.set name (.new number config) }
  /-- The notification of the operation runs from where its document has been prepared. -/
  | slot {α γ : Type} {f : Except NotifyError α → γ} {w : World} {d : Name} {n : Notice}
      {body rest : Handlers → Nat → Run (Except NotifyError α)} (hraises : operation.Raises c d n)
      (hbody : ∀ h depth v, body h depth v = rest h depth (v.prepare d n))
      (hrest : ∀ depth left, (w.document d).dispatcher.enter? c.thread = some (depth, left) →
        Composed handle c operation (some d) (some (d, c.thread, depth)) f
          ((w.takeSlot d c.thread n left).prepare d n) fun h => rest h depth) :
      Composed handle c operation (some d) none f w fun h =>
        Notify.withSlot c.thread d n (body h)
  /-- A pass of a document in its own slot. The answers are used, and the report is only handed
  on. -/
  | announce {α β γ : Type} {f : α → γ} {w : World} {d : Name} {n : Notice} {depth : Nat}
      {k : List Verdict → Handlers → Run β} {l : Report → β → α}
      (hdocument : w.documents.contains d = true)
      (hk : ∀ told v, Notify.announce handle c.thread d n depth w = (.ok told, v) →
        Composed handle c operation (some d) (some (d, c.thread, depth)) id v (k told.2))
      (hl : ∀ r r' b, r.erased = r'.erased → f (l r b) = f (l r' b)) :
      Composed handle c operation (some d) (some (d, c.thread, depth)) f w fun h =>
        Notify.announce h c.thread d n depth >>= fun told => k told.2 h >>= fun b =>
          Pure.pure (l told.1 b)
  | deliver {w : World} {d o : Name} {n : Notice} (htame : operation.isTame = false)
      (halive : w.isAlive o = true) :
      Composed handle c operation (some d) none id w fun h =>
        Run.holding o (Notify.deliver h c.thread d n o)
  /-- A pass by hand, in the slot of a dispatcher that stands by itself. Its guard is kept until it
  ends, and its report is only handed on. -/
  | pass {at? : Option Name} {γ : Type} {f : Report × List Verdict → γ} {w : World} {owner : Owner}
      {dispatcher guard depth : Nat} {kind : Kind} {visited : Visit}
      (htame : operation.isTame = false) (hwithin : owner.Within at?)
      (hhosts : w.Sound → w.Hosts owner)
      (hf : ∀ told told', told.1.erased = told'.1.erased → f told = f told') :
      Composed handle c operation at? none f w fun h =>
        Run.read (·.dispatchers.get dispatcher) >>= fun d => Run.keeping guard
          (Pass.start owner (.standalone dispatcher) c.thread d kind depth
            (Scenario.visit h c visited))

namespace Notify

variable {t : Thread}

/-- Before its pass, a load is only prepared. -/
theorem startLoad_body (handle : Handlers) (depth : Nat) (v : World) : (do
      let doc ← Run.read (·.document d)
      if doc.load = .loading then Run.note (.loadRestarted d doc.id)
      Run.change (·.setLoad d .loading)
      let told ← announce handle t d (.event .beginLoad) depth
      pure (.ok told.1) : Run (Except NotifyError Report)) v =
        (announce handle t d (.event .beginLoad) depth >>= fun told => pure (.ok told.1))
          (v.prepare d (.event .beginLoad)) := by
  by_cases hload : (v.document d).load = .loading
  · simp only [Run.bind_apply, Run.read_apply, hload, prepare]
    rfl
  · simp only [Run.bind_apply, Run.read_apply, hload, prepare]
    rfl

theorem finishLoad_body (handle : Handlers) (depth : Nat) (v : World) : (do
      let doc ← Run.read (·.document d)
      if doc.load ≠ .loading then Run.note (.loadNotStarted d doc.id doc.load)
      Run.change (·.setLoad d .loaded)
      let told ← announce handle t d (.event .endLoad) depth
      pure (.ok told.1) : Run (Except NotifyError Report)) v =
        (announce handle t d (.event .endLoad) depth >>= fun told => pure (.ok told.1))
          (v.prepare d (.event .endLoad)) := by
  by_cases hload : (v.document d).load = .loading
  · simp only [Run.bind_apply, Run.read_apply, prepare, ne_eq, hload, not_true_eq_false]
    rfl
  · simp only [Run.bind_apply, Run.read_apply, prepare, ne_eq, hload, not_false_eq_true]
    rfl

theorem violation_map {l : α → β} (m : UpdateMask) :
    (violation d m >>= fun b => pure (Except.map l b)) = violation d m := by
  funext v
  simp only [violation, Run.bind_apply, Run.read_apply]
  cases (v.document d).violation <;> rfl

/-- What is left of the closing of a scope after its pass. The scope is looked at again, as handlers
may have closed it meanwhile. -/
def leaveScope (d : Name) (m : UpdateMask) : Run (Except NotifyError ScopeState) := do
  match (← Run.read (·.scope (.document d))).leave m with
  | .error _ => violation d m
  | .ok s =>
    Run.change (·.closeScope (.document d) m s)
    pure (.ok s)

/-- What is left of the question whether a script may run, once all answers are there. -/
def judge (d : Name) (content : ContentId) (answers : List Verdict) : Run Verdict :=
  if (Verdict.ofAnswers answers).isBlocked then do
    Run.change fun w => w.record (.scriptBlocked d (w.document d).id content)
    pure (.ofAnswers answers)
  else pure (.ofAnswers answers)

end Notify

/-- A sink that has just been made is the only thing that is new. -/
theorem Scenario.makeSink_world {name : Name} {config : SinkConfig} {answer : Answer} {v : World}
    (hnew : w.observers.contains name = false) (hrun : makeSink name config w = (.ok answer, v)) :
    { w.record (.sinkMade name config) with
      observers := w.observers.set name (.new (.sink (.new config))) } = v := by
  cases hfault : config.bufferFault? with
  | some fault =>
      simp [makeSink, given, Run.bind_apply, hnew, hfault, Run.panic, Run.unwind] at hrun
  | none =>
      simp only [makeSink, createObserver, given, Run.note, Run.bind_apply, Run.read_apply,
        Run.change_apply, Run.pure_apply, observers_record, hnew, hfault, Bool.not_false,
        if_true] at hrun
      exact (Prod.mk.inj hrun).2

namespace Composed

variable {handle : Handlers} {c : Context} {operation : Operation}
  {slot : Option (Name × Thread × Nat)} {f : α → γ}

theorem congr {m m' : Handlers → Run α} (hm : Composed handle c operation at? slot f w m)
    (h : ∀ handle v, m' handle v = m handle v) : Composed handle c operation at? slot f w m' := by
  have hsame : m' = m := funext fun handle => funext (h handle)
  rw [hsame]
  exact hm

/-- What is read is known to be so. -/
theorem read_bind {l : World → β} {r : β → Handlers → Run α} (hsees : Sees at? l)
    (hfree : PolicyFree l) (hr : Composed handle c operation at? slot f w (r (l w))) :
    Composed handle c operation at? slot f w fun h => Run.read l >>= fun b => r b h := by
  apply Composed.bind (.read hsees hfree)
  rintro b v ⟨⟩
  exact hr

/-- What is read is used only for what shows nothing of removal policies. -/
theorem read_bind_of {l : World → β} (e : β → β) {r : β → Handlers → Run α} (hsees : Sees at? l)
    (hfree : PolicyFree fun v => e (l v)) (he : ∀ b h, r (e b) h = r b h)
    (hr : Composed handle c operation at? slot f w (r (l w))) :
    Composed handle c operation at? slot f w fun h => Run.read l >>= fun b => r b h := by
  have hseen : Composed handle c operation at? slot f w fun h =>
      Run.read (fun v => e (l v)) >>= fun b => r b h :=
    read_bind (hsees.map e) hfree (hr.congr fun h v => congrFun (he (l w) h) v)
  exact hseen.congr fun h v => (congrFun (he (l v) h) v).symm

theorem edit_bind {g : World → World} {r : Unit → Handlers → Run α} (hg : Edit w at? g)
    (hr : Composed handle c operation at? slot f (g w) (r ())) :
    Composed handle c operation at? slot f w fun h => Run.change g >>= fun u => r u h := by
  apply Composed.bind (.edit hg)
  rintro _ v ⟨⟩
  exact hr

/-! ### Notifications -/

theorem violation (m : UpdateMask) {f : Except NotifyError α → γ} :
    Composed handle c operation (some d) slot f w fun _ => Notify.violation d m := by
  apply read_bind_of Document.erased (.document d) (.document d) fun _ _ => rfl
  apply edit_bind (.reject rfl)
  cases (w.document d).violation with
  | panic => exact .panic _
  | clamp => exact .pure _

variable {n : Notice} {depth : Nat}

/-- A pass whose report is all that is answered. -/
theorem announced {l : Report → α} (hdocument : w.documents.contains d = true)
    (hl : ∀ r r', r.erased = r'.erased → f (l r) = f (l r')) :
    Composed handle c operation (some d) (some (d, c.thread, depth)) f w fun h =>
      Notify.announce h c.thread d n depth >>= fun told => Pure.pure (l told.1) :=
  .announce (k := fun _ _ => Pure.pure ()) (l := fun r _ => l r) hdocument (fun _ _ _ => .pure ())
    fun r r' _ => hl r r'

section

variable (hdocument : w.documents.contains d = true)

include hdocument

theorem openScope {m : UpdateMask} (hraises : operation.Raises c d (.event (.beginUpdate m)))
    {f : Except NotifyError (ScopeState × Report) → γ}
    (hf : ∀ s r r', r.erased = r'.erased → f (.ok (s, r)) = f (.ok (s, r'))) :
    Composed handle c operation (some d) none f w fun h => Notify.openScope h c.thread d m := by
  have hrest : ∀ depth left,
      (w.document d).dispatcher.enter? c.thread = some (depth, left) →
      Composed handle c operation (some d) (some (d, c.thread, depth)) f
        ((w.takeSlot d c.thread (.event (.beginUpdate m)) left).prepare d (.event (.beginUpdate m)))
        fun h => Run.read (·.scope (.document d)) >>= fun s =>
          Notify.announce h c.thread d (.event (.beginUpdate m)) depth >>= fun told =>
            Pure.pure (.ok (s, told.1)) := by
    intro depth left hleft
    apply read_bind (.scope (.self d)) (.scope _)
    exact announced ((accept_actsOn w d c.thread _ left).contains d hdocument) (hf _)
  apply Composed.slot hraises _ hrest
  exact fun _ _ _ => rfl

theorem closeScope {m : UpdateMask} (hraises : operation.Raises c d (.event (.endUpdate m)))
    {f : Except NotifyError (ScopeState × Report) → γ}
    (hf : ∀ s r r', r.erased = r'.erased → f (.ok (s, r)) = f (.ok (s, r'))) :
    Composed handle c operation (some d) none f w fun h => Notify.closeScope h c.thread d m := by
  apply Composed.slot hraises fun _ _ _ => rfl
  intro depth left hleft
  apply read_bind (.scope (.self d)) (.scope _)
  have hknown := (accept_actsOn w d c.thread (.event (.endUpdate m)) left).contains d hdocument
  generalize (w.takeSlot d c.thread (.event (.endUpdate m)) left).prepare d _ = u at hknown ⊢
  cases (u.scope (.document d)).check m with
  | error e => exact violation m
  | ok _ =>
      have hleave : ∀ v, Composed handle c operation (some d) (some (d, c.thread, depth)) id v
          fun _ => Notify.leaveScope d m := by
        intro v
        apply read_bind (.scope (.self d)) (.scope _)
        cases hleave : (v.scope (.document d)).leave m with
        | error e => exact violation m
        | ok s => exact edit_bind (.closeScope (.self d) hleave) (.pure _)
      have hpass : Composed handle c operation (some d) (some (d, c.thread, depth)) f u fun h =>
          Notify.announce h c.thread d (.event (.endUpdate m)) depth >>= fun told =>
            Notify.leaveScope d m >>= fun left => Pure.pure (left.map (·, told.1)) := by
        apply Composed.announce (k := fun _ _ => Notify.leaveScope d m)
          (l := fun r left => Except.map (fun s => (s, r)) left) hknown fun _ v _ => hleave v
        intro r r' left hr
        cases left with
        | error e => rfl
        | ok s => exact hf s r r' hr
      apply hpass.congr
      intro h v
      refine congrFun (bind_congr fun told => ?_) v
      funext v
      simp only [Notify.leaveScope, Run.bind_apply, Run.read_apply]
      cases (v.scope (.document d)).leave m with
      | error e => exact (congrFun (Notify.violation_map m) v).symm
      | ok s => rfl

/-- A notification that is only prepared before its pass, and answers with its report. -/
theorem reported {body : Handlers → Nat → Run (Except NotifyError Report)}
    (hraises : operation.Raises c d n) {f : Except NotifyError Report → γ}
    (hf : ∀ r r', r.erased = r'.erased → f (.ok r) = f (.ok r'))
    (hbody : ∀ h depth v, body h depth v =
      (Notify.announce h c.thread d n depth >>= fun told => Pure.pure (.ok told.1))
        (v.prepare d n)) :
    Composed handle c operation (some d) none f w fun h =>
      Notify.withSlot c.thread d n (body h) := by
  apply Composed.slot hraises hbody
  intro depth left hleft
  exact announced ((accept_actsOn w d c.thread _ left).contains d hdocument) hf

theorem queryScript {content : ContentId} {parser : ParserId}
    (hraises : operation.Raises c d (.script content parser))
    {f : Except NotifyError Verdict → γ} :
    Composed handle c operation (some d) none f w fun h =>
      Notify.queryScript h c.thread d content parser := by
  apply Composed.slot hraises fun _ _ _ => rfl
  intro depth left hleft
  have hpass : Composed handle c operation (some d) (some (d, c.thread, depth)) f
      ((w.takeSlot d c.thread (.script content parser) left).prepare d (.script content parser))
      fun h => Notify.announce h c.thread d (.script content parser) depth >>= fun told =>
        Notify.judge d content told.2 >>= fun v => Pure.pure (.ok v) := by
    apply Composed.announce (k := fun answers _ => Notify.judge d content answers)
      (l := fun _ v => Except.ok v)
    · exact (accept_actsOn w d c.thread (.script content parser) left).contains d hdocument
    · intro told v _
      unfold Notify.judge
      split
      · exact edit_bind (.blockScript d content) (.pure _)
      · exact .pure _
    · intro _ _ _ _
      rfl
  apply hpass.congr
  intro h v
  refine congrFun (bind_congr fun told => ?_) v
  unfold Notify.judge
  dsimp only
  split <;> rfl

theorem notify {e : Event} (hraises : operation.Raises c d (.event e))
    {f : Except NotifyError Report → γ}
    (hf : ∀ r r', r.erased = r'.erased → f (.ok r) = f (.ok r')) :
    Composed handle c operation (some d) none f w fun h => Notify.notify h c.thread d e := by
  cases e with
  | beginUpdate m => exact .map (openScope hdocument hraises fun _ => hf)
  | endUpdate m => exact .map (closeScope hdocument hraises fun _ => hf)
  | beginLoad => exact reported hdocument hraises hf Notify.startLoad_body
  | endLoad => exact reported hdocument hraises hf Notify.finishLoad_body
  | _ => exact reported hdocument hraises hf fun _ _ _ => rfl

theorem raise {e : Event} (hraises : operation.Raises c d (.event e))
    {f : Except NotifyError Raised → γ}
    (hf : ∀ r r', r.erased = r'.erased → f (.ok (.report r)) = f (.ok (.report r'))) :
    Composed handle c operation (some d) none f w fun h => Notify.raise h c.thread d e := by
  cases e with
  | beginUpdate m => exact .map (.map (openScope hdocument hraises fun _ _ _ _ => rfl))
  | endUpdate m => exact .map (.map (closeScope hdocument hraises fun _ _ _ _ => rfl))
  | _ => exact .map (notify hdocument hraises hf)

end

/-! ### Operations -/

theorem given {condition : World → Bool} {m : Handlers → Run Answer} {f : Answer → γ}
    (hsees : Sees at? condition) (hfree : PolicyFree condition)
    (hm : condition w = true → Composed handle c operation at? slot f w m) :
    Composed handle c operation at? slot f w fun h => Scenario.given condition (m h) := by
  apply read_bind hsees hfree
  cases hmet : condition w with
  | true => exact hm hmet
  | false => exact .pure _

theorem onDocument {target : Option Name} {run : Handlers → Name → Run Answer} {f : Answer → γ}
    (h : ∀ v, v.documents.contains (c.documentName target) = true →
      Composed handle c operation (some (c.documentName target)) none f v
        fun h => run h (c.documentName target)) :
    Composed handle c operation none none f w fun h => Scenario.onDocument c target (run h) :=
  given (.contains _) (fun v => contains_documents_erased v _)
    fun hdocument => .target _ (h (w.record _) hdocument)

theorem onNamed {number? : World → Option Nat} {run : Handlers → Nat → Run Answer} {f : Answer → γ}
    (hsees : Sees at? number?) (hfree : PolicyFree number?)
    (h : ∀ number, number? w = some number →
      Composed handle c operation at? slot f w fun h => run h number) :
    Composed handle c operation at? slot f w fun h => Scenario.onNamed number? (run h) := by
  apply read_bind hsees hfree
  cases hnumber : number? w with
  | none => exact .pure _
  | some number => exact h number hnumber

/-- A registry that has a name has been made. -/
theorem onPlace {place : Place} {run : Handlers → Owner → Run Answer} {f : Answer → γ}
    (h : ∀ at? owner v, owner.Within at? → (v.Sound → v.Hosts owner) →
      Composed handle c operation at? none f v fun h => run h owner) :
    Composed handle c operation none none f w fun h => Scenario.onPlace c place (run h) := by
  cases place with
  | registry r =>
      apply onNamed (.elsewhere fun _ _ _ => rfl) fun _ => rfl
      intro number hnumber
      exact h none _ w (.standalone number) fun hsound => hsound.numbers r number hnumber
  | document target =>
      show Composed handle c operation none none f w fun h =>
        Scenario.onDocument c target fun d => run h (.document d)
      apply onDocument
      intro v hdocument
      exact h _ (.document _) v (.self _) fun _ => hdocument

theorem onStream {sink : Name} {run : Handlers → Sink → Run Answer} {f : Answer → γ}
    (h : ∀ s, (w.observer sink).sink? = some s →
      Composed handle c operation at? slot f w fun h => run h s) :
    Composed handle c operation at? slot f w fun h => Scenario.onStream sink (run h) := by
  have hseen : Composed handle c operation at? slot f w fun h =>
      Run.read (fun v => (v.observer sink).sink?) >>= fun found =>
        found.elim (Pure.pure Scenario.unusable) fun s =>
          if s.connected then run h s else Pure.pure Scenario.unusable := by
    apply read_bind (.elsewhere fun _ _ _ => rfl) (.sink? sink)
    cases hsink : (w.observer sink).sink? with
    | none => exact .pure _
    | some s =>
        dsimp only [Option.elim]
        cases s.connected with
        | true => exact h s hsink
        | false => exact .pure _
  apply hseen.congr
  intro h v
  simp only [Scenario.onStream, Run.bind_apply, Run.read_apply]
  cases (v.observer sink).sink? <;> rfl

theorem dropStream (sink : Name) {f : Answer → γ} :
    Composed handle c operation at? slot f w fun _ => Scenario.dropStream sink := by
  have hseen : Composed handle c operation at? slot f w fun _ =>
      Run.read (fun v => (v.observer sink).sink?) >>= fun found =>
        found.elim (Pure.pure Scenario.unusable) fun s =>
          Run.change (·.updateSink sink Sink.disconnect) >>= fun _ =>
            Pure.pure (.truth s.connected) := by
    apply read_bind (.elsewhere fun _ _ _ => rfl) (.sink? sink)
    cases (w.observer sink).sink? with
    | none => exact .pure _
    | some s => exact edit_bind (.disconnect sink) (.pure _)
  apply hseen.congr
  intro h v
  simp only [Scenario.dropStream, Run.bind_apply, Run.read_apply]
  cases (v.observer sink).sink? <;> rfl

theorem makeSink (name : Name) (config : SinkConfig) {f : Answer → γ} :
    Composed handle c operation at? slot f w fun _ => Scenario.makeSink name config := by
  have helsewhere : Sees at? fun v => !v.observers.contains name := .elsewhere fun _ _ _ => rfl
  cases hfault : config.bufferFault? with
  | some fault =>
      have hpanic : Composed handle c operation at? slot f w fun _ =>
          Scenario.given (fun v => !v.observers.contains name) (Run.panic fault.message) :=
        given helsewhere ((PolicyFree.knows name).map not) fun _ => .panic _
      apply hpanic.congr
      intro h v
      simp only [Scenario.makeSink, hfault]
  | none =>
      -- Nobody has taken the name since it was looked up first.
      have hmade : Composed handle c operation at? slot f w fun _ =>
          Scenario.given (fun v => !v.observers.contains name) (Run.change (fun v =>
            { v.record (.sinkMade name config) with
              observers := v.observers.set name (.new (.sink (.new config))) }) >>= fun _ =>
            Pure.pure .nothing) :=
        given helsewhere ((PolicyFree.knows name).map not) fun hnew =>
          edit_bind (.createSink (by simpa using hnew) config) (.pure _)
      apply hmade.congr
      intro h v
      simp only [Scenario.makeSink, Scenario.createObserver, Scenario.given, Run.bind_apply,
        Run.read_apply, hfault]
      cases hnew : v.observers.contains name with
      | true => rfl
      | false => simp [Run.note, Run.bind_apply, hnew]

theorem enter (number : Nat) (kind : Kind) (guard : Name) {f : Answer → γ} :
    Composed handle c operation at? slot f w fun _ => Scenario.enter c number kind guard := by
  apply given (.elsewhere fun _ _ _ => rfl) fun _ => rfl
  intro _
  have hseen : Composed handle c operation at? slot f w fun _ =>
      Run.read (fun v => (v.dispatchers.get number).erased) >>= fun d =>
        if d.isFull c.thread then
          Run.note (.refused (.standalone number) c.thread d.document kind d.maxDepth) >>= fun _ =>
            Pure.pure (.failed (.notify (.depthExceeded d.document kind d.maxDepth)))
        else
          Run.change (fun v => v.makeGuard guard number ((v.dispatchers.get number).take c.thread)
            c.thread (d.inFlight c.thread + 1)) >>= fun _ =>
            Pure.pure (.depth (d.inFlight c.thread + 1)) := by
    apply read_bind (.elsewhere fun _ _ _ => rfl) (.dispatcher number)
    cases (w.dispatchers.get number).erased.isFull c.thread with
    | true => exact edit_bind (.reject rfl) (.pure _)
    | false =>
        refine edit_bind (.aside (.of_comm (fun _ _ _ => rfl) (fun _ => ⟨_, _, _, _, _, rfl⟩) ?_))
          (.pure _)
        intro v
        rw [erased_makeGuard, dispatcher_erased]
        rfl
  apply hseen.congr
  intro h v
  simp only [Run.bind_apply, Run.read_apply]
  cases hfull : (v.dispatchers.get number).erased.isFull c.thread with
  | true =>
      have hrefused : (v.dispatchers.get number).enter? c.thread = none :=
        Dispatcher.enter?_of_full hfull
      rw [hrefused, if_pos rfl]
      rfl
  | false =>
      have hentered : (v.dispatchers.get number).enter? c.thread = some _ :=
        Dispatcher.enter?_of_room hfull
      rw [hentered, if_neg Bool.false_ne_true]
      rfl

theorem register {owner : Owner} (hwithin : owner.Within at?) (hhosts : w.Sound → w.Hosts owner)
    (o : Name) {f : Answer → γ} :
    Composed handle c operation at? slot f w fun _ => Scenario.register owner o :=
  given (.elsewhere fun _ _ _ => rfl) (.isOwned o) fun hown =>
    edit_bind (.register hwithin hhosts hown) (.pure _)

theorem unregister {owner : Owner} (hwithin : owner.Within at?) (hhosts : w.Sound → w.Hosts owner)
    (o : Name) {f : Answer → γ} :
    Composed handle c operation at? slot f w fun _ => Scenario.unregister owner o := by
  apply read_bind ((Sees.registry hwithin).map (·.hasKey o))
    ((PolicyFree.registry owner).map (·.hasKey o))
  exact edit_bind (.unregister hwithin hhosts o) (.pure _)

theorem takeSnapshot {owner : Owner} (hwithin : owner.Within at?)
    (hhosts : w.Sound → w.Hosts owner) (name : Name) {f : Answer → γ} :
    Composed handle c operation at? slot f w fun _ => Scenario.takeSnapshot owner name := by
  apply edit_bind (.prune hwithin hhosts)
  apply read_bind ((Sees.registry hwithin).map (·.entries))
    ((PolicyFree.registry owner).map (·.entries))
  exact edit_bind (.aside (.of_comm (fun _ _ _ => rfl) (fun _ => ⟨_, _, _, _, _, rfl⟩)
    fun _ => rfl)) (.pure _)

theorem createSink (name : Name) (config : SinkConfig) (attach : Option (Option Name))
    {f : Answer → γ} :
    Composed handle c operation none none f w fun _ =>
      Scenario.createSink c name config attach := by
  cases attach with
  | none => exact makeSink name config
  | some target =>
      simp only [Scenario.createSink]
      apply onDocument
      intro v hdocument
      apply given (.elsewhere fun _ _ _ => rfl) ((PolicyFree.knows name).map not)
      intro hnew
      apply Composed.bind (makeSink name config)
      intro answer u hrun
      obtain rfl := Scenario.makeSink_world (by simpa using hnew) hrun
      refine edit_bind (.register (.self _) (fun _ => hdocument) ?_) (.pure _)
      simp [isOwned, observer, Observer.new]

theorem readStream {sink : Name} {s : Sink} (hsink : (w.observer sink).sink? = some s)
    {events rest : List Recorded} (hbuffer : s.buffer = events ++ rest) (answer : Answer)
    {f : Answer → γ} :
    Composed handle c operation at? slot f w fun _ =>
      Run.change (·.readStream sink { s with buffer := rest } events) >>= fun _ =>
        Pure.pure answer :=
  edit_bind (.readStream hsink hbuffer) (.pure _)

theorem receive {sink : Name} {s : Sink} (hsink : (w.observer sink).sink? = some s) (wait : Wait)
    {f : Answer → γ} :
    Composed handle c operation at? slot f w fun _ => Scenario.receive sink wait s := by
  unfold Scenario.receive
  cases hbuffer : s.buffer with
  | nil =>
      rw [show s.take? = none by simp [Sink.take?, hbuffer]]
      exact .read (.elsewhere fun _ _ _ => rfl)
        (PolicyFree.isAlive.map fun alive => f (Scenario.emptyAnswer (alive sink) wait))
  | cons r rest =>
      rw [show s.take? = some (r, { s with buffer := rest }) by simp [Sink.take?, hbuffer]]
      have hfirst : s.buffer = [r] ++ rest := hbuffer
      exact readStream hsink hfirst _

/-- A new document gets its id by the number of documents. -/
theorem newDocument (htame : operation.isTame = false) (name : Name) (config : Config)
    {f : Answer → γ} :
    Composed handle c operation none none f w fun _ => Scenario.createDocument name config := by
  have hknown : PolicyFree fun v => v.documents.contains name :=
    fun v => contains_documents_erased v name
  apply given ((Sees.contains name).map not) (hknown.map not)
  intro hnew
  apply read_bind
  · intro v b doc past _ hdoc
    have hlength : (v.substitute b doc past).documents.rows.length = v.documents.rows.length :=
      Table.length_set hdoc.known doc
    simp only [hlength]
  · intro v
    have hlength : v.erased.documents.rows.length = v.documents.rows.length := by
      simp [World.erased, Table.map]
    simp only [hlength]
  · exact .bind (.createDocument htame (by simpa using hnew) _ config) fun _ _ _ => .pure _

theorem passByHand {owner : Owner} (htame : operation.isTame = false) (hwithin : owner.Within at?)
    (hhosts : w.Sound → w.Hosts owner) (dispatcher guard : Nat) (kind : Kind) (visited : Visit) :
    Composed handle c operation at? none Answer.erased w fun h =>
      Scenario.pass h c owner dispatcher guard kind visited := by
  have hsees : Sees at? (Scenario.canVisit visited) := by
    cases visited with
    | deliver e d => exact .contains d
    | answer supported => exact .elsewhere fun _ _ _ => rfl
  have hfree : PolicyFree (Scenario.canVisit visited) := by
    intro v
    cases visited with
    | deliver e d => exact contains_documents_erased v d
    | answer supported => rfl
  apply given hsees hfree
  intro _
  -- the guard may as well be looked at first
  have hpass : Composed handle c operation at? none Answer.erased w fun h =>
      Run.read (·.guards.get guard) >>= fun g => (Run.read (·.dispatchers.get dispatcher) >>=
        fun d => Run.keeping guard
          (Pass.start owner (.standalone dispatcher) c.thread d kind g.depth
            (Scenario.visit h c visited))) >>= fun told => Pure.pure (.report told.1) := by
    apply read_bind (.elsewhere fun _ _ _ => rfl) fun _ => rfl
    exact .map (.pass htame hwithin hhosts fun told told' h => congrArg Answer.report h)
  exact hpass.congr fun _ _ => rfl

theorem dispatcherState (number : Nat) :
    Composed handle c operation at? slot Answer.erased w fun _ =>
      Scenario.dispatcherState c number :=
  .read (.elsewhere fun _ _ _ => rfl) ((PolicyFree.dispatcher number).map fun d =>
    Answer.dispatcher (d.inFlight c.thread) d.maxDepth .skip)

end Composed

/-- Every operation is composed of such parts. -/
theorem Scenario.perform_composed (handle : Handlers) (c : Context) (operation : Operation)
    (w : World) :
    Composed handle c operation none none Answer.erased w fun h => perform h c operation := by
  have elsewhere : ∀ {at? : Option Name} {slot : Option (Name × Thread × Nat)} {v : World}
      {l : World → Answer}, (∀ (u : World) (documents : Table Name Document) (past : List Moment),
        l { u with documents := documents, past := past } = l u) →
      (PolicyFree fun u => (l u).erased) →
      Composed handle c operation at? slot Answer.erased v fun _ => Run.read l :=
    fun hsees hfree => .read (.elsewhere hsees) hfree
  cases operation with
  | createDocument name config => exact .newDocument rfl name config
  | documentState target =>
      refine .onDocument fun v _ => .read ?_ fun u => ?_
      · exact (Sees.document _).map₂ .isAlive fun doc alive =>
          Answer.documentState doc.scope doc.load (doc.registry.length alive)
            (doc.dispatcher.inFlight c.thread) (doc.inspect alive)
      · simp only [document_erased, isAlive_erased]
        rfl
  | beginUpdate target m =>
      simp only [perform]
      refine .onDocument fun v hdocument => ?_
      exact .map (.map (.openScope hdocument ⟨target, rfl, rfl⟩ fun _ _ _ _ => rfl))
  | endUpdate target m =>
      simp only [perform]
      refine .onDocument fun v hdocument => ?_
      exact .map (.map (.closeScope hdocument ⟨target, rfl, rfl⟩ fun _ _ _ _ => rfl))
  | raise target e =>
      simp only [perform]
      refine .onDocument fun v hdocument => ?_
      exact .map (.raise hdocument ⟨target, rfl, rfl⟩ fun r r' h => congrArg Answer.report h)
  | notify target e =>
      simp only [perform]
      refine .onDocument fun v hdocument => ?_
      exact .map (.notify hdocument ⟨target, rfl, rfl⟩ fun r r' h => congrArg Answer.report h)
  | queryScript target content parser =>
      simp only [perform]
      refine .onDocument fun v hdocument => ?_
      exact .map (.queryScript hdocument ⟨target, rfl, rfl⟩)
  | createQuiet name binding =>
      refine .given (.elsewhere fun _ _ _ => rfl) ((PolicyFree.knows name).map not) fun hnew => ?_
      exact .edit_bind (.createQuiet (by simpa using hnew) binding) (.pure _)
  | drop o =>
      refine .read_bind (.elsewhere fun _ _ _ => rfl) (.isOwned o) ?_
      cases hown : w.isOwned o with
      | true => exact .edit_bind (.disown hown) (.pure _)
      | false => exact .pure _
  | register place o => exact .onPlace fun at? owner v hwithin hhosts => .register hwithin hhosts o
  | unregister place o =>
      exact .onPlace fun at? owner v hwithin hhosts =>
        .given (.elsewhere fun _ _ _ => rfl) (.knows o) fun _ => .unregister hwithin hhosts o
  | isRegistered place o =>
      simp only [perform]
      refine .onPlace fun at? owner v hwithin _ => ?_
      refine .given (.elsewhere fun _ _ _ => rfl) (.knows o) fun _ => .read ?_ ?_
      · exact (Sees.registry hwithin).map₂ .isAlive fun r alive => Answer.truth (r.contains alive o)
      · exact (PolicyFree.registry owner).map₂ .isAlive
          fun r alive => Answer.truth (r.contains alive o)
  | listKeys place =>
      refine .onPlace fun at? owner v hwithin _ => .read ?_ ?_
      · exact (Sees.registry hwithin).map₂ .isAlive fun r alive =>
          Answer.keys (r.length alive) (r.isEmpty alive) (r.keys alive)
      · exact (PolicyFree.registry owner).map₂ .isAlive fun r alive =>
          Answer.keys (r.length alive) (r.isEmpty alive) (r.keys alive)
  | deliver target o e =>
      simp only [perform]
      refine .onDocument fun v _ => ?_
      refine .given (.elsewhere fun _ _ _ => rfl) (.isOwned o) fun hown => ?_
      exact .bind (.deliver rfl (isAlive_of_isOwned hown)) fun _ _ _ => .pure _
  | hasBinding o =>
      refine .given (.elsewhere fun _ _ _ => rfl) (.isOwned o) fun _ => ?_
      exact elsewhere (fun _ _ _ => rfl) fun v => congrArg Answer.truth (hasBinding_erased v o)
  | createRegistry name => exact .edit_bind (.createRegistry name) (.pure _)
  | takeSnapshot place name =>
      exact .onPlace fun at? owner v hwithin hhosts => .takeSnapshot hwithin hhosts name
  | snapshotState name =>
      exact .given (.elsewhere fun _ _ _ => rfl) (fun _ => rfl)
        fun _ => elsewhere (fun _ _ _ => rfl) fun _ => rfl
  | createDispatcher name document maxDepth removal =>
      refine .edit_bind (.aside ⟨fun _ _ _ => rfl, fun _ => ⟨_, _, _, _, _, rfl⟩, ?_⟩) ?_
      · intro v v' halike
        rw [erased_createDispatcher, erased_createDispatcher, halike]
      · exact .onNamed (.elsewhere fun _ _ _ => rfl) (fun _ => rfl)
          fun number _ => .dispatcherState number
  | dispatcherState name =>
      exact .onNamed (.elsewhere fun _ _ _ => rfl) (fun _ => rfl)
        fun number _ => .dispatcherState number
  | enter dispatcher kind guard =>
      exact .onNamed (.elsewhere fun _ _ _ => rfl) (fun _ => rfl)
        fun number _ => .enter number kind guard
  | releaseGuard guard =>
      refine .onNamed (.elsewhere fun _ _ _ => rfl) (fun _ => rfl) fun number _ => ?_
      refine .read_bind (.elsewhere fun _ _ _ => rfl) (fun _ => rfl) ?_
      exact .edit_bind (.aside (.releaseGuard guard number)) (.pure _)
  | pass place dispatcher guard kind visited =>
      simp only [perform]
      refine .onPlace fun at? owner v hwithin hhosts => ?_
      refine .onNamed (.elsewhere fun _ _ _ => rfl) (fun _ => rfl) fun dispatcher _ => ?_
      refine .onNamed (.elsewhere fun _ _ _ => rfl) (fun _ => rfl) fun guard _ => ?_
      exact .passByHand rfl hwithin hhosts dispatcher guard kind visited
  | createTracker name =>
      exact .edit_bind (.aside (.of_comm (fun _ _ _ => rfl) (fun _ => ⟨_, _, _, _, _, rfl⟩)
        fun _ => rfl)) (.pure _)
  | trackerBegin name m =>
      refine .onNamed (.elsewhere fun _ _ _ => rfl) (fun _ => rfl) fun number _ => ?_
      exact .edit_bind (.openTracker number m) (elsewhere (fun _ _ _ => rfl) fun _ => rfl)
  | trackerEnd name m =>
      refine .onNamed (.elsewhere fun _ _ _ => rfl) (fun _ => rfl) fun number _ => ?_
      refine .read_bind (.elsewhere fun _ _ _ => rfl) (.scope (.standalone number)) ?_
      cases hleave : (w.scope (.standalone number)).leave m with
      | error e => exact .pure _
      | ok s => exact .edit_bind (.closeScope (.standalone number) hleave) (.pure _)
  | trackerCheck name m =>
      refine .onNamed (.elsewhere fun _ _ _ => rfl) (fun _ => rfl) fun number _ => ?_
      refine .read_bind (.elsewhere fun _ _ _ => rfl) (.scope (.standalone number)) ?_
      cases (w.scope (.standalone number)).check m with
      | error e => exact .pure _
      | ok _ => exact .pure _
  | trackerState name =>
      exact .onNamed (.elsewhere fun _ _ _ => rfl) (fun _ => rfl)
        fun number _ => elsewhere (fun _ _ _ => rfl) fun _ => rfl
  | createSink name config attach => exact .createSink name config attach
  | detach target sink =>
      simp only [perform]
      refine .onDocument fun v hdocument => ?_
      exact .given (.elsewhere fun _ _ _ => rfl) (.isOwnedSink sink)
        fun _ => .unregister (.self _) (fun _ => hdocument) sink
  | sinkState sink =>
      refine .given (.elsewhere fun _ _ _ => rfl) (.isOwnedSink sink) fun _ => ?_
      refine elsewhere (fun _ _ _ => rfl) fun v => ?_
      dsimp only
      rw [sink?_erased]
  | streamLength sink => exact .onStream fun s _ => .pure _
  | drain sink =>
      exact .onStream fun s hsink => .readStream hsink (List.append_nil s.buffer).symm _
  | jsonLines sink =>
      exact .onStream fun s hsink => .readStream hsink (List.append_nil s.buffer).symm _
  | receive sink wait => exact .onStream fun s hsink => .receive hsink wait
  | dropStream sink => exact .dropStream sink
  | panic message => exact .panic _

end ChangeNotice
