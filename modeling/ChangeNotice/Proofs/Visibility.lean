import ChangeNotice.Proofs.Change

/-! # What can be seen of documents

To look past a document is to see the same when the document is replaced by another
one of the same id. The journal is written, and never looked at. A change that is
confined to one document looks past all others and leaves them alone.
-/

namespace ChangeNotice

open World

variable {α β γ : Type} {at? : Option Name} {w : World} {b d : Name} {doc : Document}
  {past : List Moment}

/-- The moment is an entry of the span of a pass. -/
def Moment.isSpan : Moment → Bool
  | passEntered .. | passFinished .. | passLeft _ => true
  | _ => false

/-! ## Looking past a document -/

namespace World

/-- Another document in the place of `b`, and another journal. -/
def substitute (w : World) (b : Name) (doc : Document) (past : List Moment) : World :=
  { w with documents := w.documents.set b doc, past := past }

/-- The document can take the place of `b`: it has the same id. -/
structure Substitutes (w : World) (b : Name) (doc : Document) : Prop where
  known : w.documents.contains b = true
  id : doc.id = (w.document b).id

theorem document_substitute (w : World) (b other : Name) (doc : Document) (past : List Moment) :
    (w.substitute b doc past).document other = if other = b then doc else w.document other :=
  Table.get_set w.documents b other doc

theorem contains_substitute (h : w.Substitutes b doc) (past : List Moment) (other : Name) :
    (w.substitute b doc past).documents.contains other = w.documents.contains other := by
  show (w.documents.set b doc).contains other = _
  rw [Table.contains_set]
  by_cases hother : other = b
  · simp [hother, h.known]
  · simp [hother]

end World

/-- What is seen depends on no document but this one, and not on the journal. -/
def Sees (at? : Option Name) (f : World → α) : Prop :=
  ∀ w b doc past, at? ≠ some b → w.Substitutes b doc → f (w.substitute b doc past) = f w

namespace Sees

/-- Nothing is looked up among documents or in the journal. -/
theorem elsewhere {f : World → α}
    (h : ∀ (w : World) (documents : Table Name Document) (past : List Moment),
      f { w with documents := documents, past := past } = f w) : Sees at? f :=
  fun w _ _ past _ _ => h w _ past

theorem document (d : Name) : Sees (some d) (·.document d) := by
  intro w b doc past hb _
  have hne : d ≠ b := fun heq => hb (congrArg some heq)
  exact (document_substitute w b d doc past).trans (if_neg hne)

theorem contains (d : Name) : Sees at? (·.documents.contains d) :=
  fun _ _ _ past _ hdoc => contains_substitute hdoc past d

theorem map {f : World → α} (hf : Sees at? f) (g : α → β) : Sees at? fun w => g (f w) :=
  fun w b doc past hb hdoc => congrArg g (hf w b doc past hb hdoc)

theorem map₂ {f : World → α} {f' : World → β} (hf : Sees at? f) (hf' : Sees at? f')
    (g : α → β → γ) : Sees at? fun w => g (f w) (f' w) :=
  fun w b doc past hb hdoc => congrArg₂ g (hf w b doc past hb hdoc) (hf' w b doc past hb hdoc)

end Sees

/-- What the owner has can be seen by those who see this document. -/
def Owner.Within (at? : Option Name) : Owner → Prop
  | .document d => at? = some d
  | .standalone _ => True

theorem Owner.Within.self (d : Name) : (Owner.document d).Within (some d) := rfl

theorem Owner.Within.standalone (number : Nat) : (Owner.standalone number).Within at? := trivial

theorem Sees.registry {owner : Owner} (h : owner.Within at?) : Sees at? (·.registry owner) := by
  cases owner with
  | document d =>
      subst h
      exact (Sees.document d).map (·.registry)
  | standalone number => exact .elsewhere fun _ _ _ => rfl

theorem Sees.scope {owner : Owner} (h : owner.Within at?) : Sees at? (·.scope owner) := by
  cases owner with
  | document d =>
      subst h
      exact (Sees.document d).map (·.scope)
  | standalone number => exact .elsewhere fun _ _ _ => rfl

theorem Sees.isAlive : Sees at? (·.isAlive) := .elsewhere fun _ _ _ => rfl

/-! ## Confined changes -/

/-- Neither documents nor the journal are looked at or changed. -/
def World.Aside (g : World → World) : Prop :=
  ∀ (w : World) (documents : Table Name Document) (past : List Moment),
    g { w with documents := documents, past := past } =
      { g w with documents := documents, past := past }

namespace World.Aside

variable {g : World → World}

-- What is put back after the change is what was there before.
theorem documents_eq (h : Aside g) (w : World) : (g w).documents = w.documents :=
  (congrArg documents (h w w.documents w.past) :)

theorem past_eq (h : Aside g) (w : World) : (g w).past = w.past :=
  (congrArg past (h w w.documents w.past) :)

theorem comp {g' : World → World} (h : Aside g) (h' : Aside g') : Aside fun w => g' (g w) := by
  intro w documents past
  dsimp only
  rw [h, h']

theorem leaveGuard (guard : Nat) : Aside (·.leaveGuard guard) := by
  intro w documents past
  simp only [World.leaveGuard, World.releaseIfFree]
  split <;> rfl

end World.Aside

/-- The change looks at no document but this one and changes no other. It leaves slots of documents
alone, and no pass is begun or ended by it. -/
inductive Confined : Option Name → (World → World) → Prop
  | aside {at? : Option Name} {g : World → World} (h : World.Aside g) : Confined at? g
  | record {at? : Option Name} {f : World → Moment} (hsees : Sees at? f)
      (hspan : ∀ w, (f w).isSpan = false) : Confined at? fun w => w.record (f w)
  | document {d : Name} {f : World → Document → Document} (hsees : Sees (some d) f)
      (hslots : ∀ w doc, (f w doc).dispatcher = doc.dispatcher) :
      Confined (some d) fun w => w.updateDocument d (f w)
  | comp {at? : Option Name} {g g' : World → World} (hg : Confined at? g) (hg' : Confined at? g') :
      Confined at? fun w => g' (g w)
  | ite {at? : Option Name} {p : World → Bool} {g g' : World → World} (hp : Sees at? p)
      (hg : Confined at? g) (hg' : Confined at? g') :
      Confined at? fun w => if p w then g w else g' w

namespace Confined

variable {g g' : World → World} {owner : Owner}

theorem congr (hg : Confined at? g) (h : ∀ w, g' w = g w) : Confined at? g' :=
  (funext h : g' = g) ▸ hg

theorem nothing : Confined at? fun w => w := aside fun _ _ _ => rfl

theorem note {m : Moment} (hspan : m.isSpan = false) : Confined at? (·.record m) :=
  record (f := fun _ => m) (.elsewhere fun _ _ _ => rfl) fun _ => hspan

/-! Observers -/

theorem updateObserver (o : Name) (f : Observer → Observer) : Confined at? (·.updateObserver o f) :=
  aside fun _ _ _ => rfl

theorem freeIfDead (o : Name) : Confined at? (·.freeIfDead o) :=
  ite (p := (·.isAlive o)) (.elsewhere fun _ _ _ => rfl) nothing (note rfl)

theorem hold (o : Name) : Confined at? (·.hold o) := (updateObserver o _).comp (note rfl)

theorem unhold (o : Name) : Confined at? (·.unhold o) :=
  ((updateObserver o _).comp (note rfl)).comp (freeIfDead o)

theorem disown (o : Name) : Confined at? (·.disown o) :=
  ((updateObserver o _).comp (note rfl)).comp (freeIfDead o)

theorem updateSink (o : Name) (f : Sink → Sink) : Confined at? (·.updateSink o f) := by
  apply aside
  intro w documents past
  have hrole : (World.observer { w with documents := documents, past := past } o).role =
      (w.observer o).role := rfl
  simp only [World.updateSink, hrole]
  split <;> rfl

theorem updateRecorder (o : Name) (f : Recorder → Recorder) :
    Confined at? (·.updateRecorder o f) := by
  apply aside
  intro w documents past
  have hrole : (World.observer { w with documents := documents, past := past } o).role =
      (w.observer o).role := rfl
  simp only [World.updateRecorder, hrole]
  split <;> rfl

theorem readStream (o : Name) (s : Sink) (events : List Recorded) :
    Confined at? (·.readStream o s events) :=
  (updateSink o _).comp (note rfl)

theorem leaveGuard (guard : Nat) : Confined at? (·.leaveGuard guard) := aside (.leaveGuard guard)

/-! Registries and scopes -/

theorem updateRegistry (h : owner.Within at?) (f : (Name → Bool) → Registry → Registry) :
    Confined at? fun w => w.updateRegistry owner (f w.isAlive) := by
  cases owner with
  | document d =>
      subst h
      exact document (f := fun w doc => { doc with registry := f w.isAlive doc.registry })
        (.elsewhere fun _ _ _ => rfl) fun _ _ => rfl
  | standalone number => exact aside fun _ _ _ => rfl

theorem prune (h : owner.Within at?) : Confined at? (·.prune owner) :=
  updateRegistry h fun alive r => r.prune alive

theorem register (h : owner.Within at?) (key : Name) : Confined at? (·.register owner key) := by
  have hstanding : Sees at? fun w => ((w.registry owner).prune w.isAlive).hasKey key :=
    (Sees.registry h).map₂ .isAlive fun r alive => (r.prune alive).hasKey key
  have hrecorded : Confined at? fun w => if ((w.registry owner).prune w.isAlive).hasKey key then w
      else w.record (.registered owner key) :=
    ite hstanding nothing (note rfl)
  apply (hrecorded.comp (updateRegistry h fun alive r => r.insert alive key)).congr
  intro w
  unfold World.register
  cases owner <;> dsimp only <;> split <;> rfl

theorem unregister (h : owner.Within at?) (key : Name) : Confined at? (·.unregister owner key) := by
  have hremoved : Confined at? fun w => (w.updateRegistry owner (·.remove key)).record
      (.unregistered owner key) :=
    (updateRegistry h fun _ r => r.remove key).comp (note rfl)
  exact ite ((Sees.registry h).map (·.hasKey key)) hremoved nothing

theorem setScope (h : owner.Within at?) (f : ScopeState → ScopeState) :
    Confined at? fun w => w.setScope owner (f (w.scope owner)) := by
  cases owner with
  | document d =>
      subst h
      exact document (f := fun _ doc => { doc with scope := f doc.scope })
        (.elsewhere fun _ _ _ => rfl) fun _ _ => rfl
  | standalone number => exact aside fun _ _ _ => rfl

theorem openScope (h : owner.Within at?) (m : UpdateMask) : Confined at? (·.openScope owner m) := by
  have hrecorded :
      Confined at? fun w => w.record (.scopeOpened owner m ((w.scope owner).enter m)) :=
    record ((Sees.scope h).map fun s => Moment.scopeOpened owner m (s.enter m)) fun _ => rfl
  apply (hrecorded.comp (setScope h (·.enter m))).congr
  intro w
  cases owner <;> rfl

theorem closeScope (h : owner.Within at?) (m : UpdateMask) (s : ScopeState) :
    Confined at? (·.closeScope owner m s) := by
  have hmismatch : Confined at? fun w => if (w.scope owner).mask.contains m then w
      else w.record (.scopeMismatch owner (w.scope owner).mask m) :=
    ite ((Sees.scope h).map (·.mask.contains m)) nothing
      (record ((Sees.scope h).map fun s => Moment.scopeMismatch owner s.mask m) fun _ => rfl)
  exact (hmismatch.comp (setScope h fun _ => s)).comp (note rfl)

theorem setLoad (l : LoadState) : Confined (some d) (·.setLoad d l) :=
  document (f := fun _ doc => { doc with load := l }) (.elsewhere fun _ _ _ => rfl) fun _ _ => rfl

/-- A load that begins or ends out of turn is remarked on. -/
theorem load {p : Document → Bool} {f : Document → Moment} (hspan : ∀ doc, (f doc).isSpan = false)
    (l : LoadState) :
    Confined (some d) fun w =>
      (if p (w.document d) then w.record (f (w.document d)) else w).setLoad d l := by
  have hremarked : Confined (some d) fun w => w.record (f (w.document d)) :=
    record ((Sees.document d).map f) fun w => hspan _
  exact (ite ((Sees.document d).map p) hremarked nothing).comp (setLoad l)

theorem prepare (n : Notice) : Confined (some d) (·.prepare d n) := by
  rcases n with e | _
  · cases e with
    | beginUpdate m => exact openScope (.self d) m
    | beginLoad =>
        apply (load (p := fun doc => doc.load = .loading) (f := fun doc => .loadRestarted d doc.id)
          (fun _ => rfl) .loading).congr
        simp [World.prepare]
    | endLoad =>
        apply (load (p := fun doc => doc.load ≠ .loading)
          (f := fun doc => .loadNotStarted d doc.id doc.load) (fun _ => rfl) .loaded).congr
        simp [World.prepare]
    | _ => exact nothing
  · exact nothing

end Confined

end ChangeNotice
