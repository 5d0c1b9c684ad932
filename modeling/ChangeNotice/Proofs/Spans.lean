import ChangeNotice.Proofs.CallStack
import ChangeNotice.Proofs.Occurrence

/-! # Spans of passes

The journal shows where a pass begins and where it is left: the pass has a span.
Spans nest as passes do, whether passes finish or are unwound, and a document's
own passes count the spans of the document that are open on their thread. Two
accounts are kept of this, the slots of documents and the spans of passes, and
they agree wherever clients run.
-/

namespace ChangeNotice

open World

/-- A pass of the document in a slot of its own on the thread. -/
def PassInfo.isOwn (p : PassInfo) (d : Name) (t : Thread) : Bool :=
  .document d = p.dispatcher ∧ t = p.thread

/-- How many of these passes the document has on the thread. -/
def ownSpans (opened : List PassInfo) : Name → Thread → Nat :=
  fun d t => opened.countP (·.isOwn d t)

/-- Between two worlds these moments pass, oldest first, while these passes are going on, the last
begun first. -/
inductive Spans : List PassInfo → World → List Moment → World → Prop
  | still {opened : List PassInfo} {w v : World} {trace : List Moment}
      (hpast : v.past = trace.reverse ++ w.past) (hspan : ∀ m ∈ trace, m.isSpan = false) :
      Spans opened w trace v
  | append {opened : List PassInfo} {u v w : World} {trace trace' : List Moment}
      (h : Spans opened u trace v) (h' : Spans opened v trace' w) :
      Spans opened u (trace ++ trace') w
  /-- A whole pass: it is entered with the observers that are registered and alive, everything that
  happens in it is between its entries, and its report is the one that the run returns. -/
  | pass {opened : List PassInfo} {w v : World} {p : PassInfo} {inner : List Moment}
      {result : Except Unwind (Report × List Verdict)} {registry issuer : Owner} {t : Thread}
      {dispatcher : Dispatcher} {kind : Kind} {depth : Nat} {visit : Name → Run (Option Verdict)}
      (hp : p = Pass.infoOf registry issuer t dispatcher kind depth w)
      (hrun : Pass.start registry issuer t dispatcher kind depth visit w = Pass.leave p (result, v))
      (hinner : Spans (p :: opened) (w.enterPass p) inner v)
      (hown : ∀ d, p.dispatcher = .document d →
        p.registry = .document d ∧ p.depth = ownSpans opened d p.thread + 1) :
      Spans opened w (.passEntered p (w.keys p.registry) :: inner ++ Pass.closing p result)
        (Pass.leave p (result, v)).2

/-- Reads off which spans are open in the end; a span that is left must be the last one opened. -/
def Journal.openSpans (opened : List PassInfo) : List Moment → Option (List PassInfo)
  | [] => some opened
  | .passEntered p _ :: rest => openSpans (p :: opened) rest
  | .passLeft p :: rest => if opened.head? = some p then openSpans opened.tail rest else none
  | _ :: rest => openSpans opened rest

/-- How a transcript shows the entries of spans. -/
def Moment.spanLine? : Moment → Option Line
  | passEntered p slots => some (.log ("DEBUG enter dispatch document=" ++ p.document.text ++
      " event=" ++ p.kind.name ++ " depth=" ++ Text.decimal p.depth ++
      " observers=" ++ Text.decimal slots.length))
  | passFinished _ r => some (.log ("DEBUG dispatch finished delivered=" ++
      Text.decimal r.delivered ++ " skipped=" ++ Text.decimal r.skipped))
  | passLeft _ => some (.log "DEBUG exit dispatch")
  | _ => none

section

variable {opened : List PassInfo} {w v : World} {trace : List Moment} {p : PassInfo}

theorem inFlight_leave (p : PassInfo) (result : Except Unwind (Report × List Verdict))
    (v : World) : (Pass.leave p (result, v)).2.inFlight = v.inFlight := by
  cases result <;> rfl

theorem inFlight_enterPass (w : World) (p : PassInfo) : (w.enterPass p).inFlight = w.inFlight :=
  inFlight_updateRegistry w p.registry _

/-- The moments between two worlds are what the journal has grown by. -/
theorem Spans.past_eq (h : Spans opened w trace v) : v.past = trace.reverse ++ w.past := by
  induction h with
  | still hpast _ => exact hpast
  | append _ _ ih ih' => rw [ih', ih, List.reverse_append, List.append_assoc]
  | pass _ _ _ _ ih =>
      rw [Pass.past_leave, ih, past_enterPass]
      simp

theorem Spans.since_eq (h : Spans opened w trace v) : v.since w.past.length = trace := by
  rw [since_of_past h.past_eq, List.reverse_reverse]

theorem Journal.openSpans_closing (p : PassInfo)
    (result : Except Unwind (Report × List Verdict)) (rest : List Moment) :
    openSpans (p :: opened) (Pass.closing p result ++ rest) = openSpans opened rest := by
  cases result <;> simp [Pass.closing, openSpans]

theorem Journal.openSpans_still (hspan : ∀ m ∈ trace, m.isSpan = false) (rest : List Moment) :
    openSpans opened (trace ++ rest) = openSpans opened rest := by
  induction trace with
  | nil => rfl
  | cons m trace ih =>
      obtain ⟨hm, htrace⟩ := List.forall_mem_cons.mp hspan
      cases m with
      | passEntered | passFinished | passLeft => exact Bool.noConfusion hm
      | _ => exact ih htrace

/-- Every span that is opened is closed, and none other. -/
theorem Spans.openSpans_append (h : Spans opened w trace v) (rest : List Moment) :
    Journal.openSpans opened (trace ++ rest) = Journal.openSpans opened rest := by
  induction h generalizing rest with
  | still _ hspan => exact Journal.openSpans_still hspan rest
  | append _ _ ih ih' => rw [List.append_assoc, ih, ih']
  | pass _ _ _ _ ih =>
      rw [List.cons_append, List.cons_append, List.append_assoc, Journal.openSpans, ih,
        Journal.openSpans_closing]

theorem Spans.openSpans_eq (h : Spans opened w trace v) :
    Journal.openSpans opened trace = some opened := by
  have hopen := h.openSpans_append []
  rwa [List.append_nil] at hopen

end

/-- Entries of spans are shown from the level of their diagnostics on. -/
theorem Transcript.line?_of_isSpan {m : Moment} (hm : m.isSpan = true) (recorders : Name → Bool)
    {level : Level} (hlevel : level = .debug ∨ level = .trace) :
    Transcript.line? recorders (some level) m = m.spanLine? := by
  have hshown : Transcript.shows (some level) .debug = true := by
    rcases hlevel with rfl | rfl <;> rfl
  cases m with
  | passEntered | passFinished | passLeft =>
      simp [Transcript.line?, Moment.diagnostic?, hshown, Moment.spanLine?, Diagnostic.text,
        Level.name, String.intercalate_cons_cons, String.intercalate_singleton, String.ext_iff]
  | _ => exact Bool.noConfusion hm

/-! ## Runs keep both accounts -/

namespace World

/-- Nothing happens to passes and to slots. -/
structure Still (w v : World) : Prop where
  past : w.Adds (fun m => m.isSpan = false) v
  slots : v.inFlight = w.inFlight

namespace Still

variable {u v w : World}

theorem of_eq (hdocuments : v.documents = w.documents) (hpast : v.past = w.past) : w.Still v := by
  refine ⟨.of_past hpast, ?_⟩
  funext d t
  unfold inFlight document
  rw [hdocuments]

theorem refl (w : World) : w.Still w := of_eq rfl rfl

theorem trans (h : u.Still v) (h' : v.Still w) : u.Still w :=
  ⟨h.past.trans h'.past, h'.slots.trans h.slots⟩

theorem record (w : World) {m : Moment} (hm : m.isSpan = false) : w.Still (w.record m) :=
  ⟨.cons rfl hm, rfl⟩

theorem updateDocument (w : World) (d : Name) {f : Document → Document}
    (hf : ∀ doc, (f doc).dispatcher = doc.dispatcher) : w.Still (w.updateDocument d f) := by
  refine ⟨.of_past rfl, ?_⟩
  funext other t
  unfold inFlight
  rw [document_updateDocument]
  split
  next heq => rw [hf, heq]
  next => rfl

end Still

end World

theorem Confined.still {at? : Option Name} {g : World → World} (hg : Confined at? g) (w : World) :
    w.Still (g w) := by
  induction hg generalizing w with
  | aside h => exact .of_eq (h.documents_eq w) (h.past_eq w)
  | record _ hspan => exact .record w (hspan w)
  | document _ hslots => exact .updateDocument w _ (hslots w)
  | comp _ _ ih ih' => exact (ih w).trans (ih' _)
  | ite _ _ _ ih ih' =>
      dsimp only
      split
      · exact ih w
      · exact ih' w

theorem World.Still.offer (w : World) (sink : Name) (id : DocumentId) (e : Event) :
    w.Still (Scenario.offer sink id e w) := by
  unfold Scenario.offer
  split
  · exact .refl w
  · have hupdated : ∀ f, w.Still (w.updateSink sink f) :=
      fun f => (Confined.updateSink sink f : Confined none _).still w
    dsimp only
    split
    · exact ((hupdated _).trans (.record _ rfl)).trans (.record _ rfl)
    · exact (hupdated _).trans (.record _ rfl)

/-- The slots that are taken are those of the spans that are open, and of the slot in which the run
stands: its span would be the next one. -/
def SlotsMatch (opened : List PassInfo) (w : World) : Option (Name × Thread × Nat) → Prop
  | none => w.inFlight = ownSpans opened
  | some (d, t, depth) => w.inFlight = ownSpans opened + slotOf d t ∧
      depth = ownSpans opened d t + 1

/-- From this world on the run goes through whole spans and gives back the slots that it takes. -/
structure Run.Bracketed {α : Type} (opened : List PassInfo) (w : World) (m : Run α) : Prop where
  spans : ∃ trace, Spans opened w trace (m w).2
  slots : (m w).2.inFlight = w.inFlight

variable {α β : Type} {opened : List PassInfo} {w v : World} {p : PassInfo} {at? : Option Name}
  {slot : Option (Name × Thread × Nat)}

theorem World.Still.spans (h : w.Still v) (opened : List PassInfo) :
    ∃ trace, Spans opened w trace v := by
  obtain ⟨news, hpast, hnews⟩ := h.past
  refine ⟨news.reverse, .still ?_ ?_⟩
  · rw [List.reverse_reverse, hpast]
  · simpa using hnews

theorem SlotsMatch.congr (h : SlotsMatch opened w slot) (hslots : v.inFlight = w.inFlight) :
    SlotsMatch opened v slot := by
  cases slot with
  | none => exact hslots.trans h
  | some s => exact ⟨hslots.trans h.1, h.2⟩

namespace Run.Bracketed

variable {m : Run α} {f : α → Run β}

theorem of_still (h : w.Still (m w).2) : Bracketed opened w m := ⟨h.spans opened, h.slots⟩

theorem bind (h : Bracketed opened w m)
    (hf : ∀ a v, m w = (.ok a, v) → v.inFlight = w.inFlight → Bracketed opened v (f a)) :
    Bracketed opened w (m >>= f) := by
  obtain ⟨⟨trace, hspans⟩, hslots⟩ := h
  cases hrun : m w with
  | mk result v =>
      rw [hrun] at hspans hslots
      cases result with
      | ok a =>
          obtain ⟨⟨trace', hspans'⟩, hslots'⟩ := hf a v hrun hslots
          refine ⟨⟨trace ++ trace', ?_⟩, ?_⟩
          · rw [bind_apply, hrun]
            exact hspans.append hspans'
          · rw [bind_apply, hrun]
            exact hslots'.trans hslots
      | error e =>
          refine ⟨⟨trace, ?_⟩, ?_⟩
          · rw [bind_apply, hrun]
            exact hspans
          · rw [bind_apply, hrun]
            exact hslots

theorem map {l : α → β} (h : Bracketed opened w m) :
    Bracketed opened w (m >>= fun a => Pure.pure (l a)) :=
  h.bind fun _ v _ _ => of_still (.refl v)

theorem ensuring {after : World → World} (h : Bracketed opened w m)
    (hafter : ∀ v : World, v.Still (after v)) : Bracketed opened w (Run.ensuring m after) := by
  obtain ⟨⟨trace, hspans⟩, hslots⟩ := h
  obtain ⟨trace', hspans'⟩ := (hafter (m w).2).spans opened
  exact ⟨⟨trace ++ trace', hspans.append hspans'⟩, (hafter _).slots.trans hslots⟩

theorem catching {m : Run Unit} (h : Bracketed opened w m) :
    Bracketed opened w (Run.catching m) := by
  obtain ⟨hspans, hslots⟩ := h
  have hsame : (Run.catching m w).2 = (m w).2 := by
    unfold Run.catching
    split <;> simp_all
  rw [← hsame] at hspans hslots
  exact ⟨hspans, hslots⟩

theorem change_bind {g : World → World} {k : Unit → Run β} (h : w.Still (g w))
    (hk : Bracketed opened (g w) (k ())) : Bracketed opened w (Run.change g >>= k) := by
  obtain ⟨trace, hspans⟩ := h.spans opened
  obtain ⟨⟨trace', hspans'⟩, hslots⟩ := hk
  exact ⟨⟨trace ++ trace', hspans.append hspans'⟩, hslots.trans h.slots⟩

theorem holding {o : Name} (h : Bracketed opened (w.hold o) m) :
    Bracketed opened w (Run.holding o m) := by
  have hhold : Confined none (·.hold o) := .hold o
  have hunhold : Confined none (·.unhold o) := .unhold o
  exact .change_bind (hhold.still w) (h.ensuring hunhold.still)

end Run.Bracketed

open Run

namespace Pass

variable {visit : Name → Run (Option Verdict)}

/-- One turn of a pass is inside the span of the pass. -/
theorem turn_bracketed {e : Entry} (hvisit : ∀ v, v.inFlight = w.inFlight → ∀ o,
    Bracketed opened v (visit o)) : Bracketed opened w (turn p visit e) := by
  refine Bracketed.bind (.of_still (.refl w)) fun found v _ hv => ?_
  cases found with
  | live =>
      apply Bracketed.map
      apply Bracketed.holding
      refine .change_bind (.record _ rfl) ?_
      exact hvisit ((v.hold e.key).record (.invoking p e.key)) hv e.key
  | unregistered =>
      exact Bracketed.change_bind (.record v rfl) (.of_still (.refl _))
  | dropped =>
      exact Bracketed.change_bind (.record v rfl) (.of_still (.refl _))

theorem walk_bracketed (hvisit : ∀ v, v.inFlight = w.inFlight → ∀ o,
    Bracketed opened v (visit o)) (slots : Snapshot) :
    Bracketed opened w (walk p visit slots) := by
  induction slots generalizing w with
  | nil => exact .of_still (.refl w)
  | cons e rest ih =>
      rw [walk_cons]
      refine (turn_bracketed hvisit).bind fun told v _ hv => ?_
      exact (ih fun u hu o => hvisit u (hu.trans hv) o).map

/-- A pass is one span, if its visits keep inside of it. -/
theorem start_bracketed {registry issuer : Owner} {t : Thread} {dispatcher : Dispatcher}
    {kind : Kind} {depth : Nat} (hp : p = infoOf registry issuer t dispatcher kind depth w)
    (hown : ∀ d, p.dispatcher = .document d →
      p.registry = .document d ∧ p.depth = ownSpans opened d p.thread + 1)
    (hvisit : ∀ v, v.inFlight = w.inFlight → ∀ o, Bracketed (p :: opened) v (visit o)) :
    Bracketed opened w (start registry issuer t dispatcher kind depth visit) := by
  have hwalk : Bracketed (p :: opened) (w.enterPass p) (walk p visit (snapshotOf w registry)) :=
    walk_bracketed (fun v hv => hvisit v (hv.trans (inFlight_enterPass w p))) _
  have hrun := start_apply visit hp
  obtain ⟨⟨inner, hinner⟩, hslots⟩ := hwalk
  cases hend : walk p visit (snapshotOf w registry) (w.enterPass p) with
  | mk result v =>
      rw [hend] at hrun hinner hslots
      refine ⟨⟨.passEntered p (w.keys p.registry) :: inner ++ closing p result, ?_⟩, ?_⟩
      · rw [hrun]
        exact .pass hp hrun hinner hown
      · rw [hrun, inFlight_leave, hslots, inFlight_enterPass]

end Pass

theorem ownSpans_cons (p : PassInfo) (opened : List PassInfo) :
    ownSpans (p :: opened) = ownSpans opened + fun d t => if p.isOwn d t then 1 else 0 := by
  funext d t
  exact List.countP_cons

/-- The handlers go through whole spans wherever the spans that are open have all the slots. -/
def Handlers.Bracketed (handle : Handlers) : Prop :=
  ∀ opened w, w.inFlight = ownSpans opened → ∀ t d o n, Run.Bracketed opened w (handle t d o n)

variable {handle : Handlers}

namespace Notify

variable {t : Thread} {d : Name} {n : Notice}

theorem deliver_bracketed (hh : handle.Bracketed) (hw : w.inFlight = ownSpans opened) (o : Name) :
    Bracketed opened w (deliver handle t d n o) := by
  rw [deliver_eq]
  refine Bracketed.bind (.of_still (.refl w)) fun supported v _ hv => ?_
  split
  · refine Bracketed.bind (.of_still (.refl v)) fun call u _ hu => ?_
    refine .change_bind (.record u rfl) ?_
    have hcalled : (u.record (.called call)).inFlight = ownSpans opened := (hu.trans hv).trans hw
    refine (hh opened _ hcalled t d o n).bind fun answer x _ _ => ?_
    exact .change_bind (.record x rfl) (.of_still (.refl _))
  · exact .of_still (.refl v)

/-- The slot in which the pass begins is that of its span. -/
theorem announce_bracketed (hh : handle.Bracketed) {depth : Nat}
    (hw : SlotsMatch opened w (some (d, t, depth))) :
    Bracketed opened w (announce handle t d n depth) := by
  obtain ⟨hslots, rfl⟩ := hw
  refine Bracketed.bind (.of_still (.refl w)) fun doc v _ hv => ?_
  apply Pass.start_bracketed rfl
  · rintro d' ⟨⟩
    exact ⟨rfl, rfl⟩
  · intro u hu o
    apply deliver_bracketed hh
    rw [hu, hv, hslots, ownSpans_cons]
    congr 1
    funext d' t'
    simp [slotOf, PassInfo.isOwn, Pass.infoOf]

/-- A notification stands in its slot while its body runs, and gives it back. -/
theorem withSlot_bracketed {body : Nat → Run (Except NotifyError α)}
    (rest : Nat → Run (Except NotifyError α))
    (hbody : ∀ depth v, body depth v = rest depth (v.prepare d n))
    (hw : w.inFlight = ownSpans opened)
    (hrest : ∀ depth left, (w.document d).dispatcher.enter? t = some (depth, left) →
      SlotsMatch opened ((w.takeSlot d t n left).prepare d n) (some (d, t, depth)) →
      Bracketed opened ((w.takeSlot d t n left).prepare d n) (rest depth)) :
    Bracketed opened w (withSlot t d n body) := by
  cases hleft : (w.document d).dispatcher.enter? t with
  | none =>
      apply Bracketed.of_still
      rw [withSlot_full hleft]
      exact .record w rfl
  | some taken =>
      obtain ⟨depth, left⟩ := taken
      have hdepth : depth = w.inFlight d t + 1 := by
        rw [Dispatcher.enter?_of_room (Dispatcher.of_enter? hleft).1] at hleft
        exact (congrArg Prod.fst (Option.some.inj hleft)).symm
      have hslots := (accept_reaches (n := n) hleft).slots
      have hmatch :
          SlotsMatch opened ((w.takeSlot d t n left).prepare d n) (some (d, t, depth)) := by
        refine ⟨by rw [hslots, hw], ?_⟩
        rw [← hw]
        exact hdepth
      obtain ⟨⟨trace, hspans⟩, hkept⟩ := hrest depth left hleft hmatch
      rw [hslots] at hkept
      have hadmitted : Spans opened w [.admitted d t n] (w.takeSlot d t n left) :=
        .still rfl (by simp [Moment.isSpan])
      have hreleased : ∀ u : World, Spans opened u [.released d t] (u.releaseSlot d t) :=
        fun u => .still rfl (by simp [Moment.isSpan])
      obtain ⟨preparing, hprepared⟩ :=
        ((Confined.prepare n).still (w.takeSlot d t n left)).spans opened
      rw [← hbody] at hspans hkept
      refine ⟨⟨[.admitted d t n] ++ preparing ++ trace ++ [.released d t], ?_⟩, ?_⟩
      · rw [withSlot_taken hleft]
        exact ((hadmitted.append hprepared).append hspans).append (hreleased _)
      · rw [withSlot_taken hleft]
        funext d' t'
        rw [inFlight_releaseSlot, hkept]
        simp only [Pi.add_apply, slotOf]
        split
        next heq => simp [heq]
        next => rfl

end Notify

namespace Scenario

variable {c : Context}

theorem createObserver_bracketed (name : Name) (role : Role) :
    Bracketed opened w (createObserver name role) := by
  apply Bracketed.of_still
  rw [createObserver_apply]
  split
  · exact .refl w
  · exact .of_eq rfl rfl

theorem visit_bracketed (hh : handle.Bracketed) (hw : w.inFlight = ownSpans opened) (v : Visit)
    (o : Name) : Bracketed opened w (visit handle c v o) := by
  refine .change_bind (.record w rfl) ?_
  cases v with
  | deliver e d =>
      refine .change_bind (.record _ rfl) ?_
      apply Notify.deliver_bracketed hh
      exact hw
  | answer supported => exact .of_still (.refl _)

/-- The span of a pass by hand is in no slot of a document. -/
theorem pass_bracketed (hh : handle.Bracketed) (hw : w.inFlight = ownSpans opened) {owner : Owner}
    {number guard : Nat} {dispatcher : Dispatcher} {kind : Kind} {depth : Nat} {v : Visit} :
    Bracketed opened w (Run.keeping guard (Pass.start owner (.standalone number) c.thread
      dispatcher kind depth (visit handle c v))) := by
  have hleave : Confined none (·.leaveGuard guard) := .leaveGuard guard
  refine .change_bind (.of_eq rfl rfl) (.ensuring ?_ hleave.still)
  apply Pass.start_bracketed rfl
  · rintro d ⟨⟩
  · intro u hu o
    apply visit_bracketed hh
    rw [hu, ownSpans_cons]
    exact hw

end Scenario

/-- Every part of an operation goes through whole spans, if its handlers do. -/
theorem Composed.bracketed {γ : Type} {c : Context} {operation : Operation} {f : α → γ}
    {m : Handlers → Run α} (h : Composed handle c operation at? slot f w m) (hh : handle.Bracketed)
    (hw : SlotsMatch opened w slot) : Bracketed opened w (m handle) := by
  induction h with
  | pure a => exact .of_still (.refl _)
  | panic message => exact .of_still (.refl _)
  | bind _ _ ihm ihr => exact (ihm hw).bind fun a v hrun hv => ihr a v hrun (hw.congr hv)
  | map _ ih => exact (ih hw).map
  | read => exact .of_still (.refl _)
  | edit hg => exact .of_still (hg.confined.still _)
  | target d _ ih => exact .change_bind (.record _ rfl) (ih hw)
  | createDocument _ hnew number config =>
      exact .of_still ⟨.of_past rfl, inFlight_createDocument hnew number config⟩
  | slot _ hbody _ ih => exact Notify.withSlot_bracketed _ (hbody handle) hw ih
  | announce _ _ _ ih =>
      refine (Notify.announce_bracketed hh hw).bind fun told v hrun hv => ?_
      exact (ih told v hrun (hw.congr hv)).map
  | deliver =>
      apply Bracketed.holding
      apply Notify.deliver_bracketed hh
      exact hw
  | pass =>
      refine Bracketed.bind (.of_still (.refl _)) fun dispatcher v _ hv => ?_
      exact Scenario.pass_bracketed hh (hv.trans hw)

/-- Code of clients goes through whole spans. -/
theorem Client.bracketed {m : Run α} (hm : Client m) (hw : w.inFlight = ownSpans opened) :
    Bracketed opened w m := by
  induction hm generalizing opened w with
  | pure a => exact .of_still (.refl w)
  | bind _ _ ihm ihf => exact (ihm hw).bind fun a v _ hv => ihf a (hv.trans hw)
  | read f => exact .of_still (.refl w)
  | unwind e => exact .of_still (.refl w)
  | catching _ ih => exact (ih hw).catching
  | @perform handle _ c operation ih =>
      exact (Scenario.perform_composed handle c operation w).bracketed
        (fun _ _ hv t d o n => ih t d o n hv) hw
  | createRecorder name r => exact Scenario.createObserver_bracketed name _
  | remember o f => exact .of_still ((Confined.updateRecorder o f : Confined none _).still w)
  | offer sink d e => exact .of_still (.offer w sink _ e)
  | startThread => exact .of_still (.of_eq rfl rfl)
  | say m hm =>
      apply Bracketed.of_still
      apply World.Still.record
      cases m with
      | targeted | visited | answered => rfl
      | _ => exact Bool.noConfusion hm

/-- Outside of all handlers no slot is taken, and no span is open. -/
theorem Stacked.noSpans (hw : Stacked [] w) : w.inFlight = ownSpans [] := by
  funext d t
  rw [hw.inFlight_eq]
  rfl

/-- What a client does outside of handlers goes through whole spans: each is left after all that
were opened in it, whether its pass finishes or is unwound. Its depth is one more than the spans of
the document that are open on the thread, and a pass reports just before its span is left exactly
if it was not unwound. -/
theorem Stacked.spans_nested (hw : Stacked [] w) {m : Run α} (hm : Client m) {level : Level}
    (hlevel : level = .debug ∨ level = .trace) :
    let trace := (m w).2.since w.past.length
    Spans [] w trace (m w).2 ∧ Journal.openSpans [] trace = some [] ∧
      Transcript.lines (m w).2 (some level) trace = trace.filterMap fun moment =>
        if moment.isSpan then moment.spanLine?
        else Transcript.line? (fun o => ((m w).2.observer o).isRecorder) (some level) moment := by
  obtain ⟨trace, hspans⟩ := (hm.bracketed hw.noSpans).spans
  rw [hspans.since_eq]
  refine ⟨hspans, hspans.openSpans_eq, ?_⟩
  unfold Transcript.lines
  congr 1
  funext moment
  split
  next hspan => exact Transcript.line?_of_isSpan hspan _ hlevel
  next => rfl

/-- An observer hears of a load, opens a scope, of which it hears too, and panics. -/
def panicking : World :=
  (Session.runFrom 3 none .empty
    [.perform none (.createDocument "d" {}),
      .createRecorder none "a" false .proceed
        [⟨.beginLoad, none, none,
          [.perform none (.beginUpdate none .style), .perform none (.panic "enough")], 0⟩],
      .perform none (.register (.document none) "a")]).2

/-- The outer of two spans is left without a report, and the inner one was left before. -/
theorem spans_nested_panicking :
    let run := Scenario.runStep (Scenario.respond 3) .top (.perform none (.raise none .beginLoad))
    let trace := (run panicking).2.since panicking.past.length
    (run panicking).1.isOk = false ∧ (trace.filter Moment.isSpan).length = 5 ∧
      Spans [] panicking trace (run panicking).2 ∧ Journal.openSpans [] trace = some [] := by
  have htop : Stacked [] panicking := Session.runFrom_stacked 3 none _ .start
  have hstep : Client (Scenario.runStep (Scenario.respond 3) .top
      (.perform none (.raise none .beginLoad))) :=
    Scenario.runStep_client (Scenario.respond_client 3) .top _
  have hnested := htop.spans_nested hstep (.inr rfl : Level.trace = .debug ∨ Level.trace = .trace)
  exact ⟨by decide +kernel, by decide +kernel, hnested.1, hnested.2.1⟩

end ChangeNotice
