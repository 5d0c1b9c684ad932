import ChangeNotice.Run

/-! # Passes

A pass freezes the list of registered observers and then visits them in order.
What has become of an observer is looked up when its turn comes, so removals and
deaths during the pass count, and registrations during the pass do not. An
observer is held while it is visited.
-/

namespace ChangeNotice

/-- Counts a visited observer; one without an answer has no handler for the notice. -/
def Report.countVisit (r : Report) : Option Verdict → Report
  | some _ => { r with delivered := r.delivered + 1 }
  | none => { r with unsupported := r.unsupported + 1 }

namespace Pass

/-- Visits the slots of a snapshot; the answers come in the order of the visits. -/
def walk (p : PassInfo) (visit : Name → Run (Option Verdict)) :
    Snapshot → Run (Report × List Verdict)
  | [] => pure (.empty, [])
  | e :: rest => do
    match ← Run.read (·.resolve p.registry p.removal e) with
    | .live =>
      let answer ← Run.holding e.key do
        Run.note (.invoking p e.key)
        visit e.key
      let (r, answers) ← walk p visit rest
      pure (r.countVisit answer, answer.toList ++ answers)
    | .unregistered =>
      Run.note (.skipping p e.key)
      let (r, answers) ← walk p visit rest
      pure ({ r with unregistered := r.unregistered + 1 }, answers)
    | .dropped =>
      Run.note (.missing p e.key)
      let (r, answers) ← walk p visit rest
      pure ({ r with dropped := r.dropped + 1 }, answers)

/-- Visits the slots between the entries that mark the pass in the journal. -/
def run (p : PassInfo) (visit : Name → Run (Option Verdict)) (slots : Snapshot) :
    Run (Report × List Verdict) :=
  Run.ensuring
    (do
      Run.note (.passEntered p (slots.map (·.key)))
      let (r, answers) ← walk p visit slots
      Run.note (.passFinished p r)
      pure (r, answers))
    (·.record (.passLeft p))

/-- A pass over a registry prunes it, freezes its entries and visits them. The dispatcher that
issued its slot need not belong to the same document. -/
def start (registry issuer : Owner) (thread : Thread) (dispatcher : Dispatcher) (kind : Kind)
    (depth : Nat) (visit : Name → Run (Option Verdict)) : Run (Report × List Verdict) := do
  Run.change (·.prune registry)
  let slots ← Run.read fun w => (w.registry registry).entries
  let serial ← Run.read (·.passes)
  Run.change fun w => { w with passes := w.passes + 1 }
  run ⟨serial, thread, issuer, registry, dispatcher.document, kind, depth, dispatcher.removal⟩ visit
    slots

end Pass

end ChangeNotice
