import ChangeNotice.Proofs.HandlerCalls

/-! # Who decides whether a script may run

Before a script runs, all observers that can answer are asked, one after the other, and a
single block decides. A block does not end the round: whoever comes later is asked all the
same. Handlers that ask about other scripts meanwhile get verdicts of their own, which
count for nothing here unless the handlers make them their own answers.
-/

namespace ChangeNotice

open World

namespace Verdict

theorem foldl_combine_eq_block_iff (answers : List Verdict) (v : Verdict) :
    answers.foldl combine v = .block ↔ v = .block ∨ .block ∈ answers := by
  induction answers generalizing v with
  | nil => simp
  | cons answer answers ih =>
      rw [List.foldl_cons, ih]
      cases v <;> cases answer <;> simp [combine]

theorem ofAnswers_eq_block_iff {answers : List Verdict} :
    ofAnswers answers = .block ↔ .block ∈ answers := by
  rw [ofAnswers, foldl_combine_eq_block_iff]
  simp

/-- A verdict is known by whether it blocks. -/
theorem eq_iff_block {v v' : Verdict} : v = v' ↔ (v' = .block ↔ v = .block) := by
  cases v <;> cases v' <;> simp

end Verdict

namespace Notify

variable {handle : Handlers} {t : Thread} {d : Name} {w : World} {content : ContentId}
  {parser : ParserId}

/-- Some observer that is asked answers with a block. -/
def Blocked (handle : Handlers) (t : Thread) (d : Name) (n : Notice) (w : World) : Prop :=
  ∃ s ∈ handledTurns handle t d n w, s.answer (passOf t d n w) t d n handle = .ok .block

theorem mem_answers_iff {n : Notice} {r : Report} {answers : List Verdict}
    (h : (passed handle t d n w).1 = .ok (r, answers)) :
    .block ∈ answers ↔ Blocked handle t d n w := by
  obtain ⟨-, hanswers⟩ := told_of_passed h
  rw [Blocked, ← List.mem_map, hanswers]
  exact (List.mem_map_of_injective fun _ _ => Except.ok.inj).symm

/-- A query returns with the verdict of those whom its own pass asks, if all of them return. -/
theorem queryScript_ok_iff {v : Verdict} :
    (queryScript handle t d content parser w).1 = .ok (.ok v) ↔
      Completes handle t d (.script content parser) w ∧
      (v = .block ↔ Blocked handle t d (.script content parser) w) := by
  cases hroom : (w.document d).dispatcher.isFull t with
  | true =>
      rw [queryScript, withSlot_full (Dispatcher.enter?_of_full hroom)]
      simp [Completes, hroom]
  | false =>
      rw [completes_iff hroom, queryScript_passed hroom]
      cases hpassed : passed handle t d (.script content parser) w with
      | mk result u =>
          cases result with
          | error x => simp [released]
          | ok told =>
              have hblock := mem_answers_iff (congrArg Prod.fst hpassed)
              simp only [released, Except.ok.injEq, exists_eq', true_and]
              rw [Verdict.eq_iff_block, Verdict.ofAnswers_eq_block_iff, hblock]

/-- Whether a script may run, where handlers are whatever clients can make them. The query returns
exactly if it finds a slot and every handler that it calls returns, and it blocks exactly if one of
them blocks. All who can answer at their turns are asked, in order, once each and about this
script, and nobody else is. -/
theorem script_verdict (hw : Reached w) (hhandle : handle.Client)
    (hdocument : w.documents.contains d = true) (content : ContentId) (parser : ParserId) :
    let n : Notice := .script content parser
    let slots := slotTurns handle t d n w
    let asked := handledTurns handle t d n w
    let outcome := queryScript handle t d content parser w
    (∀ v, outcome.1 = .ok (.ok v) ↔ Completes handle t d n w ∧
      (v = .block ↔ ∃ s ∈ asked, s.answer (passOf t d n w) t d n handle = .ok .block)) ∧
    (Completes handle t d n w →
      (slots.map (·.entry.key) = w.keys (.document d) ∧ (w.keys (.document d)).Nodup) ∧
      (∀ s ∈ slots, s ∈ asked ↔ s.world.isAlive s.entry.key = true ∧
        ((w.document d).dispatcher.removal = .deliver ∨
          .unregistered (.document d) s.entry.key ∉ Journal.since w.passes s.world.past) ∧
        (s.world.observer s.entry.key).hasBinding = true) ∧
      asked.Sublist slots ∧
      Journal.ownCalls w.passes outcome.2.past = asked.map (·.call t d n)) := by
  intro n slots asked outcome
  refine ⟨fun v => queryScript_ok_iff, ?_⟩
  intro hcompletes
  have hroom := hcompletes.1
  have hkeys : slots.map (·.entry.key) = w.keys (.document d) :=
    keys_slotTurns.2 ((completes_iff hroom).mp hcompletes)
  refine ⟨⟨hkeys, hw.sound.nodup_keys _⟩, ?_, List.filter_sublist, ?_⟩
  · intro s hs
    have hsupports : (s.world.observer s.entry.key).supports n.kind =
        (s.world.observer s.entry.key).hasBinding := by
      simp [Observer.supports, n, Notice.kind, Kind.needsBinding]
    have hlive := found_live_iff hw.sound hdocument hroom hhandle hs
    rw [← and_assoc, ← hlive, ← hsupports, ← SlotTurn.isHandled_iff]
    exact ⟨fun h => (List.mem_filter.mp h).2, fun h => List.mem_filter.mpr ⟨hs, h⟩⟩
  · have hcalls := ownCalls_passed hw.sound hdocument hroom hhandle (n := n)
    rw [← hcalls, ← ownCalls_queryScript hroom]

end Notify

/-- Five observers of a document. The first asks about a script of another document, which is
blocked there, removes the third, and answers that its own script may proceed; the second cannot
answer; the fourth blocks. -/
def guarded : World :=
  (Session.runFrom 4 none .empty
    [.perform none (.createDocument "d" {}), .perform none (.createDocument "x" {}),
      .createRecorder none "z" true .block [], .perform none (.register (.document (some "x")) "z"),
      .createRecorder none "a" true .proceed
        [⟨.attemptToExecuteScript, none, none,
          [.perform none (.queryScript (some "x") ⟨1⟩ ⟨1⟩),
            .perform none (.unregister (.document (some "d")) "c")], 0⟩],
      .perform none (.createQuiet "b" false), .perform none (.createQuiet "c" true),
      .createRecorder none "e" true .block [], .perform none (.createQuiet "f" true),
      .perform none (.register (.document (some "d")) "a"),
      .perform none (.register (.document (some "d")) "b"),
      .perform none (.register (.document (some "d")) "c"),
      .perform none (.register (.document (some "d")) "e"),
      .perform none (.register (.document (some "d")) "f")]).2

def guardedQuery : Except Unwind (Except NotifyError Verdict) × World :=
  Notify.queryScript (Scenario.respond 4) 0 "d" ⟨7⟩ ⟨8⟩ guarded

theorem guardedQuery_eq :
    Notify.queryScript (Scenario.respond 4) 0 "d" ⟨7⟩ ⟨8⟩ guarded = guardedQuery := rfl

/-- Three are asked, the last one although the script is blocked by then. -/
theorem script_verdict_guarded :
    guardedQuery.1 = .ok (.ok .block) ∧
    (Notify.slotTurns (Scenario.respond 4) 0 "d" (.script ⟨7⟩ ⟨8⟩) guarded).map (·.entry.key) =
      ["a", "b", "c", "e", "f"] ∧
    Journal.ownCalls guarded.passes guardedQuery.2.past =
      (Notify.handledTurns (Scenario.respond 4) 0 "d" (.script ⟨7⟩ ⟨8⟩) guarded).map
        (·.call 0 "d" (.script ⟨7⟩ ⟨8⟩)) ∧
    (Journal.ownCalls guarded.passes guardedQuery.2.past).map (fun c => (c.observer, c.notice)) =
      [("a", .script ⟨7⟩ ⟨8⟩), ("e", .script ⟨7⟩ ⟨8⟩), ("f", .script ⟨7⟩ ⟨8⟩)] ∧
    Notify.Blocked (Scenario.respond 4) 0 "d" (.script ⟨7⟩ ⟨8⟩) guarded := by
  have hreached : Reached guarded := Session.runFrom_reached 4 none _ .start
  have hresult : guardedQuery.1 = .ok (.ok .block) := by decide +kernel
  have hkeys : guarded.keys (.document "d") = ["a", "b", "c", "e", "f"] := by decide +kernel
  obtain ⟨hverdict, hasked⟩ := Notify.script_verdict (t := 0) hreached (Scenario.respond_client 4)
    (by decide +kernel : guarded.documents.contains "d" = true) ⟨7⟩ ⟨8⟩
  rw [guardedQuery_eq] at hverdict hasked
  obtain ⟨hcompletes, hblock⟩ := (hverdict .block).mp hresult
  obtain ⟨⟨hslots, -⟩, -, -, hcalls⟩ := hasked hcompletes
  exact ⟨hresult, hslots.trans hkeys, hcalls, by decide +kernel, hblock.mp rfl⟩

end ChangeNotice
