import ChangeNotice.Sink
import Mathlib.Data.List.Induction
import Mathlib.Order.Nat

/-! # The account of a sink

Every event that reaches a sink and that its filter keeps is a delivery. The deliveries
are numbered from zero. A delivery gets into the stream with its number, or finds the
stream full and is counted as lost. So what was taken from the stream, followed by what
waits in it, is the list of the deliveries that were not lost, and the numbers that are
missing from it are those of the others. The account is kept from one event to the next.
-/

namespace ChangeNotice

/-- An event that a sink is meant to keep, and what became of it. -/
structure Delivery where
  document : DocumentId
  event : Event
  outcome : Offered
deriving DecidableEq

namespace Delivery

def isLost (d : Delivery) : Bool := d.outcome ≠ .stored

/-- The records of the deliveries that are not lost, each with its number among all. -/
def enqueued (ds : List Delivery) : List Recorded :=
  ds.zipIdx.filterMap fun (d, n) =>
    if d.isLost then none else some ⟨d.document, .ofNat n, d.event⟩

/-- The numbers of the records. -/
def positions (rs : List Recorded) : List Nat := rs.map (·.position.toNat)

variable (ds : List Delivery) (d : Delivery)

theorem enqueued_concat :
    enqueued (ds ++ [d]) =
      enqueued ds ++ if d.isLost then [] else [⟨d.document, .ofNat ds.length, d.event⟩] := by
  unfold enqueued
  rw [List.zipIdx_append, List.filterMap_append]
  cases hlost : d.isLost <;> simp [hlost]

/-- Every delivery gets into the stream or is lost. -/
theorem length_enqueued : (enqueued ds).length + ds.countP isLost = ds.length := by
  induction ds using List.reverseRecOn with
  | nil => rfl
  | append_singleton ds d ih =>
      rw [enqueued_concat, List.length_append, List.countP_append, List.length_append]
      cases hlost : d.isLost <;> simp [hlost] <;> omega

variable {ds}

theorem positions_concat (hlength : ds.length < UInt64.size) :
    positions (enqueued (ds ++ [d])) =
      positions (enqueued ds) ++ if d.isLost then [] else [ds.length] := by
  unfold positions
  rw [enqueued_concat, List.map_append]
  cases d.isLost with
  | false => simp [Nat.mod_eq_of_lt hlength]
  | true => rfl

/-- A number is missing exactly if the delivery with this number is lost. -/
theorem mem_positions_iff (hlength : ds.length ≤ UInt64.size) (n : Nat) :
    n ∈ positions (enqueued ds) ↔ ∃ d, ds[n]? = some d ∧ d.isLost = false := by
  induction ds using List.reverseRecOn with
  | nil => simp [positions, enqueued]
  | append_singleton ds d ih =>
      rw [List.length_append, List.length_singleton] at hlength
      rw [positions_concat d (by omega), List.mem_append, ih (by omega)]
      rcases Nat.lt_trichotomy n ds.length with hlt | rfl | hgt
      · rw [List.getElem?_append_left hlt]
        have hnot : n ∉ if d.isLost then [] else [ds.length] := by
          split <;> simp [hlt.ne]
        simp [hnot]
      · rw [List.getElem?_concat_length, List.getElem?_eq_none (Nat.le_refl _)]
        cases hlost : d.isLost <;> simp [hlost]
      · rw [List.getElem?_eq_none (by omega), List.getElem?_eq_none (by simp; omega)]
        have hnot : n ∉ if d.isLost then [] else [ds.length] := by
          split <;> simp [hgt.ne']
        simp [hnot]

theorem pairwise_positions (hlength : ds.length ≤ UInt64.size) :
    (positions (enqueued ds)).Pairwise (· < ·) := by
  induction ds using List.reverseRecOn with
  | nil => exact .nil
  | append_singleton ds d ih =>
      rw [List.length_append, List.length_singleton] at hlength
      rw [positions_concat d (by omega), List.pairwise_append]
      refine ⟨ih (by omega), by split <;> simp, ?_⟩
      intro n hn m hm
      obtain ⟨d', hd', -⟩ := (mem_positions_iff (by omega) n).mp hn
      obtain ⟨hlt, -⟩ := List.getElem?_eq_some_iff.mp hd'
      split at hm
      · exact absurd hm List.not_mem_nil
      · rw [List.mem_singleton.mp hm]
        exact hlt

end Delivery

open Delivery

/-! ## One sink -/

/-- The books of a sink, after these deliveries and after these events were taken. -/
structure Sink.Account (config : SinkConfig) (deliveries : List Delivery) (taken : List Recorded)
    (s : Sink) : Prop where
  filter : s.filter = config.filter
  capacity : s.capacity = config.capacity
  position : s.position = .ofNat deliveries.length
  dropped : s.dropped = .ofNat (deliveries.countP isLost)
  room : s.buffer.length ≤ config.capacity
  stream : s.connected = true → taken ++ s.buffer = enqueued deliveries

namespace Sink

variable {config : SinkConfig} {deliveries : List Delivery} {taken : List Recorded} {s : Sink}

theorem offer_of_not_keeps {e : Event} (h : s.filter.keeps e.category = false) (id : DocumentId) :
    s.offer id e = (s, .filtered) := by
  simp [offer, h]

theorem connected_offer (id : DocumentId) (e : Event) :
    (s.offer id e).1.connected = s.connected := by
  unfold offer
  simp only
  split_ifs <;> rfl

/-- While somebody can read, an event is lost exactly if the stream is full. -/
theorem outcome_of_connected {e : Event} (hkeeps : s.filter.keeps e.category = true)
    (hconnected : s.connected = true) (hroom : s.buffer.length ≤ s.capacity) (id : DocumentId) :
    (s.offer id e).2 =
      if s.buffer.length = s.capacity then .lost s.position (!s.overflowing) else .stored := by
  unfold offer
  rw [hkeeps, hconnected]
  by_cases hfull : s.buffer.length = s.capacity
  · simp [hfull]
  · have hlt : s.buffer.length < s.capacity := by omega
    simp [hfull, hlt]

namespace Account

theorem new (config : SinkConfig) : (Sink.new config).Account config [] [] :=
  ⟨rfl, rfl, rfl, rfl, Nat.zero_le _, fun _ => rfl⟩

theorem offer {e : Event} (h : s.Account config deliveries taken)
    (hkeeps : config.filter.keeps e.category = true) (id : DocumentId) :
    (s.offer id e).1.Account config (deliveries ++ [⟨id, e, (s.offer id e).2⟩]) taken := by
  have hkeeps' : s.filter.keeps e.category = true := by rw [h.filter, hkeeps]
  have hposition : s.position + 1 = .ofNat (deliveries.length + 1) := by
    rw [h.position, UInt64.ofNat_add]
    rfl
  have hdropped : s.dropped + 1 = .ofNat (deliveries.countP isLost + 1) := by
    rw [h.dropped, UInt64.ofNat_add]
    rfl
  unfold Sink.offer
  rw [hkeeps']
  by_cases hconnected : s.connected = true
  · by_cases hlt : s.buffer.length < s.capacity
    · simp only [Bool.not_true, Bool.false_eq_true, if_false, hconnected, hlt, if_true]
      have hstream := h.stream hconnected
      have hcapacity := h.capacity
      refine ⟨h.filter, h.capacity, ?_, ?_, ?_, fun _ => ?_⟩
      · simpa using hposition
      · simpa [List.countP_append, isLost] using h.dropped
      · simp only [List.length_append, List.length_singleton]
        omega
      · simp only [enqueued_concat, ← hstream, h.position, List.append_assoc]
        simp [isLost]
    · simp only [Bool.not_true, Bool.false_eq_true, if_false, hconnected, hlt]
      refine ⟨h.filter, h.capacity, ?_, ?_, h.room, fun _ => ?_⟩
      · simpa using hposition
      · simpa [List.countP_append, isLost] using hdropped
      · rw [enqueued_concat, h.stream hconnected]
        simp [isLost]
  · simp only [Bool.not_true, Bool.false_eq_true, if_false, hconnected, Bool.not_false, if_true]
    refine ⟨h.filter, h.capacity, ?_, ?_, h.room, fun hconnected' => absurd hconnected' ?_⟩
    · simpa using hposition
    · simpa [List.countP_append, isLost] using hdropped
    · simp

theorem read {events rest : List Recorded} (h : s.Account config deliveries taken)
    (hbuffer : s.buffer = events ++ rest) :
    { s with buffer := rest }.Account config deliveries (taken ++ events) := by
  have hroom := h.room
  rw [hbuffer, List.length_append] at hroom
  refine ⟨h.filter, h.capacity, h.position, h.dropped, Nat.le_of_add_left_le hroom, ?_⟩
  intro hconnected
  rw [← h.stream hconnected, hbuffer, List.append_assoc]

theorem disconnect (h : s.Account config deliveries taken) :
    s.disconnect.Account config deliveries taken :=
  ⟨h.filter, h.capacity, h.position, h.dropped, Nat.zero_le _, fun hconnected => by
    exact absurd hconnected (by simp [Sink.disconnect])⟩

theorem capacity_eq (config : SinkConfig) : config.capacity = max 1 config.bufferSize :=
  Nat.max_comm ..

section

variable (h : s.Account config deliveries taken)

include h

theorem dropped_toNat (hfew : deliveries.length < UInt64.size) :
    s.dropped.toNat = deliveries.countP isLost := by
  rw [h.dropped, UInt64.toNat_ofNat_of_lt' (List.countP_le_length.trans_lt hfew)]

theorem total (hconnected : s.connected = true) (hfew : deliveries.length < UInt64.size) :
    deliveries.length = taken.length + s.buffer.length + s.dropped.toNat := by
  rw [h.dropped_toNat hfew, ← List.length_append, h.stream hconnected, length_enqueued]

theorem gaps (hconnected : s.connected = true) (hfew : deliveries.length < UInt64.size) {n : Nat}
    {d : Delivery} (hd : deliveries[n]? = some d) :
    n ∉ positions (taken ++ s.buffer) ↔ d.isLost = true := by
  rw [h.stream hconnected, mem_positions_iff hfew.le, hd]
  simp

end

end Account

end Sink

end ChangeNotice
