import ChangeNotice.Event
import ChangeNotice.Table

/-! # Passes and their slots

A pass calls the observers of a snapshot one after the other and reports what
became of each. Passes nest; how deep they may nest on one thread is limited, and
a guard holds the slot of a pass that runs.
-/

namespace ChangeNotice

/-- What happens to an observer that is removed before its turn in a running pass. -/
inductive Removal where
  | skip
  | deliver
deriving DecidableEq, Inhabited

namespace Removal

/-- Whether a pass asks if an entry still stands. -/
def honoured : Removal → Bool
  | skip => true
  | deliver => false

def inspect : Removal → String
  | skip => "Skip"
  | deliver => "Deliver"

end Removal

/-- What became of the observers of a pass. -/
structure Report where
  delivered : Nat
  unregistered : Nat
  dropped : Nat
  unsupported : Nat
deriving DecidableEq

namespace Report

def empty : Report := ⟨0, 0, 0, 0⟩

instance : Inhabited Report := ⟨empty⟩

def visited (r : Report) : Nat := r.delivered + r.unregistered + r.dropped + r.unsupported

/-- The number of visited observers, if it fits 64 bits. -/
def visited? (r : Report) : Option Nat := if r.visited < UInt64.size then some r.visited else none

/-- What is said when the number does not fit. -/
def overflowMessage : String := "attempt to add with overflow"

def skipped (r : Report) : Nat := r.unregistered + r.dropped

def inspect (r : Report) : String :=
  Text.record "DispatchReport"
    [("delivered", Text.decimal r.delivered),
      ("skipped_unregistered", Text.decimal r.unregistered),
      ("skipped_dropped", Text.decimal r.dropped), ("unsupported", Text.decimal r.unsupported)]

end Report

/-- How many slots each thread holds; a thread that holds none has no row. -/
abbrev Depths := Table Thread Nat

namespace Depths

def count (d : Depths) (t : Thread) : Nat := d.get t

def take (d : Depths) (t : Thread) : Depths := d.set t (d.count t + 1)

/-- Gives one slot back; the row goes with the last one. -/
def release (d : Depths) (t : Thread) : Depths :=
  match d.find? t with
  | none => d
  | some n => if n - 1 = 0 then d.erase t else d.set t (n - 1)

@[simp]
theorem count_take (d : Depths) (t u : Thread) :
    count (take d t) u = if u = t then count d t + 1 else count d u := by
  unfold take count
  rw [Table.get_set]

@[simp]
theorem count_release (d : Depths) (t u : Thread) :
    count (release d t) u = if u = t then count d t - 1 else count d u := by
  unfold release
  cases hfound : d.find? t with
  | none => by_cases h : u = t <;> simp [count, Table.get, h, hfound]
  | some n =>
      by_cases hlast : n - 1 = 0 <;> by_cases h : u = t <;>
        simp [count, Table.get, hlast, h, hfound]

end Depths

/-- Issues slots to the passes of one document. -/
structure Dispatcher where
  document : DocumentId
  maxDepth : Nat
  removal : Removal
  depths : Depths
deriving DecidableEq, Inhabited

namespace Dispatcher

def inFlight (d : Dispatcher) (t : Thread) : Nat := Depths.count d.depths t

/-- All slots of the thread are taken. -/
def isFull (d : Dispatcher) (t : Thread) : Bool := d.maxDepth ≤ d.inFlight t

def take (d : Dispatcher) (t : Thread) : Dispatcher := { d with depths := Depths.take d.depths t }

/-- Takes a slot for the thread, if one is left; the depth of the new slot counts from one. -/
def enter? (d : Dispatcher) (t : Thread) : Option (Nat × Dispatcher) :=
  if d.isFull t then none else some (d.inFlight t + 1, d.take t)

/-- Gives a slot of the thread back. -/
def release (d : Dispatcher) (t : Thread) : Dispatcher :=
  { d with depths := Depths.release d.depths t }

end Dispatcher

/-- A slot that is kept: the number of the dispatcher that issued it, for which thread, and at
what depth. It is given back when nobody keeps it any more. -/
structure Guard where
  dispatcher : Nat
  thread : Thread
  depth : Nat
  /-- One for the name of the guard and one for each pass that runs on it. -/
  keepers : Nat
deriving DecidableEq, Inhabited

end ChangeNotice
