import ChangeNotice.Ident

/-! # Observer registries

A registry lists observers in the order of their registration and does not keep
them alive. Each registration has a ticket of its own: a snapshot taken earlier
can tell whether its entry still stands, even if the same observer has been
registered again since. Entries of dead observers stay until something prunes
them; whether an observer is alive is asked of the caller.
-/

namespace ChangeNotice

structure Entry where
  key : Name
  ticket : Nat
deriving DecidableEq, Inhabited

/-- The entries that stood at one moment. -/
abbrev Snapshot := List Entry

structure Registry where
  entries : List Entry
  /-- How many tickets have been issued. -/
  issued : Nat
deriving DecidableEq

/-- What has become of an entry of a snapshot. -/
inductive Resolved where
  | live
  | unregistered
  | dropped
deriving DecidableEq

namespace Registry

def empty : Registry := ⟨[], 0⟩

instance : Inhabited Registry := ⟨empty⟩

/-- Removes the entries of dead observers. -/
def prune (alive : Name → Bool) (r : Registry) : Registry :=
  { r with entries := r.entries.filter fun e => alive e.key }

def hasKey (r : Registry) (key : Name) : Bool := r.entries.any (·.key == key)

/-- Prunes, then adds the observer at the end unless it is registered already. -/
def insert (alive : Name → Bool) (key : Name) (r : Registry) : Registry :=
  let r := r.prune alive
  if r.hasKey key then r
  else ⟨r.entries ++ [⟨key, r.issued⟩], r.issued + 1⟩

/-- Removes the entry of the observer, dead or alive. -/
def remove (key : Name) (r : Registry) : Registry :=
  { r with entries := r.entries.eraseP (·.key == key) }

/-- Whether the entry still stands: it was neither removed nor pruned. -/
def isCurrent (r : Registry) (e : Entry) : Bool := r.entries.any (·.ticket == e.ticket)

/-- The registered observers that are alive, in order. -/
def keys (alive : Name → Bool) (r : Registry) : List Name :=
  (r.entries.map (·.key)).filter alive

def length (alive : Name → Bool) (r : Registry) : Nat := r.entries.countP fun e => alive e.key

def isEmpty (alive : Name → Bool) (r : Registry) : Bool := !r.entries.any fun e => alive e.key

def contains (alive : Name → Bool) (r : Registry) (key : Name) : Bool :=
  r.entries.any fun e => alive e.key && e.key == key

/-- What has become of an entry; an entry that no longer stands counts only where removal is
honoured. -/
def resolve (alive : Name → Bool) (honour : Bool) (r : Registry) (e : Entry) : Resolved :=
  if honour && !r.isCurrent e then .unregistered
  else if alive e.key then .live
  else .dropped

end Registry

end ChangeNotice
