import ChangeNotice.Scenario.Step

/-! # Observers

An observer lives as long as its owner keeps it or some pass or delivery holds it
while its handler runs. Registries never keep an observer alive.
-/

namespace ChangeNotice

/-- An observer that runs the steps of its rules. -/
structure Recorder where
  binding : Bool
  verdict : Verdict
  rules : List (Rule Step)

inductive Role where
  | recorder (r : Recorder)
  | quiet (binding : Bool)
  | sink (s : Sink)

structure Observer where
  role : Role
  /-- The owner has not let go. -/
  owned : Bool
  /-- How many passes and deliveries hold the observer. -/
  holds : Nat

namespace Observer

def new (role : Role) : Observer := ⟨role, true, 0⟩

instance : Inhabited Observer := ⟨⟨.quiet false, false, 0⟩⟩

def isAlive (o : Observer) : Bool := o.owned || 0 < o.holds

/-- Whether the observer has the handlers that concern bindings and scripts. -/
def hasBinding (o : Observer) : Bool :=
  match o.role with
  | .recorder r => r.binding
  | .quiet binding => binding
  | .sink s => s.filter.bindings

/-- Whether the observer has a handler for notices of this kind. -/
def supports (o : Observer) (k : Kind) : Bool := !k.needsBinding || o.hasBinding

def isRecorder (o : Observer) : Bool :=
  match o.role with
  | .recorder _ => true
  | _ => false

def sink? (o : Observer) : Option Sink :=
  match o.role with
  | .sink s => some s
  | _ => none

end Observer

end ChangeNotice
