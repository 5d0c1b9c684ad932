import ChangeNotice.Event

/-! # Filters

Which categories of event a sink keeps.
-/

namespace ChangeNotice

structure Filter where
  updates : Bool
  loads : Bool
  states : Bool
  styles : Bool
  bindings : Bool
deriving DecidableEq

namespace Filter

def empty : Filter := ⟨false, false, false, false, false⟩

def all : Filter := ⟨true, true, true, true, true⟩

def onlyUpdates : Filter := { empty with updates := true }

def onlyLoads : Filter := { empty with loads := true }

def onlyStates : Filter := { empty with states := true }

def onlyStyles : Filter := { empty with styles := true }

instance : Inhabited Filter := ⟨empty⟩

def keeps (f : Filter) : Category → Bool
  | .update => f.updates
  | .load => f.loads
  | .state => f.states
  | .style => f.styles
  | .binding => f.bindings

def inspect (f : Filter) : String :=
  Text.record "EventFilter"
    [("include_updates", Text.truth f.updates), ("include_loads", Text.truth f.loads),
      ("include_states", Text.truth f.states), ("include_styles", Text.truth f.styles),
      ("include_bindings", Text.truth f.bindings)]

end Filter

end ChangeNotice
