import ChangeNotice.Mask

/-! # Update scopes

Open scopes are counted, and their masks are gathered until the last one closes.
The count stops at the largest 32-bit number; closing never looks at which mask
opened a scope.
-/

namespace ChangeNotice

structure ScopeState where
  depth : Nat
  mask : UpdateMask
deriving DecidableEq

/-- A scope was closed although none was open. -/
inductive ScopeError where
  | unbalanced (mask : UpdateMask)
deriving DecidableEq

namespace ScopeError

def message : ScopeError → String
  | unbalanced m => "EndUpdate(" ++ m.inspect ++ ") with no open update scope"

def inspect : ScopeError → String
  | unbalanced m => Text.wrapped "Unbalanced" m.inspect

end ScopeError

namespace ScopeState

def maxDepth : Nat := UInt32.size - 1

def idle : ScopeState := ⟨0, .empty⟩

instance : Inhabited ScopeState := ⟨idle⟩

def isIdle (s : ScopeState) : Bool := s.depth == 0

/-- Exactly one scope is open. -/
def isOutermost (s : ScopeState) : Bool := s.depth == 1

/-- Opens a scope. -/
def enter (s : ScopeState) (m : UpdateMask) : ScopeState :=
  ⟨min (s.depth + 1) maxDepth, s.mask ||| m⟩

/-- Whether a scope can be closed. -/
def check (s : ScopeState) (m : UpdateMask) : Except ScopeError Unit :=
  if s.depth = 0 then .error (.unbalanced m) else .ok ()

/-- Closes the innermost scope; with the last one the gathered mask is cleared. -/
def leave (s : ScopeState) (m : UpdateMask) : Except ScopeError ScopeState := do
  s.check m
  .ok ⟨s.depth - 1, if s.depth = 1 then .empty else s.mask⟩

def fields (s : ScopeState) : List (String × String) :=
  [("depth", Text.decimal s.depth), ("mask", s.mask.inspect)]

def inspect (s : ScopeState) : String := Text.record "ScopeState" s.fields

/-- The inspection form of a counter that stands by itself. -/
def inspectTracker (s : ScopeState) : String := Text.record "UpdateScopeTracker" s.fields

end ScopeState

end ChangeNotice
