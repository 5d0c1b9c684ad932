import ChangeNotice.Dispatch
import ChangeNotice.Registry
import ChangeNotice.Scope
import ChangeNotice.Text.Quoted

/-! # Documents

A document owns a registry of observers, counts its open update scopes, follows
its load and issues the slots of its own passes.
-/

namespace ChangeNotice

inductive LoadState where
  | idle
  | loading
  | loaded
deriving DecidableEq, Inhabited

def LoadState.inspect : LoadState → String
  | idle => "Idle"
  | loading => "Loading"
  | loaded => "Loaded"

/-- What a document does when an update scope is closed that was never opened. -/
inductive ViolationPolicy where
  | panic
  | clamp
deriving DecidableEq, Inhabited

def ViolationPolicy.inspect : ViolationPolicy → String
  | panic => "Panic"
  | clamp => "ClampAndLog"

structure Config where
  maxDepth : Nat := 64
  removal : Removal := .skip
  violation : ViolationPolicy := .panic
deriving DecidableEq, Inhabited

def Config.inspect (c : Config) : String :=
  Text.record "DocumentConfig"
    [("max_dispatch_depth", Text.decimal c.maxDepth), ("mid_pass_removal", c.removal.inspect),
      ("violation_policy", c.violation.inspect)]

structure Document where
  dispatcher : Dispatcher
  violation : ViolationPolicy
  registry : Registry
  scope : ScopeState
  load : LoadState
deriving DecidableEq, Inhabited

namespace Document

def new (id : DocumentId) (c : Config) : Document where
  dispatcher := ⟨id, c.maxDepth, c.removal, .empty⟩
  violation := c.violation
  registry := .empty
  scope := .idle
  load := .idle

def id (d : Document) : DocumentId := d.dispatcher.document

def inspect (alive : Name → Bool) (d : Document) : String :=
  Text.record "Document"
    [("id", d.id.inspect), ("update", d.scope.inspect), ("load", d.load.inspect),
      ("observers", Text.decimal (d.registry.length alive))]

end Document

/-- Why a notification or an export did not go through. -/
inductive NotifyError where
  | unbalanced (document : DocumentId) (mask : UpdateMask)
  | depthExceeded (document : DocumentId) (kind : Kind) (limit : Nat)
  | serialization (text : String)
deriving DecidableEq

namespace NotifyError

def message : NotifyError → String
  | unbalanced d m =>
    "EndUpdate(" ++ m.inspect ++ ") on document " ++ d.text ++ " with no open update scope"
  | depthExceeded d k n =>
    "Dispatch depth limit " ++ Text.decimal n ++ " exceeded on document " ++ d.text ++ "; " ++
      k.name ++ " dropped"
  | serialization text => "Serialization error: " ++ text

def inspect : NotifyError → String
  | unbalanced d m =>
    Text.record "UnbalancedEndUpdate" [("document", d.inspect), ("mask", m.inspect)]
  | depthExceeded d k n =>
    Text.record "DispatchDepthExceeded"
      [("document", d.inspect), ("event", Text.quoted k.name), ("limit", Text.decimal n)]
  | serialization text => Text.wrapped "Serialization" (Text.quoted text)

end NotifyError

end ChangeNotice
