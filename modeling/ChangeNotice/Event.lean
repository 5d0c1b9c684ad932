import ChangeNotice.Ident
import ChangeNotice.Mask

/-! # Events

What a document announces. Each event has a kind, each kind a category by which
sinks select; script queries share the kinds but ask for a verdict, so a notice
is either an event or a query.
-/

namespace ChangeNotice

inductive Event where
  | beginUpdate (mask : UpdateMask)
  | endUpdate (mask : UpdateMask)
  | beginLoad
  | endLoad
  | contentStateChanged (content : ContentId) (changed : StateMask)
  | documentStatesChanged (changed : StateMask)
  | styleSheetAdded (sheet : SheetRef)
  | styleSheetRemoved (sheet : SheetRef)
  | styleSheetApplicableStateChanged (sheet : SheetRef)
  | styleRuleChanged (sheet : SheetRef)
  | styleRuleAdded (sheet : SheetRef)
  | styleRuleRemoved (sheet : SheetRef)
  | bindToDocument (content : ContentId)
deriving DecidableEq, Inhabited

inductive Kind where
  | beginUpdate
  | endUpdate
  | beginLoad
  | endLoad
  | contentStateChanged
  | documentStatesChanged
  | styleSheetAdded
  | styleSheetRemoved
  | styleSheetApplicableStateChanged
  | styleRuleChanged
  | styleRuleAdded
  | styleRuleRemoved
  | bindToDocument
  | attemptToExecuteScript
deriving DecidableEq, Inhabited

inductive Category where
  | update
  | load
  | state
  | style
  | binding
deriving DecidableEq, Inhabited

/-- The answer to the question whether a script may run. -/
inductive Verdict where
  | proceed
  | block
deriving DecidableEq, Inhabited

/-- What reaches the handlers of an observer. -/
inductive Notice where
  | event (e : Event)
  | script (content : ContentId) (parser : ParserId)
deriving DecidableEq, Inhabited

/-- The arguments of a notice, without its kind. -/
inductive Payload where
  | empty
  | number (n : UInt64)
  | pair (a b : UInt64)
  | sheet (id : UInt64) (ofDocument : Bool)
deriving DecidableEq, Inhabited

namespace Kind

def all : List Kind :=
  [beginUpdate, endUpdate, beginLoad, endLoad, contentStateChanged, documentStatesChanged,
    styleSheetAdded, styleSheetRemoved, styleSheetApplicableStateChanged, styleRuleChanged,
    styleRuleAdded, styleRuleRemoved, bindToDocument, attemptToExecuteScript]

def name : Kind → String
  | beginUpdate => "BeginUpdate"
  | endUpdate => "EndUpdate"
  | beginLoad => "BeginLoad"
  | endLoad => "EndLoad"
  | contentStateChanged => "ContentStateChanged"
  | documentStatesChanged => "DocumentStatesChanged"
  | styleSheetAdded => "StyleSheetAdded"
  | styleSheetRemoved => "StyleSheetRemoved"
  | styleSheetApplicableStateChanged => "StyleSheetApplicableStateChanged"
  | styleRuleChanged => "StyleRuleChanged"
  | styleRuleAdded => "StyleRuleAdded"
  | styleRuleRemoved => "StyleRuleRemoved"
  | bindToDocument => "BindToDocument"
  | attemptToExecuteScript => "AttemptToExecuteScript"

/-- The tag of the kind in written events; also the name of its handler. -/
def tag : Kind → String
  | beginUpdate => "begin_update"
  | endUpdate => "end_update"
  | beginLoad => "begin_load"
  | endLoad => "end_load"
  | contentStateChanged => "content_state_changed"
  | documentStatesChanged => "document_states_changed"
  | styleSheetAdded => "style_sheet_added"
  | styleSheetRemoved => "style_sheet_removed"
  | styleSheetApplicableStateChanged => "style_sheet_applicable_state_changed"
  | styleRuleChanged => "style_rule_changed"
  | styleRuleAdded => "style_rule_added"
  | styleRuleRemoved => "style_rule_removed"
  | bindToDocument => "bind_to_document"
  | attemptToExecuteScript => "attempt_to_execute_script"

def category : Kind → Category
  | beginUpdate | endUpdate => .update
  | beginLoad | endLoad => .load
  | contentStateChanged | documentStatesChanged => .state
  | styleSheetAdded | styleSheetRemoved | styleSheetApplicableStateChanged
  | styleRuleChanged | styleRuleAdded | styleRuleRemoved => .style
  | bindToDocument | attemptToExecuteScript => .binding

/-- Handlers of these kinds belong to an extension that an observer may lack. -/
def needsBinding : Kind → Bool
  | bindToDocument | attemptToExecuteScript => true
  | _ => false

def ofName? (s : String) : Option Kind := all.find? (·.name == s)

def ofTag? (s : String) : Option Kind := all.find? (·.tag == s)

end Kind

def Category.inspect : Category → String
  | update => "Update"
  | load => "Load"
  | state => "State"
  | style => "Style"
  | binding => "Binding"

namespace Verdict

/-- One block outweighs any number of permissions. -/
def combine : Verdict → Verdict → Verdict
  | proceed, proceed => proceed
  | _, _ => block

def isBlocked : Verdict → Bool
  | block => true
  | proceed => false

def inspect : Verdict → String
  | proceed => "Proceed"
  | block => "Block"

/-- The verdict of several answers; without any, the script proceeds. -/
def ofAnswers (answers : List Verdict) : Verdict := answers.foldl combine proceed

end Verdict

namespace Event

def kind : Event → Kind
  | beginUpdate _ => .beginUpdate
  | endUpdate _ => .endUpdate
  | beginLoad => .beginLoad
  | endLoad => .endLoad
  | contentStateChanged _ _ => .contentStateChanged
  | documentStatesChanged _ => .documentStatesChanged
  | styleSheetAdded _ => .styleSheetAdded
  | styleSheetRemoved _ => .styleSheetRemoved
  | styleSheetApplicableStateChanged _ => .styleSheetApplicableStateChanged
  | styleRuleChanged _ => .styleRuleChanged
  | styleRuleAdded _ => .styleRuleAdded
  | styleRuleRemoved _ => .styleRuleRemoved
  | bindToDocument _ => .bindToDocument

def category (e : Event) : Category := e.kind.category

/-- The sheet that a style event speaks of. -/
def sheet? : Event → Option SheetRef
  | styleSheetAdded s | styleSheetRemoved s | styleSheetApplicableStateChanged s
  | styleRuleChanged s | styleRuleAdded s | styleRuleRemoved s => some s
  | _ => none

def payload : Event → Payload
  | beginUpdate m | endUpdate m => .number m.bits.toUInt64
  | beginLoad | endLoad => .empty
  | contentStateChanged c s => .pair c.value s.bits
  | documentStatesChanged s => .number s.bits
  | styleSheetAdded s | styleSheetRemoved s | styleSheetApplicableStateChanged s
  | styleRuleChanged s | styleRuleAdded s | styleRuleRemoved s => .sheet s.id.value s.ofDocument
  | bindToDocument c => .number c.value

/-- The fields of an event with their inspection texts. -/
def inspectFields : Event → List (String × String)
  | beginUpdate m | endUpdate m => [("update_type", m.inspect)]
  | beginLoad | endLoad => []
  | contentStateChanged c s => [("content", c.inspect), ("changed", s.inspect)]
  | documentStatesChanged s => [("changed", s.inspect)]
  | styleSheetAdded s | styleSheetRemoved s | styleSheetApplicableStateChanged s
  | styleRuleChanged s | styleRuleAdded s | styleRuleRemoved s => [("sheet", s.inspect)]
  | bindToDocument c => [("content", c.inspect)]

def inspect (e : Event) : String :=
  if e.inspectFields.isEmpty then e.kind.name else Text.record e.kind.name e.inspectFields

end Event

namespace Notice

def kind : Notice → Kind
  | event e => e.kind
  | script _ _ => .attemptToExecuteScript

def payload : Notice → Payload
  | event e => e.payload
  | script c p => .pair c.value p.value

/-- What comes of the answer that a handler has: only scripts ask for one. -/
def answer (v : Verdict) : Notice → Verdict
  | event _ => .proceed
  | script _ _ => v

end Notice

end ChangeNotice
