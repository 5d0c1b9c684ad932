import ChangeNotice.Event
import ChangeNotice.Json.Reader

/-! # Written events

An event is written as an object whose first member `type` holds the tag of its
kind, followed by its fields; identifiers and masks are plain numbers. Reading is
more liberal than writing: members may come in any order and foreign members are
ignored, and an array of the tag and the fields in order is read as well.

`Event.ofJson?` says which values are events. `Event.read` does the same on text
in one walk: the tag is checked when it is met, the fields when the brackets are
closed.
-/

namespace ChangeNotice

/-! ## Fields -/

def UpdateMask.toJson (m : UpdateMask) : Json := .natural m.bits.toUInt64

def StateMask.toJson (m : StateMask) : Json := .natural m.bits

def DocumentId.toJson (i : DocumentId) : Json := .natural i.value

def ContentId.toJson (i : ContentId) : Json := .natural i.value

def SheetId.toJson (i : SheetId) : Json := .natural i.value

def ParserId.toJson (i : ParserId) : Json := .natural i.value

def UpdateMask.ofJson? : Json → Option UpdateMask
  | .natural n => if n.toNat < UInt32.size then some ⟨n.toUInt32⟩ else none
  | _ => none

def StateMask.ofJson? : Json → Option StateMask
  | .natural n => some ⟨n⟩
  | _ => none

def ContentId.ofJson? : Json → Option ContentId
  | .natural n => some ⟨n⟩
  | _ => none

def SheetId.ofJson? : Json → Option SheetId
  | .natural n => some ⟨n⟩
  | _ => none

namespace Json

/-- The value of a key that occurs exactly once. -/
def only? (members : List (String × Json)) (key : String) : Option Json :=
  match members.filter (·.1 == key) with
  | [member] => some member.2
  | _ => none

def truth? : Json → Option Bool
  | bool b => some b
  | _ => none

/-- Reads a plain natural number below the limit and wraps it. -/
def readWrapped {α : Type} (limit : Nat) (wrap : UInt64 → α) : Reader α := fun cs => do
  let (n, cs) ← readNatural limit cs
  .ok (wrap n, cs)

end Json

def UpdateMask.read : Json.Reader UpdateMask :=
  Json.readWrapped UInt32.size fun n => ⟨n.toUInt32⟩

def StateMask.read : Json.Reader StateMask := Json.readWrapped Json.wordLimit StateMask.mk

def DocumentId.read : Json.Reader DocumentId := Json.readWrapped Json.wordLimit DocumentId.mk

def ContentId.read : Json.Reader ContentId := Json.readWrapped Json.wordLimit ContentId.mk

def SheetId.read : Json.Reader SheetId := Json.readWrapped Json.wordLimit SheetId.mk

def ParserId.read : Json.Reader ParserId := Json.readWrapped Json.wordLimit ParserId.mk

/-! ## Sheets -/

namespace SheetRef

def toJson (s : SheetRef) : Json :=
  .object [("id", s.id.toJson), ("is_document_sheet", .bool s.ofDocument)]

def ofValues? : List Json → Option SheetRef
  | [id, own] => do
    let id ← SheetId.ofJson? id
    let own ← own.truth?
    some ⟨id, own⟩
  | _ => none

def ofJson? : Json → Option SheetRef
  | .object ms => do
    let id ← Json.only? ms "id"
    let own ← Json.only? ms "is_document_sheet"
    ofValues? [id, own]
  | .array es => ofValues? es
  | _ => none

/-- One member of a sheet object; what has been read so far is kept. -/
def readMember (s : Option SheetId × Option Bool) (key : String) :
    Json.Reader (Option SheetId × Option Bool) := fun cs =>
  if key = "id" then
    if s.1.isSome then .error .mismatch
    else do
      let ((), cs) ← Json.readColon cs
      let (id, cs) ← SheetId.read cs
      .ok ((some id, s.2), cs)
  else if key = "is_document_sheet" then
    if s.2.isSome then .error .mismatch
    else do
      let ((), cs) ← Json.readColon cs
      let (b, cs) ← Json.readBool cs
      .ok ((s.1, some b), cs)
  else do
    let ((), cs) ← Json.readColon cs
    let ((), cs) ← Json.skipValue cs
    .ok (s, cs)

def read (room : Nat) : Json.Reader SheetRef := fun cs =>
  match Json.skipBlanks cs with
  | [] => .error .unfinished
  | '\x7b' :: rest =>
    if room = 0 then .error .malformed
    else do
      let (s, rest) ← Json.foldMembers readMember (rest.length + 1) true (none, none) rest
      match s with
      | (some id, some own) => do
        let ((), rest) ← Json.closeObject rest
        .ok (⟨id, own⟩, rest)
      | _ => .error .mismatch
  | '[' :: rest =>
    if room = 0 then .error .malformed
    else do
      let (more, rest) ← Json.moreElements true rest
      if !more then .error .mismatch
      let (id, rest) ← SheetId.read rest
      let (more, rest) ← Json.moreElements false rest
      if !more then .error .mismatch
      let (own, rest) ← Json.readBool rest
      let ((), rest) ← Json.closeArray rest
      .ok (⟨id, own⟩, rest)
  | cs => .error (Json.refuse cs)

end SheetRef

/-! ## Events -/

namespace Kind

/-- The names of an event's fields, in writing order. -/
def fields : Kind → List String
  | beginUpdate | endUpdate => ["update_type"]
  | beginLoad | endLoad => []
  | contentStateChanged => ["content", "changed"]
  | documentStatesChanged => ["changed"]
  | styleSheetAdded | styleSheetRemoved | styleSheetApplicableStateChanged
  | styleRuleChanged | styleRuleAdded | styleRuleRemoved => ["sheet"]
  | bindToDocument => ["content"]
  | attemptToExecuteScript => []

/-- The kind that an event's tag names; script queries are not events. -/
def ofEventTag? (s : String) : Option Kind :=
  match ofTag? s with
  | some attemptToExecuteScript => none
  | found => found

end Kind

namespace Event

/-- The values of an event's fields, in writing order. -/
def values : Event → List Json
  | beginUpdate m | endUpdate m => [m.toJson]
  | beginLoad | endLoad => []
  | contentStateChanged c s => [c.toJson, s.toJson]
  | documentStatesChanged s => [s.toJson]
  | styleSheetAdded s | styleSheetRemoved s | styleSheetApplicableStateChanged s
  | styleRuleChanged s | styleRuleAdded s | styleRuleRemoved s => [s.toJson]
  | bindToDocument c => [c.toJson]

def toJson (e : Event) : Json :=
  .object (("type", .string e.kind.tag) :: e.kind.fields.zip e.values)

/-- The event of a kind with these field values. -/
def ofValues? : Kind → List Json → Option Event
  | .beginUpdate, [m] => (UpdateMask.ofJson? m).map beginUpdate
  | .endUpdate, [m] => (UpdateMask.ofJson? m).map endUpdate
  | .beginLoad, [] => some beginLoad
  | .endLoad, [] => some endLoad
  | .contentStateChanged, [c, s] => do
    let c ← ContentId.ofJson? c
    let s ← StateMask.ofJson? s
    some (contentStateChanged c s)
  | .documentStatesChanged, [s] => (StateMask.ofJson? s).map documentStatesChanged
  | .styleSheetAdded, [s] => (SheetRef.ofJson? s).map styleSheetAdded
  | .styleSheetRemoved, [s] => (SheetRef.ofJson? s).map styleSheetRemoved
  | .styleSheetApplicableStateChanged, [s] =>
    (SheetRef.ofJson? s).map styleSheetApplicableStateChanged
  | .styleRuleChanged, [s] => (SheetRef.ofJson? s).map styleRuleChanged
  | .styleRuleAdded, [s] => (SheetRef.ofJson? s).map styleRuleAdded
  | .styleRuleRemoved, [s] => (SheetRef.ofJson? s).map styleRuleRemoved
  | .bindToDocument, [c] => (ContentId.ofJson? c).map bindToDocument
  | _, _ => none

/-- The event of a kind whose fields are among these members. -/
def ofMembers? (kind : Kind) (members : List (String × Json)) : Option Event := do
  let values ← kind.fields.mapM (Json.only? members)
  ofValues? kind values

/-- The event that a value stands for, as an object or as an array. -/
def ofJson? : Json → Option Event
  | .object ms => do
    match ← Json.only? ms "type" with
    | .string tag => ofMembers? (← Kind.ofEventTag? tag) ms
    | _ => none
  | .array (.string tag :: values) => do ofValues? (← Kind.ofEventTag? tag) values
  | _ => none

/-- The tag of an event. -/
def readTag : Json.Reader Kind := fun cs => do
  let (tag, cs) ← Json.readText cs
  match Kind.ofEventTag? tag with
  | some kind => .ok (kind, cs)
  | none => .error .mismatch

/-- One member of an event object: the tag is checked at once, any other value is kept. -/
def readMember (room : Nat) (s : Option Kind × List (String × Json)) (key : String) :
    Json.Reader (Option Kind × List (String × Json)) := fun cs =>
  if key = "type" then
    if s.1.isSome then .error .mismatch
    else do
      let ((), cs) ← Json.readColon cs
      let (kind, cs) ← readTag cs
      .ok ((some kind, s.2), cs)
  else do
    let ((), cs) ← Json.readColon cs
    let (v, cs) ← Json.readValue room cs
    .ok ((s.1, (key, v) :: s.2), cs)

def readElement (room : Nat) (s : List Json) : Json.Reader (List Json) := fun cs => do
  let (v, cs) ← Json.readValue room cs
  .ok (v :: s, cs)

/-- Refuses fields that make no event. -/
def accept (found : Option Event) : Json.Reader Event := fun cs =>
  match found with
  | some e => .ok (e, cs)
  | none => .error .mismatch

def read (room : Nat) : Json.Reader Event := fun cs =>
  match Json.skipBlanks cs with
  | [] => .error .unfinished
  | '\x7b' :: rest =>
    match room with
    | 0 => .error .malformed
    | room + 1 => do
      let (s, rest) ← Json.foldMembers (readMember room) (rest.length + 1) true (none, []) rest
      match s with
      | (some kind, members) => do
        let ((), rest) ← Json.closeObject rest
        accept (ofMembers? kind members.reverse) rest
      | (none, _) => .error .mismatch
  | '[' :: rest =>
    match room with
    | 0 => .error .malformed
    | room + 1 => do
      let (more, rest) ← Json.moreElements true rest
      if !more then .error .mismatch
      let (kind, rest) ← readTag rest
      let (values, rest) ← Json.foldElements (readElement room) (rest.length + 1) false [] rest
      accept (ofValues? kind values.reverse) rest
  | cs => .error (Json.refuse cs)

end Event

/-! ## Whole texts -/

def UpdateMask.text (m : UpdateMask) : String := m.toJson.text

def UpdateMask.ofText (s : String) : Except Json.ReadError UpdateMask := Json.readAll read s

def StateMask.text (m : StateMask) : String := m.toJson.text

def StateMask.ofText (s : String) : Except Json.ReadError StateMask := Json.readAll read s

def DocumentId.ofText (s : String) : Except Json.ReadError DocumentId := Json.readAll read s

def ContentId.text (i : ContentId) : String := i.toJson.text

def ContentId.ofText (s : String) : Except Json.ReadError ContentId := Json.readAll read s

def SheetId.text (i : SheetId) : String := i.toJson.text

def SheetId.ofText (s : String) : Except Json.ReadError SheetId := Json.readAll read s

def ParserId.text (i : ParserId) : String := i.toJson.text

def ParserId.ofText (s : String) : Except Json.ReadError ParserId := Json.readAll read s

def SheetRef.text (r : SheetRef) : String := r.toJson.text

def SheetRef.ofText (s : String) : Except Json.ReadError SheetRef :=
  Json.readAll (read Json.nestingLimit) s

def Event.text (e : Event) : String := e.toJson.text

def Event.ofText (s : String) : Except Json.ReadError Event :=
  Json.readAll (read Json.nestingLimit) s

end ChangeNotice
