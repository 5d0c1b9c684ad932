import ChangeNotice.Event.Written
import ChangeNotice.Filter

/-! # Event sinks

A sink is an observer that puts the events of chosen categories into a bounded
stream. Every event of these categories has a position, whether it was kept or
not; an event that finds the stream full is counted and lost. The first loss of a
run of losses is worth a warning, the others are not.
-/

namespace ChangeNotice

structure Recorded where
  document : DocumentId
  position : UInt64
  event : Event
deriving DecidableEq, Inhabited

namespace Recorded

def toJson (r : Recorded) : Json :=
  .object [("document", r.document.toJson), ("position", .natural r.position),
    ("event", r.event.toJson)]

def text (r : Recorded) : String := r.toJson.text

def inspect (r : Recorded) : String :=
  Text.record "RecordedEvent"
    [("document", r.document.inspect), ("position", Text.decimal r.position.toNat),
      ("event", r.event.inspect)]

/-- The fields of a record that have been read so far. -/
structure Draft where
  document : Option DocumentId := none
  position : Option UInt64 := none
  event : Option Event := none

def Draft.finish? (d : Draft) : Option Recorded := do
  let document ← d.document
  let position ← d.position
  let event ← d.event
  some ⟨document, position, event⟩

/-- Reads a position. -/
def readPosition : Json.Reader UInt64 := Json.readNatural Json.wordLimit

def readMember (room : Nat) (d : Draft) (key : String) : Json.Reader Draft := fun cs =>
  if key = "document" then
    if d.document.isSome then .error .mismatch
    else do
      let ((), cs) ← Json.readColon cs
      let (id, cs) ← DocumentId.read cs
      .ok ({ d with document := some id }, cs)
  else if key = "position" then
    if d.position.isSome then .error .mismatch
    else do
      let ((), cs) ← Json.readColon cs
      let (n, cs) ← readPosition cs
      .ok ({ d with position := some n }, cs)
  else if key = "event" then
    if d.event.isSome then .error .mismatch
    else do
      let ((), cs) ← Json.readColon cs
      let (e, cs) ← Event.read room cs
      .ok ({ d with event := some e }, cs)
  else do
    let ((), cs) ← Json.readColon cs
    let ((), cs) ← Json.skipValue cs
    .ok (d, cs)

def read (room : Nat) : Json.Reader Recorded := fun cs =>
  match Json.skipBlanks cs with
  | [] => .error .unfinished
  | '\x7b' :: rest =>
    match room with
    | 0 => .error .malformed
    | room + 1 => do
      let (draft, rest) ← Json.foldMembers (readMember room) (rest.length + 1) true {} rest
      match draft.finish? with
      | some r => do
        let ((), rest) ← Json.closeObject rest
        .ok (r, rest)
      | none => .error .mismatch
  | '[' :: rest =>
    match room with
    | 0 => .error .malformed
    | room + 1 => do
      let (more, rest) ← Json.moreElements true rest
      if !more then .error .mismatch
      let (document, rest) ← DocumentId.read rest
      let (more, rest) ← Json.moreElements false rest
      if !more then .error .mismatch
      let (position, rest) ← readPosition rest
      let (more, rest) ← Json.moreElements false rest
      if !more then .error .mismatch
      let (event, rest) ← Event.read room rest
      let ((), rest) ← Json.closeArray rest
      .ok (⟨document, position, event⟩, rest)
  | cs => .error (Json.refuse cs)

/-- Reads a whole text as a recorded event. -/
def ofText (s : String) : Except Json.ReadError Recorded :=
  Json.readAll (read Json.nestingLimit) s

end Recorded

structure SinkConfig where
  bufferSize : Nat := 1000
  filter : Filter := .all
deriving DecidableEq

def SinkConfig.inspect (c : SinkConfig) : String :=
  Text.record "SinkConfig"
    [("buffer_size", Text.decimal c.bufferSize), ("filter", c.filter.inspect)]

/-- Why no buffer of a given size can be laid out. -/
inductive BufferFault where
  /-- The places and the laps around them cannot be numbered together. -/
  | places
  /-- The places take up too many bytes. -/
  | bytes
deriving DecidableEq

def BufferFault.message : BufferFault → String
  | places => "bounded channel capacity is too large"
  | bytes => "capacity overflow"

namespace SinkConfig

/-- A sink keeps at least one event. -/
def capacity (c : SinkConfig) : Nat := max c.bufferSize 1

/-- The bytes of a recorded event and of the word that marks its place. -/
def placeSize : Nat := 48

/-- A buffer is laid out at once. Its places are numbered within a power of two, its laps in the
bits above; a word of 64 bits holds both, and all bytes of the buffer fit half of what a word
counts. -/
def bufferFault? (c : SinkConfig) : Option BufferFault :=
  if UInt64.size / 4 < c.capacity + 1 then some .places
  else if UInt64.size / 2 ≤ c.capacity * placeSize then some .bytes
  else none

end SinkConfig

/-- A sink together with its stream. -/
structure Sink where
  filter : Filter
  capacity : Nat
  /-- The events that wait to be read, oldest first. -/
  buffer : List Recorded
  /-- Somebody can still read. -/
  connected : Bool
  position : UInt64
  dropped : UInt64
  /-- The last event that found a reader found the stream full. -/
  overflowing : Bool
deriving DecidableEq

/-- What became of an event that was offered to a sink. -/
inductive Offered where
  | filtered
  | stored
  | lost (position : UInt64) (warn : Bool)
deriving DecidableEq

namespace Sink

def new (c : SinkConfig) : Sink where
  filter := c.filter
  capacity := c.capacity
  buffer := []
  connected := true
  position := 0
  dropped := 0
  overflowing := false

instance : Inhabited Sink := ⟨new {}⟩

/-- Offers an event to the sink. -/
def offer (s : Sink) (document : DocumentId) (e : Event) : Sink × Offered :=
  if !s.filter.keeps e.category then (s, .filtered)
  else
    let numbered := { s with position := s.position + 1 }
    if !s.connected then
      ({ numbered with dropped := s.dropped + 1 }, .lost s.position false)
    else if s.buffer.length < s.capacity then
      ({ numbered with
          buffer := s.buffer ++ [⟨document, s.position, e⟩], overflowing := false }, .stored)
    else
      ({ numbered with dropped := s.dropped + 1, overflowing := true },
        .lost s.position (!s.overflowing))

/-- Takes the oldest event. -/
def take? (s : Sink) : Option (Recorded × Sink) :=
  match s.buffer with
  | [] => none
  | r :: rest => some (r, { s with buffer := rest })

def drain (s : Sink) : List Recorded × Sink := (s.buffer, { s with buffer := [] })

/-- One line for each waiting event. -/
def jsonLines (s : Sink) : String := String.join (s.buffer.map fun r => r.text ++ "\n")

def disconnect (s : Sink) : Sink := { s with connected := false, buffer := [] }

end Sink

end ChangeNotice
