import ChangeNotice.Text.Inspect

/-! # Bit masks

An update mask names the kinds of change that an update scope announces; a
state mask names the states of content and documents. Masks are plain words:
bits without a name are kept, compared and printed like the others.
-/

namespace ChangeNotice

/-- The kinds of change that an update scope announces. -/
structure UpdateMask where
  bits : UInt32
deriving DecidableEq, Inhabited

namespace UpdateMask

def empty : UpdateMask := ⟨0⟩

def contentModel : UpdateMask := ⟨1⟩

def style : UpdateMask := ⟨2⟩

def union (a b : UpdateMask) : UpdateMask := ⟨a.bits ||| b.bits⟩

instance : OrOp UpdateMask := ⟨union⟩

def all : UpdateMask := contentModel ||| style

def isEmpty (a : UpdateMask) : Bool := a.bits == 0

/-- Every bit of the second mask is set in the first. -/
def contains (a b : UpdateMask) : Bool := a.bits &&& b.bits == b.bits

def intersects (a b : UpdateMask) : Bool := a.bits &&& b.bits != 0

/-- The bits that have a name, in the order in which they are printed. -/
def names : List (UpdateMask × String) :=
  [(contentModel, "CONTENT_MODEL"), (style, "STYLE")]

/-- The bits that have no name. -/
def unnamed (a : UpdateMask) : UInt32 := a.bits &&& ~~~all.bits

/-- The names of the set bits, and the remaining bits as one hexadecimal number. -/
def parts (a : UpdateMask) : List String :=
  (names.filter fun entry => a.contains entry.1).map (·.2) ++
    (if a.unnamed == 0 then [] else [Text.hex a.unnamed.toNat])

def inspect (a : UpdateMask) : String :=
  Text.wrapped "UpdateType"
    (if a.parts.isEmpty then "NONE" else " | ".intercalate a.parts)

end UpdateMask

/-- The states of content or of a whole document. -/
structure StateMask where
  bits : UInt64
deriving DecidableEq, Inhabited

namespace StateMask

def empty : StateMask := ⟨0⟩

/-- The states that have a name. -/
def names : List (String × StateMask) :=
  [("EMPTY", empty), ("ACTIVE", ⟨1⟩), ("FOCUS", ⟨2⟩), ("HOVER", ⟨4⟩), ("DRAGOVER", ⟨8⟩),
    ("URLTARGET", ⟨16⟩), ("CHECKED", ⟨32⟩), ("ENABLED", ⟨64⟩), ("DISABLED", ⟨128⟩),
    ("FOCUS_VISIBLE", ⟨256⟩), ("VISITED", ⟨512⟩), ("UNVISITED", ⟨1024⟩),
    ("WINDOW_INACTIVE", ⟨0x100000000⟩), ("RTL_LOCALE", ⟨0x200000000⟩), ("LWTHEME", ⟨0x400000000⟩)]

def union (a b : StateMask) : StateMask := ⟨a.bits ||| b.bits⟩

instance : OrOp StateMask := ⟨union⟩

def isEmpty (a : StateMask) : Bool := a.bits == 0

def contains (a b : StateMask) : Bool := a.bits &&& b.bits == b.bits

def intersects (a b : StateMask) : Bool := a.bits &&& b.bits != 0

/-- The states that are set on one side only. -/
def changedBetween (a b : StateMask) : StateMask := ⟨a.bits ^^^ b.bits⟩

def inspect (a : StateMask) : String := Text.wrapped "EventStates" (Text.hex a.bits.toNat)

end StateMask

end ChangeNotice
