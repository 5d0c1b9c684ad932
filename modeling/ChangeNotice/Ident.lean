import ChangeNotice.Text.Inspect

/-! # Identifiers

Documents, content nodes, style sheets and parsers are known by 64-bit numbers
of separate types. A sheet reference also says whether the sheet belongs to the
document itself.
-/

namespace ChangeNotice

/-- The name under which a scenario knows a thing. -/
abbrev Name := String

/-- The first thread is 0; every further one takes the next number. -/
abbrev Thread := Nat

structure DocumentId where
  value : UInt64
deriving DecidableEq, Inhabited

structure ContentId where
  value : UInt64
deriving DecidableEq, Inhabited

structure SheetId where
  value : UInt64
deriving DecidableEq, Inhabited

structure ParserId where
  value : UInt64
deriving DecidableEq, Inhabited

/-- The bare number, as it stands in messages. -/
def DocumentId.text (i : DocumentId) : String := Text.decimal i.value.toNat

def DocumentId.inspect (i : DocumentId) : String := Text.wrapped "DocumentId" i.text

def ContentId.inspect (i : ContentId) : String :=
  Text.wrapped "ContentId" (Text.decimal i.value.toNat)

def SheetId.inspect (i : SheetId) : String :=
  Text.wrapped "StyleSheetId" (Text.decimal i.value.toNat)

def ParserId.inspect (i : ParserId) : String :=
  Text.wrapped "ParserId" (Text.decimal i.value.toNat)

/-- A style sheet, and whether it is one of the document's own. -/
structure SheetRef where
  id : SheetId
  ofDocument : Bool
deriving DecidableEq, Inhabited

def SheetRef.inspect (s : SheetRef) : String :=
  Text.record "StyleSheetRef"
    [("id", s.id.inspect), ("is_document_sheet", Text.truth s.ofDocument)]

end ChangeNotice
