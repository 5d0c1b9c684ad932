import ChangeNotice.Proofs.JsonText
import ChangeNotice.Sink

/-! # Identifiers, masks, sheets, events and records are read back

Every value that has a written form is read back from the text that is written for
it. A text may be written in other ways than ours, but the value that is read from
it is written in our way afterwards and read back from that.
-/

namespace ChangeNotice

open Json

variable {rest : List Char} {room : Nat}

/-! ## Identifiers and masks -/

theorem Json.readWrapped_chars {α : Type} {limit : Nat} {wrap : UInt64 → α} {n : UInt64}
    (hn : n.toNat < limit) (hrest : EndsNumber rest) :
    readWrapped limit wrap ((natural n).chars ++ rest) = .ok (wrap n, rest) := by
  rw [readWrapped, readNatural_chars n hn hrest]
  rfl

theorem UpdateMask.toNat_bits_lt (m : UpdateMask) : m.bits.toUInt64.toNat < UInt32.size := by
  rw [UInt32.toNat_toUInt64]
  exact m.bits.toNat_lt

theorem UpdateMask.read_chars (m : UpdateMask) (hrest : EndsNumber rest) :
    UpdateMask.read (m.toJson.chars ++ rest) = .ok (m, rest) := by
  rw [UpdateMask.read, UpdateMask.toJson, readWrapped_chars m.toNat_bits_lt hrest,
    UInt32.toUInt32_toUInt64]

@[simp]
theorem UpdateMask.ofJson?_toJson (m : UpdateMask) : ofJson? m.toJson = some m := by
  rw [toJson, ofJson?, if_pos m.toNat_bits_lt, UInt32.toUInt32_toUInt64]

@[simp]
theorem StateMask.ofJson?_toJson (m : StateMask) : ofJson? m.toJson = some m := rfl

@[simp]
theorem ContentId.ofJson?_toJson (i : ContentId) : ofJson? i.toJson = some i := rfl

@[simp]
theorem SheetId.ofJson?_toJson (i : SheetId) : ofJson? i.toJson = some i := rfl

theorem StateMask.read_chars (m : StateMask) (hrest : EndsNumber rest) :
    StateMask.read (m.toJson.chars ++ rest) = .ok (m, rest) :=
  readWrapped_chars m.bits.toNat_lt hrest

theorem DocumentId.read_chars (i : DocumentId) (hrest : EndsNumber rest) :
    DocumentId.read (i.toJson.chars ++ rest) = .ok (i, rest) :=
  readWrapped_chars i.value.toNat_lt hrest

theorem ContentId.read_chars (i : ContentId) (hrest : EndsNumber rest) :
    ContentId.read (i.toJson.chars ++ rest) = .ok (i, rest) :=
  readWrapped_chars i.value.toNat_lt hrest

theorem SheetId.read_chars (i : SheetId) (hrest : EndsNumber rest) :
    SheetId.read (i.toJson.chars ++ rest) = .ok (i, rest) :=
  readWrapped_chars i.value.toNat_lt hrest

theorem ParserId.read_chars (i : ParserId) (hrest : EndsNumber rest) :
    ParserId.read (i.toJson.chars ++ rest) = .ok (i, rest) :=
  readWrapped_chars i.value.toNat_lt hrest

/-! ## Sheets -/

namespace SheetRef

theorem gathers (s : SheetRef) :
    Gathers readMember (none, none)
      [("id", s.id.toJson), ("is_document_sheet", .bool s.ofDocument)]
      (some s.id, some s.ofDocument) := by
  refine .cons (t := (some s.id, none)) (fun rest hrest => ?_)
    (.cons (fun rest hrest => ?_) .nil)
  · rw [readMember, if_pos rfl, if_neg (by decide), List.cons_append, readColon_cons]
    show (SheetId.read _ >>= _) = _
    rw [SheetId.read_chars _ hrest]
    rfl
  · rw [readMember, if_neg (by decide), if_pos rfl, if_neg (by simp), List.cons_append,
      readColon_cons]
    show (readBool _ >>= _) = _
    rw [readBool_chars]
    rfl

theorem read_chars (s : SheetRef) :
    read (room + 1) (s.toJson.chars ++ rest) = .ok (s, rest) := by
  have hlength := length_le_memberChars true
    [("id", s.id.toJson), ("is_document_sheet", .bool s.ofDocument)]
  rw [toJson, object_chars_append, read, skipBlanks_cons (by decide)]
  show (foldMembers _ _ _ _ _ >>= _) = _
  rw [foldMembers_memberChars s.gathers true (by rw [List.length_append]; omega)]
  rfl

theorem fits (s : SheetRef) : Fits (room + 1) s.toJson := by
  refine .object ?_
  intro m hm
  simp only [List.mem_cons, List.not_mem_nil, or_false] at hm
  rcases hm with rfl | rfl
  · exact .natural _
  · exact .bool _

@[simp]
theorem ofJson?_toJson (s : SheetRef) : ofJson? s.toJson = some s := by
  simp [toJson, ofJson?, only?, ofValues?, truth?]

end SheetRef

/-! ## Events -/

namespace Kind

theorem ofEventTag?_tag {k : Kind} (hk : k ≠ attemptToExecuteScript) :
    ofEventTag? k.tag = some k := by
  cases k <;> first | decide | exact absurd rfl hk

theorem type_notMem_fields (k : Kind) : "type" ∉ k.fields := by
  cases k <;> decide

end Kind

namespace Event

theorem kind_ne_script (e : Event) : e.kind ≠ .attemptToExecuteScript := by
  cases e <;> simp [kind]

theorem fits_values (e : Event) : ∀ v ∈ e.values, Fits (room + 1) v := by
  intro v hv
  cases e <;> simp only [values, List.mem_cons, List.not_mem_nil, or_false] at hv
  all_goals
    first
    | rcases hv with rfl | rfl <;> exact .natural _
    | subst hv
      first
      | exact .natural _
      | exact SheetRef.fits _

/-- The fields are kept as they stand, the last one first. -/
theorem gathers_fields {kind : Option Kind} {ms : List (String × Json)}
    (hkeys : ∀ m ∈ ms, m.1 ≠ "type") (hfits : ∀ m ∈ ms, Fits room m.2)
    (acc : List (String × Json)) :
    Gathers (readMember room) (kind, acc) ms (kind, ms.reverse ++ acc) := by
  induction ms generalizing acc with
  | nil => exact .nil
  | cons m ms ih =>
    rw [List.reverse_cons, List.append_assoc, List.singleton_append]
    refine .cons (fun rest hrest => ?_)
      (ih (fun m hm => hkeys m (List.mem_cons_of_mem _ hm))
        (fun m hm => hfits m (List.mem_cons_of_mem _ hm)) _)
    rw [readMember, if_neg (hkeys m List.mem_cons_self), List.cons_append, readColon_cons]
    show (readValue room _ >>= _) = _
    rw [readValue_chars (hfits m List.mem_cons_self) hrest]
    rfl

theorem gathers (e : Event) :
    Gathers (readMember (room + 1)) (none, [])
      (("type", .string e.kind.tag) :: e.kind.fields.zip e.values)
      (some e.kind, (e.kind.fields.zip e.values).reverse) := by
  rw [← List.append_nil (List.reverse _)]
  refine .cons (t := (some e.kind, [])) (fun rest _ => ?_)
    (gathers_fields (fun m hm heq => ?_) (fun m hm => ?_) [])
  · rw [readMember, if_pos rfl, if_neg (by decide), List.cons_append, readColon_cons]
    show ((readText (quoted e.kind.tag ++ rest) >>= _) >>= _) = _
    rw [readText_quoted]
    dsimp only [bind, Except.bind]
    rw [Kind.ofEventTag?_tag e.kind_ne_script]
  · exact e.kind.type_notMem_fields (heq ▸ (List.of_mem_zip hm).1)
  · exact e.fits_values m.2 (List.of_mem_zip hm).2

theorem ofMembers?_values (e : Event) :
    ofMembers? e.kind (e.kind.fields.zip e.values) = some e := by
  cases e <;> simp [ofMembers?, kind, Kind.fields, values, only?, ofValues?]

theorem read_chars (e : Event) :
    read (room + 2) (e.toJson.chars ++ rest) = .ok (e, rest) := by
  have hlength := length_le_memberChars true
    (("type", .string e.kind.tag) :: e.kind.fields.zip e.values)
  rw [toJson, object_chars_append, read, skipBlanks_cons (by decide)]
  show (foldMembers _ _ _ _ _ >>= _) = _
  rw [foldMembers_memberChars e.gathers true (by rw [List.length_append]; omega)]
  show accept (ofMembers? e.kind (List.reverse _).reverse) rest = _
  rw [List.reverse_reverse, ofMembers?_values]
  rfl

end Event

/-! ## Records -/

namespace Recorded

theorem gathers (r : Recorded) :
    Gathers (readMember (room + 2)) {}
      [("document", r.document.toJson), ("position", .natural r.position),
        ("event", r.event.toJson)]
      ⟨some r.document, some r.position, some r.event⟩ := by
  refine .cons (t := ⟨some r.document, none, none⟩) (fun rest hrest => ?_)
    (.cons (t := ⟨some r.document, some r.position, none⟩) (fun rest hrest => ?_)
      (.cons (fun rest _ => ?_) .nil))
  · rw [readMember, if_pos rfl, if_neg (by decide), List.cons_append, readColon_cons]
    show (DocumentId.read _ >>= _) = _
    rw [DocumentId.read_chars _ hrest]
    rfl
  · rw [readMember, if_neg (by decide), if_pos rfl, if_neg (by simp), List.cons_append,
      readColon_cons]
    show (readNatural wordLimit _ >>= _) = _
    rw [readNatural_chars _ (show r.position.toNat < wordLimit from r.position.toNat_lt) hrest]
    rfl
  · rw [readMember, if_neg (by decide), if_neg (by decide), if_pos rfl, if_neg (by simp),
      List.cons_append, readColon_cons]
    show (Event.read (room + 2) _ >>= _) = _
    rw [Event.read_chars]
    rfl

theorem read_chars (r : Recorded) :
    read (room + 3) (r.toJson.chars ++ rest) = .ok (r, rest) := by
  have hlength := length_le_memberChars true
    [("document", r.document.toJson), ("position", .natural r.position),
      ("event", r.event.toJson)]
  rw [toJson, object_chars_append, read, skipBlanks_cons (by decide)]
  show (foldMembers _ _ _ _ _ >>= _) = _
  rw [foldMembers_memberChars r.gathers true (by rw [List.length_append]; omega)]
  rfl

end Recorded

/-! ## Whole texts -/

/-- Values are read back from their texts, whichever text they were first read from, and no two
values have one text. -/
structure RoundTrips {α : Type} (text : α → String) (ofText : String → Except ReadError α) :
    Prop where
  back : ∀ v, ofText (text v) = .ok v
  again : ∀ t v, ofText t = .ok v → ofText (text v) = .ok v
  distinct : ∀ v v', v ≠ v' → text v ≠ text v'

theorem RoundTrips.of_back {α : Type} {text : α → String} {ofText : String → Except ReadError α}
    (hback : ∀ v, ofText (text v) = .ok v) : RoundTrips text ofText where
  back := hback
  again _ v _ := hback v
  distinct v v' hne htext := by
    have h := hback v
    rw [htext, hback v'] at h
    exact hne (Except.ok.inj h).symm

/-- The written forms of all values round-trip. -/
theorem written_forms_round_trip :
    RoundTrips Event.text Event.ofText ∧ RoundTrips Recorded.text Recorded.ofText ∧
      RoundTrips SheetRef.text SheetRef.ofText ∧
      RoundTrips (fun i : DocumentId => i.toJson.text) DocumentId.ofText ∧
      RoundTrips ContentId.text ContentId.ofText ∧ RoundTrips SheetId.text SheetId.ofText ∧
      RoundTrips ParserId.text ParserId.ofText ∧ RoundTrips UpdateMask.text UpdateMask.ofText ∧
      RoundTrips StateMask.text StateMask.ofText :=
  ⟨.of_back fun e => readAll_text fun _ _ => e.read_chars,
    .of_back fun r => readAll_text fun _ _ => r.read_chars,
    .of_back fun s => readAll_text fun _ _ => s.read_chars,
    .of_back fun i => readAll_text fun _ => i.read_chars,
    .of_back fun i => readAll_text fun _ => i.read_chars,
    .of_back fun i => readAll_text fun _ => i.read_chars,
    .of_back fun i => readAll_text fun _ => i.read_chars,
    .of_back fun m => readAll_text fun _ => m.read_chars,
    .of_back fun m => readAll_text fun _ => m.read_chars⟩

end ChangeNotice
