import Mathlib.Data.List.Forall2
import ChangeNotice.Proofs.EventText
import ChangeNotice.Proofs.JsonText

/-! # What is read as an event

An event may be written as an object or as an array. `Event.Spelled` says which
values spell an event, without saying how they are read: which members an object
has to have exactly once, and what they may be; all other members are free. A text
is read as an event exactly if it is that of a value which spells the event.
-/

namespace ChangeNotice

open Json

/-! ## Which values spell an event -/

/-- The object has exactly one member with the key, and that has the value. -/
def Json.Once (ms : List (String × Json)) (key : String) (v : Json) : Prop :=
  ∃ before after, ms = before ++ (key, v) :: after ∧ ∀ m ∈ before ++ after, m.1 ≠ key

/-- The values that spell a sheet. -/
inductive SheetRef.Spelled (s : SheetRef) : Json → Prop
  | object {ms : List (String × Json)} (hid : Once ms "id" (.natural s.id.value))
      (hown : Once ms "is_document_sheet" (.bool s.ofDocument)) : Spelled s (.object ms)
  | array : Spelled s (.array [.natural s.id.value, .bool s.ofDocument])

namespace Event

/-- What the fields of an event may be written as, in order. A number stands for the field that has
it as its value, so that it has to fit the field. -/
def fieldShapes : Event → List (Json → Prop)
  | beginUpdate m | endUpdate m => [(· = .natural m.bits.toUInt64)]
  | beginLoad | endLoad => []
  | contentStateChanged c s => [(· = .natural c.value), (· = .natural s.bits)]
  | documentStatesChanged s => [(· = .natural s.bits)]
  | styleSheetAdded s | styleSheetRemoved s | styleSheetApplicableStateChanged s
  | styleRuleChanged s | styleRuleAdded s | styleRuleRemoved s => [s.Spelled]
  | bindToDocument c => [(· = .natural c.value)]

/-- The values are those of the fields. -/
def HasFields (e : Event) (vs : List Json) : Prop :=
  List.Forall₂ (fun shape v => shape v) e.fieldShapes vs

/-- The values that spell an event: objects that have its tag and each of its fields exactly once,
and arrays of its tag and its fields in order. -/
inductive Spelled (e : Event) : Json → Prop
  | object {ms : List (String × Json)} {vs : List Json}
      (htag : Once ms "type" (.string e.kind.tag))
      (hmembers : List.Forall₂ (Once ms) e.kind.fields vs) (hfields : e.HasFields vs) :
      Spelled e (.object ms)
  | array {vs : List Json} (hfields : e.HasFields vs) :
      Spelled e (.array (.string e.kind.tag :: vs))

end Event

theorem Json.only?_eq_some_iff {ms : List (String × Json)} {key : String} {v : Json} :
    only? ms key = some v ↔ Once ms key v := by
  unfold only? Once
  constructor
  · intro h
    split at h
    next member hfound =>
      obtain ⟨before, after, rfl, hbefore, hkey, hafter⟩ := List.filter_eq_cons_iff.mp hfound
      obtain ⟨key', v'⟩ := member
      obtain rfl : key' = key := by simpa using hkey
      obtain rfl : v' = v := by simpa using h
      refine ⟨before, after, rfl, fun m hm => ?_⟩
      rcases List.mem_append.mp hm with hm | hm
      · simpa using hbefore m hm
      · simpa using List.filter_eq_nil_iff.mp hafter m hm
    next => cases h
  · rintro ⟨before, after, rfl, hothers⟩
    have hbefore : before.filter (·.1 == key) = [] :=
      List.filter_eq_nil_iff.mpr fun m hm => by simpa using hothers m (by simp [hm])
    have hafter : after.filter (·.1 == key) = [] :=
      List.filter_eq_nil_iff.mpr fun m hm => by simpa using hothers m (by simp [hm])
    simp [hbefore, hafter]

theorem UpdateMask.ofJson?_eq_some_iff {j : Json} {m : UpdateMask} :
    ofJson? j = some m ↔ j = .natural m.bits.toUInt64 := by
  constructor
  · intro h
    cases j with
    | natural n =>
        rw [ofJson?] at h
        split at h
        next hlt =>
          cases h
          have hsame : n.toUInt32.toUInt64 = n := by
            apply UInt64.toNat_inj.mp
            rw [UInt32.toNat_toUInt64, UInt64.toNat_toUInt32]
            exact Nat.mod_eq_of_lt hlt
          exact congrArg _ hsame.symm
        next => cases h
    | _ => cases h
  · rintro rfl
    exact ofJson?_toJson m

theorem StateMask.ofJson?_eq_some_iff {j : Json} {m : StateMask} :
    ofJson? j = some m ↔ j = .natural m.bits := by
  obtain ⟨bits⟩ := m
  cases j <;> simp [ofJson?]

theorem ContentId.ofJson?_eq_some_iff {j : Json} {i : ContentId} :
    ofJson? j = some i ↔ j = .natural i.value := by
  obtain ⟨value⟩ := i
  cases j <;> simp [ofJson?]

theorem SheetRef.ofValues?_eq_some_iff {vs : List Json} {s : SheetRef} :
    ofValues? vs = some s ↔ vs = [.natural s.id.value, .bool s.ofDocument] := by
  constructor
  · intro h
    unfold ofValues? at h
    split at h
    next id own =>
      cases id <;> cases own <;> simp [SheetId.ofJson?, truth?] at h
      rw [← h]
    next => cases h
  · rintro rfl
    rfl

theorem SheetRef.ofJson?_eq_some_iff {j : Json} {s : SheetRef} :
    ofJson? j = some s ↔ s.Spelled j := by
  constructor
  · intro h
    cases j with
    | object ms =>
        simp only [ofJson?, Option.bind_eq_bind, Option.bind_eq_some_iff, only?_eq_some_iff,
          ofValues?_eq_some_iff] at h
        obtain ⟨id, hid, own, hown, hvalues⟩ := h
        obtain ⟨rfl, rfl⟩ : id = .natural s.id.value ∧ own = .bool s.ofDocument := by
          simpa using hvalues
        exact .object hid hown
    | array es =>
        obtain rfl := ofValues?_eq_some_iff.mp h
        exact .array
    | _ => cases h
  · intro h
    cases h with
    | object hid hown =>
        rw [ofJson?, only?_eq_some_iff.mpr hid, only?_eq_some_iff.mpr hown]
        rfl
    | array => rfl

theorem Kind.tag_of_ofEventTag? {tag : String} {kind : Kind} (h : ofEventTag? tag = some kind) :
    kind.tag = tag := by
  unfold ofEventTag? at h
  split at h
  next => cases h
  next => simpa using List.find?_some h

namespace Event

theorem ofValues?_eq_some_iff {kind : Kind} {vs : List Json} {e : Event} :
    ofValues? kind vs = some e ↔ e.kind = kind ∧ e.HasFields vs := by
  constructor
  · intro h
    unfold ofValues? at h
    split at h
    case h_3 =>
      cases h
      exact ⟨rfl, .nil⟩
    case h_4 =>
      cases h
      exact ⟨rfl, .nil⟩
    case h_5 =>
      simp only [Option.bind_eq_bind, Option.bind_eq_some_iff, ContentId.ofJson?_eq_some_iff,
        StateMask.ofJson?_eq_some_iff, Option.some.injEq] at h
      obtain ⟨c, hc, s, hs, rfl⟩ := h
      exact ⟨rfl, .cons hc (.cons hs .nil)⟩
    case h_14 => cases h
    all_goals
      simp only [Option.map_eq_some_iff, UpdateMask.ofJson?_eq_some_iff,
        StateMask.ofJson?_eq_some_iff, ContentId.ofJson?_eq_some_iff,
        SheetRef.ofJson?_eq_some_iff] at h
      obtain ⟨field, hfield, rfl⟩ := h
      exact ⟨rfl, .cons hfield .nil⟩
  · rintro ⟨rfl, hfields⟩
    unfold HasFields at hfields
    cases e <;> simp only [fieldShapes, List.forall₂_cons_left_iff, List.forall₂_nil_left_iff]
      at hfields
    case beginLoad =>
      subst hfields
      rfl
    case endLoad =>
      subst hfields
      rfl
    case contentStateChanged c s =>
      obtain ⟨_, _, rfl, ⟨_, _, rfl, rfl, rfl⟩, rfl⟩ := hfields
      rfl
    all_goals
      obtain ⟨v, _, hv, rfl, rfl⟩ := hfields
      rw [kind, ofValues?]
      simp only [← UpdateMask.ofJson?_eq_some_iff, ← StateMask.ofJson?_eq_some_iff,
        ← ContentId.ofJson?_eq_some_iff, ← SheetRef.ofJson?_eq_some_iff] at hv
      rw [hv]
      rfl

theorem mapM_only?_eq_some_iff {ms : List (String × Json)} {keys : List String} {vs : List Json} :
    keys.mapM (only? ms) = some vs ↔ List.Forall₂ (Once ms) keys vs := by
  induction keys generalizing vs with
  | nil => simp [eq_comm]
  | cons key keys ih =>
      simp only [List.mapM_cons, Option.bind_eq_bind, Option.bind_eq_some_iff, Option.pure_def,
        Option.some.injEq, only?_eq_some_iff, ih, List.forall₂_cons_left_iff]
      constructor
      · rintro ⟨v, hv, vs, hvs, rfl⟩
        exact ⟨v, vs, hv, hvs, rfl⟩
      · rintro ⟨v, vs, hv, hvs, rfl⟩
        exact ⟨v, hv, vs, hvs, rfl⟩

theorem tagOf?_eq_some_iff {j : Json} {e : Event} :
    tagOf? j = some e.kind ↔ j = .string e.kind.tag := by
  constructor
  · intro h
    cases j with
    | string tag => rw [Kind.tag_of_ofEventTag? h]
    | _ => cases h
  · rintro rfl
    exact Kind.ofEventTag?_tag e.kind_ne_script

/-- The value that stands for an event is the value that spells it. -/
theorem ofJson?_eq_some_iff {j : Json} {e : Event} : ofJson? j = some e ↔ e.Spelled j := by
  constructor
  · intro h
    cases j with
    | object ms =>
        rw [ofJson?_object] at h
        obtain ⟨tag, htag, h⟩ := Option.bind_eq_some_iff.mp h
        obtain ⟨kind, hkind, h⟩ := Option.bind_eq_some_iff.mp h
        obtain ⟨vs, hvs, hvalues⟩ := Option.bind_eq_some_iff.mp h
        obtain ⟨rfl, hfields⟩ := ofValues?_eq_some_iff.mp hvalues
        obtain rfl := tagOf?_eq_some_iff.mp hkind
        exact .object (only?_eq_some_iff.mp htag) (mapM_only?_eq_some_iff.mp hvs) hfields
    | array es =>
        cases es with
        | nil => cases h
        | cons tag vs =>
            rw [ofJson?_array_cons] at h
            obtain ⟨kind, hkind, hvalues⟩ := Option.bind_eq_some_iff.mp h
            obtain ⟨rfl, hfields⟩ := ofValues?_eq_some_iff.mp hvalues
            obtain rfl := tagOf?_eq_some_iff.mp hkind
            exact .array hfields
    | _ => cases h
  · intro h
    cases h with
    | object htag hmembers hfields =>
        rw [ofJson?_object, only?_eq_some_iff.mpr htag, Option.bind_some,
          tagOf?_eq_some_iff.mpr rfl, Option.bind_some, ofMembers?,
          mapM_only?_eq_some_iff.mpr hmembers]
        exact ofValues?_eq_some_iff.mpr ⟨rfl, hfields⟩
    | array hfields =>
        rw [ofJson?_array_cons, tagOf?_eq_some_iff.mpr rfl]
        exact ofValues?_eq_some_iff.mpr ⟨rfl, hfields⟩

theorem Spelled.unique {j : Json} {e e' : Event} (h : e.Spelled j) (h' : e'.Spelled j) :
    e = e' := by
  rw [← ofJson?_eq_some_iff] at h h'
  rw [h] at h'
  exact Option.some.inj h'

/-- Whether an object spells an event depends on the tag and the fields of the event alone. -/
theorem spelled_congr {ms ms' : List (String × Json)} {e : Event}
    (h : ∀ key ∈ "type" :: e.kind.fields,
      (ms.filter (·.1 == key)).Perm (ms'.filter (·.1 == key))) (hms : e.Spelled (.object ms)) :
    e.Spelled (.object ms') := by
  have honce : ∀ key ∈ "type" :: e.kind.fields, ∀ v, Once ms key v → Once ms' key v := by
    intro key hkey v hv
    rw [← only?_eq_some_iff, only?] at hv ⊢
    split at hv
    next m hfound =>
      have hperm := h key hkey
      rw [hfound] at hperm
      rw [← List.singleton_perm.mp hperm]
      exact hv
    next => cases hv
  obtain ⟨htag, hfields⟩ := List.forall_mem_cons.mp honce
  cases hms with
  | @object _ vs hms hmembers hvalues =>
      obtain ⟨hlength, hzip⟩ := List.forall₂_iff_zip.mp hmembers
      refine .object (htag _ hms) (List.forall₂_iff_zip.mpr ⟨hlength, fun hmem => ?_⟩) hvalues
      exact hfields _ (List.of_mem_zip hmem).1 _ (hzip hmem)

theorem HasFields.length_eq {e : Event} {vs : List Json} (h : e.HasFields vs) :
    vs.length = e.kind.fields.length := by
  have hshapes : e.fieldShapes.length = e.kind.fields.length := by
    cases e <;> rfl
  rw [← hshapes, List.Forall₂.length_eq h]

theorem ofMembers?_zip (kind : Kind) (tag : Json) {vs : List Json}
    (hlength : vs.length = kind.fields.length) :
    ofMembers? kind (("type", tag) :: kind.fields.zip vs) = ofValues? kind vs := by
  cases kind
  case beginLoad | endLoad | attemptToExecuteScript =>
    obtain rfl := List.length_eq_zero_iff.mp hlength
    rfl
  case contentStateChanged =>
    obtain ⟨c, s, rfl⟩ := List.length_eq_two.mp hlength
    simp [ofMembers?, Kind.fields, only?]
  all_goals
    obtain ⟨v, rfl⟩ := List.length_eq_one_iff.mp hlength
    simp [ofMembers?, Kind.fields, only?]

/-- Written as an array, an event has the same fields as written as an object. -/
theorem spelled_array_iff {e : Event} {vs : List Json} :
    e.Spelled (.array (.string e.kind.tag :: vs)) ↔
      vs.length = e.kind.fields.length ∧
        e.Spelled (.object (("type", .string e.kind.tag) :: e.kind.fields.zip vs)) := by
  have htags : ∀ vs : List Json,
      typeTags (("type", .string e.kind.tag) :: e.kind.fields.zip vs) = [some e.kind] := by
    intro vs
    have hother : (e.kind.fields.zip vs).filter (·.1 == "type") = [] := by
      apply List.filter_eq_nil_iff.mpr
      intro m hm heq
      have hkey : m.1 = "type" := by simpa using heq
      exact e.kind.type_notMem_fields (hkey ▸ (List.of_mem_zip hm).1)
    rw [typeTags_cons_type, typeTags, hother, tagOf?_eq_some_iff.mpr rfl]
    rfl
  rw [← ofJson?_eq_some_iff, ← ofJson?_eq_some_iff, ofJson?_array_cons, tagOf?_eq_some_iff.mpr rfl,
    Option.bind_some, ofJson?_tagged (htags vs)]
  constructor
  · intro h
    have hlength := (ofValues?_eq_some_iff.mp h).2.length_eq
    refine ⟨hlength, ?_⟩
    rw [ofMembers?_zip _ _ hlength]
    exact h
  · rintro ⟨hlength, h⟩
    rwa [ofMembers?_zip _ _ hlength] at h

/-- A text is read as an event exactly if it is that of a value which spells the event; another
value is refused for what it is. So every written value is read as what it spells. It is by the tag
and the fields of the event that an object spells it, not by their order nor by other members,
however often these occur; and an array of the tag and the fields spells what they spell in an
object. No value spells two events. -/
theorem reading_exact :
    (∀ t e, ofText t = .ok e ↔ ∃ j, Json.ofText t = .ok j ∧ e.Spelled j) ∧
    (∀ t j, Json.ofText t = .ok j → (∀ e : Event, ¬e.Spelled j) → ofText t = .error .mismatch) ∧
    (∀ j, Fits nestingLimit j → ∀ e, ofText j.text = .ok e ↔ e.Spelled j) ∧
    (∀ (e : Event) ms ms', (∀ key ∈ "type" :: e.kind.fields,
        (ms.filter (·.1 == key)).Perm (ms'.filter (·.1 == key))) →
      (e.Spelled (.object ms) ↔ e.Spelled (.object ms'))) ∧
    (∀ (e : Event) vs, e.Spelled (.array (.string e.kind.tag :: vs)) ↔
      vs.length = e.kind.fields.length ∧
        e.Spelled (.object (("type", .string e.kind.tag) :: e.kind.fields.zip vs))) ∧
    ∀ (e e' : Event) j, e.Spelled j → e'.Spelled j → e = e' := by
  have htext : ∀ t e, ofText t = .ok e ↔ ∃ j, Json.ofText t = .ok j ∧ e.Spelled j := by
    intro t e
    obtain ⟨hvalue, hevent⟩ := readAll_follows (read_follows nestingLimit t.toList)
    constructor
    · intro h
      obtain ⟨j, hj, hspelled⟩ := hevent e h
      exact ⟨j, hj, ofJson?_eq_some_iff.mp hspelled⟩
    · rintro ⟨j, hj, hspelled⟩
      rw [← ofJson?_eq_some_iff] at hspelled
      rcases hvalue j hj with ⟨e', he', hspelled'⟩ | ⟨-, hnone⟩
      · rw [hspelled, Option.some.injEq] at hspelled'
        rw [hspelled']
        exact he'
      · rw [hspelled] at hnone
        cases hnone
  refine ⟨htext, ?_, ?_, ?_, fun e vs => spelled_array_iff, fun e e' j h h' => h.unique h'⟩
  · intro t j hj halien
    rcases (readAll_follows (read_follows nestingLimit t.toList)).1 j hj with
      ⟨e, -, hspelled⟩ | ⟨hmismatch, -⟩
    · exact absurd (ofJson?_eq_some_iff.mp hspelled) (halien e)
    · exact hmismatch
  · intro j hfits e
    rw [htext, ofText_text hfits]
    simp
  · intro e ms ms' h
    exact ⟨spelled_congr h, spelled_congr fun key hkey => (h key hkey).symm⟩

end Event

/-- The tag comes last, and what is not a field of the event comes twice. -/
def disordered : List (String × Json) :=
  [("sheet", .null), ("changed", .natural 9), ("sheet", .array [.bool true, .object []]),
    ("content", .natural 4), ("type", .string "content_state_changed")]

/-- What the object spells is read from its text, and the array spells it too. -/
theorem reading_exact_disordered :
    Fits nestingLimit (.object disordered) ∧
    Event.ofText (Json.object disordered).text = .ok (.contentStateChanged ⟨4⟩ ⟨9⟩) ∧
    (Event.contentStateChanged ⟨4⟩ ⟨9⟩).Spelled
      (.array [.string "content_state_changed", .natural 4, .natural 9]) := by
  have hfits : Fits nestingLimit (.object disordered) := by
    apply Fits.object
    simp only [disordered, List.forall_mem_cons]
    refine ⟨.null, .natural 9, .array ?_, .natural 4, .string _, by simp⟩
    simp only [List.forall_mem_cons]
    exact ⟨.bool true, .object (by simp), by simp⟩
  have hspelled : (Event.contentStateChanged ⟨4⟩ ⟨9⟩).Spelled (.object disordered) :=
    Event.ofJson?_eq_some_iff.mp rfl
  obtain ⟨-, -, hwritten, hmembers, harray, -⟩ := Event.reading_exact
  refine ⟨hfits, (hwritten _ hfits _).mpr hspelled, (harray _ [_, _]).mpr ⟨rfl, ?_⟩⟩
  refine (hmembers _ disordered _ ?_).mp hspelled
  simp only [List.forall_mem_cons, Event.kind, Kind.fields]
  exact ⟨.refl _, .refl _, .refl _, by simp⟩

end ChangeNotice
