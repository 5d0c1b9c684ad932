import ChangeNotice.Document
import ChangeNotice.Proofs.MaskLaws
import Mathlib.Data.List.Basic

/-! # Masks are told apart by their texts

The text of an update mask lists the names of its bits and then, as one hexadecimal number,
the bits that have no name. The parts of the list hold no blank, so they can be told from the
text; a name is no hexadecimal number, and hexadecimal numbers have one spelling each. So two
masks with the same text are the same, and so are those that two messages name in the same
words.
-/

namespace ChangeNotice

namespace Text

/-! ## Hexadecimal numbers -/

theorem digitChar_inj : ∀ a < 16, ∀ b < 16, Nat.digitChar a = Nat.digitChar b → a = b := by decide

theorem toDigits_inj {n m : Nat} (h : Nat.toDigits 16 n = Nat.toDigits 16 m) : n = m := by
  induction n using Nat.strongRecOn generalizing m with
  | ind n ih =>
      have hdigits : ∀ k, Nat.toDigits 16 k =
          if k < 16 then [k.digitChar] else Nat.toDigits 16 (k / 16) ++ [(k % 16).digitChar] :=
        fun k => Nat.toDigits_eq_if (by decide)
      rw [hdigits n, hdigits m] at h
      split_ifs at h with hn hm hm
      · exact digitChar_inj n hn m hm (List.singleton_inj.mp h)
      · -- a single digit is not a longer number
        have hlength := congrArg List.length h
        simp [Nat.toDigits_ne_nil] at hlength
      · have hlength := congrArg List.length h
        simp [Nat.toDigits_ne_nil] at hlength
      · obtain ⟨hfront, hlast⟩ := List.append_inj' h rfl
        have hquotient : n / 16 = m / 16 := ih (n / 16) (by omega) hfront
        have hrest : n % 16 = m % 16 :=
          digitChar_inj _ (by omega) _ (by omega) (List.singleton_inj.mp hlast)
        omega

theorem hex_inj {n m : Nat} : hex n = hex m ↔ n = m := by
  constructor
  · intro h
    have hdigits := (String.append_right_inj _).mp h
    exact toDigits_inj (String.ofList_injective hdigits)
  · rintro rfl
    rfl

theorem toList_hex (n : Nat) : (hex n).toList = '0' :: 'x' :: Nat.toDigits 16 n := by
  simp [hex]

theorem blank_notMem_toDigits (n : Nat) : ' ' ∉ Nat.toDigits 16 n := by
  induction n using Nat.strongRecOn with
  | ind n ih =>
      rw [Nat.toDigits_eq_if (by decide)]
      split_ifs with hn
      · simp
      · rw [List.mem_append, not_or]
        exact ⟨ih (n / 16) (by omega), by simp⟩

/-! ## Lists of parts -/

section

variable {c : Char} {sep part : List Char} {parts parts' : List (List Char)}

theorem intercalate_eq_append (sep part : List Char) (parts : List (List Char)) :
    sep.intercalate (part :: parts) =
      part ++ if parts = [] then [] else sep ++ sep.intercalate parts := by
  cases parts with
  | nil => simp
  | cons next rest => simp

/-- The first part goes on until the separator begins. -/
theorem takeWhile_intercalate (sep : List Char) (parts : List (List Char)) (hpart : c ∉ part) :
    ((c :: sep).intercalate (part :: parts)).takeWhile (· ≠ c) = part := by
  have hall : ∀ x ∈ part, decide (x ≠ c) = true := by
    intro x hx
    exact decide_eq_true fun heq => hpart (heq ▸ hx)
  rw [intercalate_eq_append, List.takeWhile_append_of_pos hall]
  split_ifs <;> simp

/-- Parts that do not hold the first character of the separator can be told from the text. -/
theorem intercalate_inj (hparts : ∀ part ∈ parts, c ∉ part) (hparts' : ∀ part ∈ parts', c ∉ part)
    (hne : parts ≠ []) (hne' : parts' ≠ [])
    (h : (c :: sep).intercalate parts = (c :: sep).intercalate parts') : parts = parts' := by
  induction parts generalizing parts' with
  | nil => exact absurd rfl hne
  | cons part rest ih =>
      cases parts' with
      | nil => exact absurd rfl hne'
      | cons part' rest' =>
          obtain ⟨hpart, hrest⟩ := List.forall_mem_cons.mp hparts
          obtain ⟨hpart', hrest'⟩ := List.forall_mem_cons.mp hparts'
          obtain rfl : part = part' := by
            rw [← takeWhile_intercalate sep rest hpart, h, takeWhile_intercalate sep rest' hpart']
          rw [intercalate_eq_append, intercalate_eq_append, List.append_right_inj] at h
          split_ifs at h with hnil hnil' hnil'
          · rw [hnil, hnil']
          · simp at h
          · simp at h
          · rw [ih hrest hrest' hnil hnil' ((List.append_right_inj _).mp h)]

end

theorem wrapped_inj {name s s' : String} : wrapped name s = wrapped name s' ↔ s = s' := by
  rw [wrapped, wrapped, String.append_left_inj, String.append_right_inj]

end Text

namespace UpdateMask

variable {a b : UpdateMask}

/-! ## The parts of a mask -/

/-- The parts as they are shown; where there are none, a word stands for that. -/
def shown (a : UpdateMask) : List String := if a.parts.isEmpty then ["NONE"] else a.parts

theorem inspect_eq (a : UpdateMask) :
    a.inspect = Text.wrapped "UpdateType" (" | ".intercalate a.shown) := by
  unfold inspect shown
  split_ifs <;> simp

theorem shown_ne_nil (a : UpdateMask) : a.shown ≠ [] := by
  unfold shown
  split_ifs with hempty
  · simp
  · simpa using hempty

theorem mem_parts {text : String} (a : UpdateMask) : text ∈ a.parts ↔
    a.contains contentModel = true ∧ text = "CONTENT_MODEL" ∨
    a.contains style = true ∧ text = "STYLE" ∨
    a.unnamed ≠ 0 ∧ text = Text.hex a.unnamed.toNat := by
  have hnames : text ∈ (names.filter fun entry => a.contains entry.1).map (·.2) ↔
      a.contains contentModel = true ∧ text = "CONTENT_MODEL" ∨
      a.contains style = true ∧ text = "STYLE" := by
    simp only [names, List.mem_map, List.mem_filter, List.mem_cons, List.not_mem_nil, or_false]
    constructor
    · rintro ⟨entry, ⟨rfl | rfl, hcontains⟩, rfl⟩
      · exact .inl ⟨hcontains, rfl⟩
      · exact .inr ⟨hcontains, rfl⟩
    · rintro (⟨hcontains, rfl⟩ | ⟨hcontains, rfl⟩)
      · exact ⟨_, ⟨.inl rfl, hcontains⟩, rfl⟩
      · exact ⟨_, ⟨.inr rfl, hcontains⟩, rfl⟩
  rw [parts, List.mem_append, hnames, or_assoc]
  by_cases hzero : a.unnamed = 0 <;> simp [hzero]

/-- No part holds a blank, and neither does the word that stands for none. -/
theorem blank_notMem_shown {text : String} (h : text ∈ a.shown) : ' ' ∉ text.toList := by
  unfold shown at h
  split_ifs at h
  · rw [List.mem_singleton.mp h]
    decide
  · rcases (mem_parts a).mp h with ⟨-, rfl⟩ | ⟨-, rfl⟩ | ⟨-, rfl⟩
    · decide
    · decide
    · simp [Text.toList_hex, Text.blank_notMem_toDigits]

theorem shown_inj (h : a.inspect = b.inspect) : a.shown = b.shown := by
  rw [inspect_eq, inspect_eq, Text.wrapped_inj] at h
  have hchars := congrArg String.toList h
  rw [String.toList_intercalate, String.toList_intercalate] at hchars
  have hblank : ∀ c : UpdateMask, ∀ part ∈ c.shown.map String.toList, ' ' ∉ part := by
    intro c part hpart
    obtain ⟨text, htext, rfl⟩ := List.mem_map.mp hpart
    exact blank_notMem_shown htext
  have hne : ∀ c : UpdateMask, c.shown.map String.toList ≠ [] := by
    intro c
    simpa using c.shown_ne_nil
  have hparts := Text.intercalate_inj (hblank a) (hblank b) (hne a) (hne b) hchars
  exact (List.map_inj_right fun _ _ => String.toList_inj.mp).mp hparts

/-- The word for no parts is none of the parts. -/
theorem mem_parts_iff_mem_shown {text : String} (htext : text ≠ "NONE") :
    text ∈ a.parts ↔ text ∈ a.shown := by
  unfold shown
  split_ifs with hempty
  · rw [List.isEmpty_iff.mp hempty]
    simp [htext]
  · rfl

/-- No hexadecimal number is a word. -/
theorem hex_ne {n : Nat} {word : String} (hword : word.toList.head? ≠ some '0') :
    Text.hex n ≠ word := by
  rintro rfl
  simp [Text.toList_hex] at hword

theorem contentModel_mem_parts : "CONTENT_MODEL" ∈ a.parts ↔ a.contains contentModel = true := by
  rw [mem_parts]
  have hhex : Text.hex a.unnamed.toNat ≠ "CONTENT_MODEL" := hex_ne (by decide)
  simp [Ne.symm hhex]

theorem style_mem_parts : "STYLE" ∈ a.parts ↔ a.contains style = true := by
  rw [mem_parts]
  have hhex : Text.hex a.unnamed.toNat ≠ "STYLE" := hex_ne (by decide)
  simp [Ne.symm hhex]

theorem hex_mem_parts {n : Nat} :
    Text.hex n ∈ a.parts ↔ a.unnamed ≠ 0 ∧ n = a.unnamed.toNat := by
  rw [mem_parts, Text.hex_inj]
  have hmodel : Text.hex n ≠ "CONTENT_MODEL" := hex_ne (by decide)
  have hstyle : Text.hex n ≠ "STYLE" := hex_ne (by decide)
  simp [hmodel, hstyle]

/-- The bits without a name are those of the hexadecimal number, if there is one. -/
theorem unnamed_eq_of_parts (h : ∀ n, Text.hex n ∈ a.parts ↔ Text.hex n ∈ b.parts) :
    a.unnamed = b.unnamed := by
  by_cases ha : a.unnamed = 0
  · by_contra hne
    have hmem := (h _).mpr (hex_mem_parts.mpr ⟨fun hb => hne (ha.trans hb.symm), rfl⟩)
    exact (hex_mem_parts.mp hmem).1 ha
  · have hmem := (h _).mp (hex_mem_parts.mpr ⟨ha, rfl⟩)
    exact UInt32.toNat_inj.mp (hex_mem_parts.mp hmem).2

theorem inspect_inj : a.inspect = b.inspect ↔ a = b := by
  constructor
  · intro h
    have hshown := shown_inj h
    have hparts : ∀ text, text ≠ "NONE" → (text ∈ a.parts ↔ text ∈ b.parts) := by
      intro text htext
      rw [mem_parts_iff_mem_shown htext, mem_parts_iff_mem_shown htext, hshown]
    have hmodel : a.contains contentModel = b.contains contentModel := by
      rw [Bool.eq_iff_iff, ← contentModel_mem_parts, ← contentModel_mem_parts]
      exact hparts _ (by decide)
    have hstyle : a.contains style = b.contains style := by
      rw [Bool.eq_iff_iff, ← style_mem_parts, ← style_mem_parts]
      exact hparts _ (by decide)
    have hunnamed : a.unnamed = b.unnamed :=
      unnamed_eq_of_parts fun n => hparts _ (hex_ne (by decide))
    have hnamed : a.named = b.named := by
      simp only [named, names, List.filter, hmodel, hstyle]
    have hbits : a.bits = b.bits := by
      rw [← named_or_unnamed a, ← named_or_unnamed b, hnamed, hunnamed]
    cases a
    cases b
    cases hbits
    rfl
  · rintro rfl
    rfl

end UpdateMask

theorem StateMask.inspect_inj {a b : StateMask} : a.inspect = b.inspect ↔ a = b := by
  constructor
  · intro h
    have hbits := UInt64.toNat_inj.mp (Text.hex_inj.mp (Text.wrapped_inj.mp h))
    cases a
    cases b
    cases hbits
    rfl
  · rintro rfl
    rfl

theorem ScopeError.message_inj {a b : UpdateMask} :
    (unbalanced a).message = (unbalanced b).message ↔ a = b := by
  rw [message, message, String.append_left_inj, String.append_right_inj, UpdateMask.inspect_inj]

theorem NotifyError.message_inj {d : DocumentId} {a b : UpdateMask} :
    (unbalanced d a).message = (unbalanced d b).message ↔ a = b := by
  unfold message
  dsimp only
  rw [String.append_left_inj, String.append_left_inj, String.append_left_inj,
    String.append_right_inj, UpdateMask.inspect_inj]

/-- The text of a mask tells which mask it is, for masks of either sort. Of an update mask it has
the names of the bits that have one and the number of all the others: these are two separate sets of
bits, which make up the mask, and no name can be taken for a number. Only the empty mask is shown as
such. So two messages that a scope was closed without being open, of one document, are the same only
if they name the same mask. -/
theorem masks_told_apart :
    (∀ a b : UpdateMask, a.inspect = b.inspect ↔ a = b) ∧
    (∀ a : UpdateMask, a.inspect = "UpdateType(NONE)" ↔ a = .empty) ∧
    (∀ a : UpdateMask, a.named.bits &&& a.unnamed = 0 ∧ a.named.bits ||| a.unnamed = a.bits ∧
      ("CONTENT_MODEL" ∈ a.parts ↔ a.contains .contentModel = true) ∧
      ("STYLE" ∈ a.parts ↔ a.contains .style = true) ∧
      ∀ n, Text.hex n ∈ a.parts ↔ a.unnamed ≠ 0 ∧ n = a.unnamed.toNat) ∧
    (∀ a b : StateMask, a.inspect = b.inspect ↔ a = b) ∧
    (∀ d a b, (NotifyError.unbalanced d a).message = (NotifyError.unbalanced d b).message ↔
      a = b) ∧
    (∀ a b, (ScopeError.unbalanced a).message = (ScopeError.unbalanced b).message ↔ a = b) := by
  refine ⟨fun a b => UpdateMask.inspect_inj, ?_, ?_, fun a b => StateMask.inspect_inj,
    fun d a b => NotifyError.message_inj, fun a b => ScopeError.message_inj⟩
  · intro a
    have hempty : UpdateMask.empty.inspect = "UpdateType(NONE)" := by decide +kernel
    rw [← hempty, UpdateMask.inspect_inj]
  · intro a
    exact ⟨a.named_and_unnamed, a.named_or_unnamed, UpdateMask.contentModel_mem_parts,
      UpdateMask.style_mem_parts, fun n => UpdateMask.hex_mem_parts⟩

end ChangeNotice
