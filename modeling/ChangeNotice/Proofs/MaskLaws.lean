import ChangeNotice.Mask
import Mathlib.Data.List.Basic

/-! # Laws of update masks

A mask contains another if all bits of the other are set in it. The names of bits stand for
one bit each, so that a mask falls into the bits that have a name and the bits that have none.
-/

namespace ChangeNotice

namespace UpdateMask

variable {a b c : UpdateMask}

/-! ## Containment -/

theorem contains_iff : a.contains b = true ↔ a.bits &&& b.bits = b.bits := beq_iff_eq

theorem contains_refl (a : UpdateMask) : a.contains a = true := contains_iff.mpr UInt32.and_self

theorem contains_trans (h : b.contains a = true) (h' : c.contains b = true) :
    c.contains a = true := by
  rw [contains_iff] at h h' ⊢
  rw [← h, ← UInt32.and_assoc, h']

theorem contains_or_left (a b : UpdateMask) : (a ||| b).contains a = true := by
  refine contains_iff.mpr (UInt32.toBitVec_inj.mp ?_)
  ext i hi
  change ((a.bits ||| b.bits) &&& a.bits).toBitVec[i] = a.bits.toBitVec[i]
  simp only [UInt32.toBitVec_and, UInt32.toBitVec_or, BitVec.getElem_and, BitVec.getElem_or]
  cases a.bits.toBitVec[i] <;> simp

theorem or_comm (a b : UpdateMask) : a ||| b = b ||| a :=
  congrArg mk (UInt32.or_comm a.bits b.bits)

theorem contains_or_right (a b : UpdateMask) : (a ||| b).contains b = true := by
  rw [or_comm]
  exact contains_or_left b a

theorem and_or_distrib (x y z : UInt32) : x &&& (y ||| z) = x &&& y ||| x &&& z := by
  apply UInt32.toBitVec_inj.mp
  ext i hi
  simp only [UInt32.toBitVec_and, UInt32.toBitVec_or, BitVec.getElem_and, BitVec.getElem_or,
    Bool.and_or_distrib_left]

/-- A mask contains a union if it contains both parts. -/
theorem contains_or (h : c.contains a = true) (h' : c.contains b = true) :
    c.contains (a ||| b) = true := by
  rw [contains_iff] at h h' ⊢
  change c.bits &&& (a.bits ||| b.bits) = a.bits ||| b.bits
  rw [and_or_distrib, h, h']

theorem contains_empty (a : UpdateMask) : a.contains empty = true :=
  contains_iff.mpr UInt32.and_zero

/-! ## Unions -/

/-- All that the masks of the list have together. -/
def gather (masks : List UpdateMask) : UpdateMask := masks.foldr (fun m all => all ||| m) empty

@[simp]
theorem gather_cons (m : UpdateMask) (masks : List UpdateMask) :
    gather (m :: masks) = gather masks ||| m := rfl

theorem contains_gather_of_mem {m : UpdateMask} {masks : List UpdateMask} (h : m ∈ masks) :
    (gather masks).contains m = true := by
  induction masks with
  | nil => exact absurd h List.not_mem_nil
  | cons first rest ih =>
      rw [gather_cons]
      rcases List.mem_cons.mp h with rfl | hrest
      · exact contains_or_right _ _
      · exact contains_trans (ih hrest) (contains_or_left _ _)

theorem contains_gather {masks : List UpdateMask} (h : ∀ m ∈ masks, a.contains m = true) :
    a.contains (gather masks) = true := by
  induction masks with
  | nil => exact contains_empty a
  | cons first rest ih =>
      obtain ⟨hfirst, hrest⟩ := List.forall_mem_cons.mp h
      rw [gather_cons]
      exact contains_or (ih hrest) hfirst

/-! ## Named and unnamed bits -/

/-- The mask has exactly one bit. -/
def IsSingle (b : UpdateMask) : Prop := ∃ k, b.bits.toBitVec = BitVec.twoPow 32 k

theorem isSingle_contentModel : contentModel.IsSingle := ⟨0, by decide⟩

theorem isSingle_style : style.IsSingle := ⟨1, by decide⟩

/-- Of a single bit a mask has all or nothing. -/
theorem and_of_isSingle (hb : b.IsSingle) :
    a.bits &&& b.bits = if a.contains b then b.bits else 0 := by
  obtain ⟨k, hk⟩ := hb
  have hand : (a.bits &&& b.bits).toBitVec =
      if a.bits.toBitVec.getLsbD k then b.bits.toBitVec else 0#32 := by
    rw [UInt32.toBitVec_and, hk, BitVec.and_twoPow]
  cases hcontains : a.contains b with
  | true => exact contains_iff.mp hcontains
  | false =>
      have hne : a.bits &&& b.bits ≠ b.bits := fun heq => by
        simp [contains_iff.mpr heq] at hcontains
      apply UInt32.toBitVec_inj.mp
      rw [hand, if_neg]
      · rfl
      · intro hset
        rw [if_pos hset] at hand
        exact hne (UInt32.toBitVec_inj.mp hand)

/-- The bits of the mask that have a name. -/
def named (a : UpdateMask) : UpdateMask :=
  gather ((names.filter fun entry => a.contains entry.1).map (·.1))

theorem named_eq (a : UpdateMask) : a.named.bits = a.bits &&& all.bits := by
  change _ = a.bits &&& (contentModel.bits ||| style.bits)
  rw [and_or_distrib, and_of_isSingle isSingle_contentModel, and_of_isSingle isSingle_style]
  cases hmodel : a.contains contentModel <;> cases hstyle : a.contains style <;>
    simp only [named, names, List.filter, hmodel, hstyle] <;> rfl

/-- No bit both has a name and has none. -/
theorem named_and_unnamed (a : UpdateMask) : a.named.bits &&& a.unnamed = 0 := by
  rw [named_eq, unnamed, UInt32.and_assoc, UInt32.and_comm all.bits, UInt32.and_assoc,
    UInt32.not_and_self, UInt32.and_zero, UInt32.and_zero]

theorem named_or_unnamed (a : UpdateMask) : a.named.bits ||| a.unnamed = a.bits := by
  rw [named_eq, unnamed, ← and_or_distrib, UInt32.or_not_self, UInt32.and_neg_one]

end UpdateMask

end ChangeNotice
