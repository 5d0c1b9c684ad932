/-! # Tables

A table keeps values under keys, in the order in which the keys were first used.
Reading a key that was never used gives the default value, so that `get` and
`update` obey their laws without side conditions.
-/

namespace ChangeNotice

structure Table (κ α : Type) where
  rows : List (κ × α)
deriving DecidableEq

namespace Table

variable {κ α : Type}

def empty : Table κ α := ⟨[]⟩

instance : Inhabited (Table κ α) := ⟨empty⟩

variable [DecidableEq κ]

def findRow (key : κ) : List (κ × α) → Option α
  | [] => none
  | row :: rest => if key = row.1 then some row.2 else findRow key rest

def find? (t : Table κ α) (key : κ) : Option α := findRow key t.rows

def contains (t : Table κ α) (key : κ) : Bool := (t.find? key).isSome

def get [Inhabited α] (t : Table κ α) (key : κ) : α := (t.find? key).getD default

/-- Replaces the value in place, or adds it at the end. -/
def setRows (key : κ) (a : α) : List (κ × α) → List (κ × α)
  | [] => [(key, a)]
  | row :: rest => if key = row.1 then (key, a) :: rest else row :: setRows key a rest

def set (t : Table κ α) (key : κ) (a : α) : Table κ α := ⟨setRows key a t.rows⟩

def update [Inhabited α] (t : Table κ α) (key : κ) (f : α → α) : Table κ α :=
  t.set key (f (t.get key))

def erase (t : Table κ α) (key : κ) : Table κ α := ⟨t.rows.filter fun row => row.1 ≠ key⟩

theorem findRow_setRows (key other : κ) (a : α) (rows : List (κ × α)) :
    findRow other (setRows key a rows) = if other = key then some a else findRow other rows := by
  induction rows with
  | nil => rfl
  | cons row rest ih => by_cases hrow : key = row.1 <;> grind [setRows, findRow]

theorem findRow_filter (key other : κ) (rows : List (κ × α)) :
    findRow other (rows.filter fun row => row.1 ≠ key) =
      if other = key then none else findRow other rows := by
  induction rows with
  | nil => simp [findRow]
  | cons row rest ih => by_cases hrow : row.1 = key <;> grind [findRow]

@[simp]
theorem find?_set (t : Table κ α) (key other : κ) (a : α) :
    (t.set key a).find? other = if other = key then some a else t.find? other :=
  findRow_setRows key other a t.rows

@[simp]
theorem find?_erase (t : Table κ α) (key other : κ) :
    (t.erase key).find? other = if other = key then none else t.find? other :=
  findRow_filter key other t.rows

@[simp]
theorem get_set [Inhabited α] (t : Table κ α) (key other : κ) (a : α) :
    (t.set key a).get other = if other = key then a else t.get other := by
  unfold get
  rw [find?_set]
  split <;> rfl

@[simp]
theorem get_update [Inhabited α] (t : Table κ α) (key other : κ) (f : α → α) :
    (t.update key f).get other = if other = key then f (t.get key) else t.get other :=
  get_set t key other (f (t.get key))

@[simp]
theorem contains_empty (key : κ) : (empty : Table κ α).contains key = false := rfl

@[simp]
theorem contains_set (t : Table κ α) (key other : κ) (a : α) :
    (t.set key a).contains other = (decide (other = key) || t.contains other) := by
  unfold contains
  rw [find?_set]
  by_cases h : other = key <;> simp [h]

@[simp]
theorem contains_update [Inhabited α] (t : Table κ α) (key other : κ) (f : α → α) :
    (t.update key f).contains other = (decide (other = key) || t.contains other) :=
  contains_set t key other (f (t.get key))

theorem get_of_not_contains [Inhabited α] {t : Table κ α} {key : κ} (h : t.contains key = false) :
    t.get key = default := by
  have hnone : t.find? key = none := by simpa [contains] using h
  simp [get, hnone]

section

variable {t : Table κ α} {key other : κ}

/-- Replacing a value that is there commutes with every change elsewhere. -/
theorem set_comm (h : t.contains key = true) (hne : other ≠ key) (a a' : α) :
    (t.set key a).set other a' = (t.set other a').set key a := by
  obtain ⟨rows⟩ := t
  have hrows : setRows other a' (setRows key a rows) = setRows key a (setRows other a' rows) := by
    induction rows with
    | nil => exact absurd h (by simp [contains, find?, findRow])
    | cons row rest ih =>
        simp only [contains, find?] at h ih
        by_cases hkey : key = row.1 <;> by_cases hother : other = row.1 <;>
          grind [setRows, findRow]
  exact congrArg Table.mk hrows

theorem length_set (h : t.contains key = true) (a : α) :
    (t.set key a).rows.length = t.rows.length := by
  obtain ⟨rows⟩ := t
  show (setRows key a rows).length = rows.length
  induction rows with
  | nil => exact absurd h (by simp [contains, find?, findRow])
  | cons row rest ih =>
      simp only [contains, find?] at h ih
      by_cases hkey : key = row.1 <;> grind [setRows, findRow]

end

theorem mem_setRows {key : κ} {a : α} {row : κ × α} {rows : List (κ × α)}
    (h : row ∈ setRows key a rows) : row = (key, a) ∨ row ∈ rows := by
  induction rows with
  | nil => exact .inl (List.mem_singleton.mp h)
  | cons first rest ih =>
      rw [setRows] at h
      split at h
      · rcases List.mem_cons.mp h with hnew | hrest
        · exact .inl hnew
        · exact .inr (List.mem_cons_of_mem _ hrest)
      · rcases List.mem_cons.mp h with hfirst | hrest
        · exact .inr (hfirst ▸ List.mem_cons_self)
        · exact (ih hrest).imp_right (List.mem_cons_of_mem _)

theorem mem_of_findRow {key : κ} {a : α} {rows : List (κ × α)}
    (h : findRow key rows = some a) : (key, a) ∈ rows := by
  induction rows with
  | nil => simp [findRow] at h
  | cons row rest ih =>
      unfold findRow at h
      split at h
      next heq =>
        obtain rfl := Option.some.inj h
        rw [heq]
        exact List.mem_cons_self
      next => exact List.mem_cons_of_mem _ (ih h)

/-- The sum of a measure over all values. -/
def total (g : α → Nat) : List (κ × α) → Nat
  | [] => 0
  | row :: rest => g row.2 + total g rest

/-- Replacing a value changes the sum by the difference. -/
theorem total_setRows (g : α → Nat) (key : κ) (a : α) (rows : List (κ × α)) :
    total g (setRows key a rows) + (findRow key rows).elim 0 g = total g rows + g a := by
  induction rows with
  | nil => simp [setRows, findRow, total]
  | cons row rest ih =>
      by_cases hrow : key = row.1
      · simp only [setRows, findRow, hrow, if_true, total, Option.elim_some]
        omega
      · simp only [setRows, findRow, hrow, if_false, total]
        omega

/-! ## Tables of other values -/

variable {β : Type}

def map (f : α → β) (t : Table κ α) : Table κ β := ⟨t.rows.map fun row => (row.1, f row.2)⟩

theorem find?_map (f : α → β) (t : Table κ α) (key : κ) :
    (t.map f).find? key = (t.find? key).map f := by
  unfold find? map
  induction t.rows with
  | nil => rfl
  | cons row rest ih =>
      simp only [List.map_cons, findRow]
      split
      · rfl
      · exact ih

@[simp]
theorem contains_map (f : α → β) (t : Table κ α) (key : κ) :
    (t.map f).contains key = t.contains key := by
  unfold contains
  rw [find?_map, Option.isSome_map]

theorem get_map [Inhabited α] [Inhabited β] {f : α → β} (hf : f default = default)
    (t : Table κ α) (key : κ) : (t.map f).get key = f (t.get key) := by
  unfold get
  rw [find?_map]
  cases t.find? key with
  | none => exact hf.symm
  | some a => rfl

theorem map_set (f : α → β) (t : Table κ α) (key : κ) (a : α) :
    (t.set key a).map f = (t.map f).set key (f a) := by
  have hrows : ∀ rows : List (κ × α), (setRows key a rows).map (fun row => (row.1, f row.2)) =
      setRows key (f a) (rows.map fun row => (row.1, f row.2)) := by
    intro rows
    induction rows with
    | nil => rfl
    | cons row rest ih =>
        simp only [setRows, List.map_cons]
        split
        · rfl
        · rw [List.map_cons, ih]
  unfold set map
  rw [hrows]

theorem map_update [Inhabited α] [Inhabited β] {f : α → β} (hf : f default = default)
    {g : α → α} {g' : β → β} (t : Table κ α) (key : κ)
    (hg : f (g (t.get key)) = g' (f (t.get key))) :
    (t.update key g).map f = (t.map f).update key g' := by
  unfold update
  rw [map_set, get_map hf, hg]

end Table

end ChangeNotice
