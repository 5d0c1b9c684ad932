import ChangeNotice.Ident
import ChangeNotice.Table

/-! # Catalogs

A catalog keeps values under numbers that are never used twice. A name means the
value that was made last under it. Whoever holds a number goes on with the same
value, whatever the name has come to mean since.
-/

namespace ChangeNotice

structure Catalog (α : Type) where
  /-- What each name means now. -/
  names : Table Name Nat
  values : Table Nat α
  /-- How many values have been made. -/
  made : Nat

namespace Catalog

variable {α : Type}

def empty : Catalog α := ⟨.empty, .empty, 0⟩

instance : Inhabited (Catalog α) := ⟨empty⟩

/-- The number of the value that a name means. -/
def number? (c : Catalog α) (name : Name) : Option Nat := c.names.find? name

/-- Makes a value, which the name means from now on. -/
def make (c : Catalog α) (name : Name) (a : α) : Catalog α :=
  ⟨c.names.set name c.made, c.values.set c.made a, c.made + 1⟩

/-- The name means nothing any more; what it meant stays. -/
def forget (c : Catalog α) (name : Name) : Catalog α := { c with names := c.names.erase name }

def get [Inhabited α] (c : Catalog α) (number : Nat) : α := c.values.get number

def update [Inhabited α] (c : Catalog α) (number : Nat) (f : α → α) : Catalog α :=
  { c with values := c.values.update number f }

@[simp]
theorem number?_empty (name : Name) : (empty : Catalog α).number? name = none := rfl

@[simp]
theorem number?_make (c : Catalog α) (name other : Name) (a : α) :
    (c.make name a).number? other = if other = name then some c.made else c.number? other :=
  Table.find?_set c.names name other c.made

@[simp]
theorem number?_update [Inhabited α] (c : Catalog α) (number : Nat) (name : Name) (f : α → α) :
    (c.update number f).number? name = c.number? name := rfl

@[simp]
theorem number?_forget (c : Catalog α) (name other : Name) :
    (c.forget name).number? other = if other = name then none else c.number? other :=
  Table.find?_erase c.names name other

@[simp]
theorem get_forget [Inhabited α] (c : Catalog α) (name : Name) (number : Nat) :
    (c.forget name).get number = c.get number := rfl

/-- Making a value leaves all others as they are. -/
@[simp]
theorem get_make [Inhabited α] (c : Catalog α) (name : Name) (number : Nat) (a : α) :
    (c.make name a).get number = if number = c.made then a else c.get number :=
  Table.get_set c.values c.made number a

@[simp]
theorem get_update [Inhabited α] (c : Catalog α) (number other : Nat) (f : α → α) :
    (c.update number f).get other = if other = number then f (c.get number) else c.get other :=
  Table.get_update c.values number other f

def map (f : α → α) (c : Catalog α) : Catalog α := { c with values := c.values.map f }

theorem map_make (f : α → α) (c : Catalog α) (name : Name) (a : α) :
    (c.make name a).map f = (c.map f).make name (f a) := by
  unfold make map
  simp only
  rw [Table.map_set]

variable [Inhabited α]

theorem map_update {f g g' : α → α} (hf : f default = default) (c : Catalog α) (number : Nat)
    (hg : f (g (c.get number)) = g' (f (c.get number))) :
    (c.update number g).map f = (c.map f).update number g' := by
  unfold update map
  simp only
  rw [Table.map_update hf c.values number hg]

theorem get_map {f : α → α} (hf : f default = default) (c : Catalog α) (number : Nat) :
    (c.map f).get number = f (c.get number) :=
  Table.get_map hf c.values number

end Catalog

end ChangeNotice
