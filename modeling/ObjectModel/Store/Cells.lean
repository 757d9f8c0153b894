/-!
# References and cells

Everything that a program can hold twice and change once lives in a cell: classes, strings,
arrays, objects, exceptions and scopes.  A reference names a cell by its position among the cells
of its kind.  Cells are only ever added at the end, so a reference stays good for ever, a new cell
is never one that was there before, and identity of things is equality of references.

## Main definitions

* `CellKind`, `Ref` — what a reference refers to, and the reference.
* `Cells` — the cells of one kind, with `read`, `add` and `modify`.

## Main results

* `Cells.get?_add`, `Cells.get?_modify` — what adding and changing do to every reference.
-/

namespace ObjectModel

/-- The kinds of cells. -/
inductive CellKind where
  | cls
  | string
  | array
  | object
  | exception
  | scope
  deriving DecidableEq, Repr

/-- A reference to a cell of one kind. -/
structure Ref (kind : CellKind) where
  index : Nat
  deriving DecidableEq, Repr, Inhabited

/-- A class, a module or an eigenclass. -/
abbrev ClassRef := Ref .cls

abbrev StringRef := Ref .string

abbrev ArrayRef := Ref .array

abbrev ObjectRef := Ref .object

abbrev ExceptionRef := Ref .exception

abbrev ScopeRef := Ref .scope

/-- The cells of one kind, in the order in which they were added. -/
structure Cells (kind : CellKind) (α : Type) where
  cells : Array α

namespace Cells

variable {kind : CellKind} {α : Type}

instance : Inhabited (Cells kind α) := ⟨⟨#[]⟩⟩

instance : EmptyCollection (Cells kind α) := ⟨⟨#[]⟩⟩

/-- The number of cells. -/
def size (table : Cells kind α) : Nat := table.cells.size

/-- The contents of a cell, if the reference is one of this table. -/
def get? (table : Cells kind α) (ref : Ref kind) : Option α := table.cells[ref.index]?

/-- The contents of a cell; a reference from elsewhere reads as the default contents. -/
def read [Inhabited α] (table : Cells kind α) (ref : Ref kind) : α :=
  (table.get? ref).getD default

/-- The reference that the next added cell will have. -/
def next (table : Cells kind α) : Ref kind := ⟨table.size⟩

/-- Adds a cell, whose reference is `next`. -/
def add (table : Cells kind α) (contents : α) : Cells kind α := ⟨table.cells.push contents⟩

/-- Changes the contents of one cell. -/
def modify (table : Cells kind α) (ref : Ref kind) (f : α → α) : Cells kind α :=
  ⟨table.cells.modify ref.index f⟩

/-- Every reference of the table, oldest first. -/
def refs (table : Cells kind α) : List (Ref kind) := (List.range table.size).map Ref.mk

@[simp] theorem size_empty : (∅ : Cells kind α).size = 0 := rfl

@[simp] theorem size_add (table : Cells kind α) (contents : α) :
    (table.add contents).size = table.size + 1 := by
  simp [size, add]

/-- The next reference is one of the table once a cell has been added. -/
theorem next_lt_size_add (table : Cells kind α) (contents : α) :
    table.next.index < (table.add contents).size := by
  rw [size_add]
  exact Nat.lt_succ_self table.size

@[simp] theorem size_modify (table : Cells kind α) (ref : Ref kind) (f : α → α) :
    (table.modify ref f).size = table.size := by
  simp [size, modify]

@[simp] theorem get?_empty (ref : Ref kind) : (∅ : Cells kind α).get? ref = none := rfl

theorem get?_add (table : Cells kind α) (contents : α) (ref : Ref kind) :
    (table.add contents).get? ref =
      if ref = table.next then some contents else table.get? ref := by
  obtain ⟨i⟩ := ref
  simp [get?, add, next, size, Array.getElem?_push]

@[simp] theorem get?_add_next (table : Cells kind α) (contents : α) :
    (table.add contents).get? table.next = some contents := by
  simp [get?_add]

theorem get?_modify (table : Cells kind α) (ref other : Ref kind) (f : α → α) :
    (table.modify ref f).get? other =
      if other = ref then (table.get? ref).map f else table.get? other := by
  obtain ⟨i⟩ := ref
  obtain ⟨j⟩ := other
  by_cases h : j = i
  · subst h
    simp [get?, modify, Array.getElem?_modify]
  · simp [get?, modify, Array.getElem?_modify, h, Ne.symm h]

/-- A cell that is added leaves the others alone. -/
theorem get?_add_of_ne (table : Cells kind α) (contents : α) {ref : Ref kind}
    (h : ref ≠ table.next) : (table.add contents).get? ref = table.get? ref := by
  rw [get?_add, if_neg h]

/-- So does a cell that is changed. -/
theorem get?_modify_of_ne (table : Cells kind α) {ref other : Ref kind} (f : α → α)
    (h : other ≠ ref) : (table.modify ref f).get? other = table.get? other := by
  rw [get?_modify, if_neg h]

theorem get?_isSome (table : Cells kind α) (ref : Ref kind) :
    (table.get? ref).isSome ↔ ref.index < table.size := by
  simp [get?, size]

theorem get?_eq_none (table : Cells kind α) (ref : Ref kind) :
    table.get? ref = none ↔ table.size ≤ ref.index := by
  simp [get?, size]

theorem mem_refs (table : Cells kind α) (ref : Ref kind) :
    ref ∈ table.refs ↔ ref.index < table.size := by
  obtain ⟨i⟩ := ref
  simp [refs]

theorem read_of_get? [Inhabited α] {table : Cells kind α} {ref : Ref kind} {contents : α}
    (h : table.get? ref = some contents) : table.read ref = contents := by
  rw [read, h, Option.getD_some]

theorem read_of_size_le [Inhabited α] {table : Cells kind α} {ref : Ref kind}
    (h : table.size ≤ ref.index) : table.read ref = default := by
  rw [read, (table.get?_eq_none ref).2 h, Option.getD_none]

theorem get?_of_lt [Inhabited α] {table : Cells kind α} {ref : Ref kind}
    (h : ref.index < table.size) : table.get? ref = some (table.read ref) := by
  obtain ⟨contents, hcontents⟩ := Option.isSome_iff_exists.1 ((table.get?_isSome ref).2 h)
  rw [hcontents, read_of_get? hcontents]

/-- Adding a cell changes the contents of no other. -/
theorem read_add [Inhabited α] (table : Cells kind α) (contents : α) (ref : Ref kind) :
    (table.add contents).read ref =
      if ref = table.next then contents else table.read ref := by
  simp only [read, get?_add]
  split <;> simp

theorem read_add_next [Inhabited α] (table : Cells kind α) (contents : α) :
    (table.add contents).read table.next = contents := by
  rw [read_add, if_pos rfl]

theorem read_add_of_lt [Inhabited α] (table : Cells kind α) (contents : α) {ref : Ref kind}
    (h : ref.index < table.size) : (table.add contents).read ref = table.read ref := by
  rw [read_add, if_neg]
  rintro rfl
  exact Nat.lt_irrefl _ h

/-- Changing a cell changes the contents of no other. -/
theorem read_modify_of_ne [Inhabited α] (table : Cells kind α) {ref other : Ref kind}
    (f : α → α) (h : other ≠ ref) : (table.modify ref f).read other = table.read other := by
  simp [read, get?_modify, h]

theorem read_modify_self [Inhabited α] (table : Cells kind α) {ref : Ref kind} (f : α → α)
    (h : ref.index < table.size) : (table.modify ref f).read ref = f (table.read ref) := by
  obtain ⟨contents, hcontents⟩ := Option.isSome_iff_exists.1 ((table.get?_isSome ref).2 h)
  simp [read, get?_modify, hcontents]

/-- To change a cell that has just been added is to add it changed. -/
theorem modify_add_next (table : Cells kind α) (contents : α) (f : α → α) :
    (table.add contents).modify table.next f = table.add (f contents) := by
  obtain ⟨cells⟩ := table
  refine congrArg mk (Array.ext_getElem? fun i => ?_)
  simp only [add, next, size, Array.getElem?_modify, Array.getElem?_push]
  grind

theorem modify_of_size_le (table : Cells kind α) {ref : Ref kind} (f : α → α)
    (h : table.size ≤ ref.index) : table.modify ref f = table := by
  obtain ⟨cells⟩ := table
  exact congrArg mk (Array.ext_getElem? fun i => by
    rw [Array.getElem?_modify]
    split
    · next heq => rw [← heq, Array.getElem?_eq_none h]; rfl
    · rfl)

end Cells

end ObjectModel
