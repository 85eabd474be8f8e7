import CoreArray.Arithmetic
import CoreArray.Text.Numeral
import Std.Data.ExtTreeMap
set_option autoImplicit false

/-!
# Tensors and the tensor table of a core (SPEC §3, §10.6)

A tensor is a name and a shape.  A core knows its tensors through a table from
names to tensors, listed in ascending order of the names.  Tables with the same
look-ups are equal (`TensorTable.ext`).
-/

namespace CoreArray

/-- The name of a tensor within one task. -/
abbrev TensorId : Type := Int

/-- A tensor: its name and the lengths of its dimensions. -/
structure Tensor where
  id : TensorId
  dims : List Nat
  deriving DecidableEq, Repr, Inhabited

namespace Tensor

/-- Number of elements, counted in a word; a tensor without dimensions has none. -/
def size (t : Tensor) : Nat := if t.dims.isEmpty then 0 else wordProduct t.dims

/-- A shape in a text, as `[2, 3]`. -/
def dimsText (dims : List Nat) : String := Text.bracketed (dims.map toString)

/-- A tensor in a text, as `t7[2, 3]`. -/
def text (t : Tensor) : String := s!"t{t.id}" ++ dimsText t.dims

end Tensor

/-- All tensors known to one core, by name. -/
structure TensorTable where
  shapes : Std.ExtTreeMap TensorId (List Nat)
  deriving DecidableEq, Inhabited

namespace TensorTable

/-- The table without tensors. -/
def empty : TensorTable := ⟨∅⟩

/-- The shape of a tensor, if it is known. -/
def dims? (table : TensorTable) (id : TensorId) : Option (List Nat) := table.shapes[id]?

/-- A tensor, if it is known. -/
def get? (table : TensorTable) (id : TensorId) : Option Tensor :=
  (table.dims? id).map fun dims => ⟨id, dims⟩

/-- Whether a tensor is known. -/
def contains (table : TensorTable) (id : TensorId) : Bool := (table.dims? id).isSome

/-- Add a tensor, in place of one with the same name. -/
def insert (table : TensorTable) (t : Tensor) : TensorTable :=
  ⟨table.shapes.insert t.id t.dims⟩

/-- Add a tensor of unknown shape unless the name is known. -/
def ensure (table : TensorTable) (id : TensorId) : TensorTable :=
  if table.contains id then table else table.insert ⟨id, []⟩

/-- Number of tensors. -/
def size (table : TensorTable) : Nat := table.shapes.size

/-- The tensors in ascending order of their names. -/
def toList (table : TensorTable) : List Tensor :=
  table.shapes.toList.map fun (id, dims) => ⟨id, dims⟩

/-- The table of a list of tensors; a later one replaces an earlier one of the
same name. -/
def ofList (tensors : List Tensor) : TensorTable := tensors.foldl insert empty

/-- The shape of a tensor, empty if it is not known. -/
def dimsOf (table : TensorTable) (id : TensorId) : List Nat := (table.dims? id).getD []

/-- Number of elements of a tensor, none if it is not known. -/
def sizeOf (table : TensorTable) (id : TensorId) : Nat := (table.get? id).elim 0 Tensor.size

/-- Give a tensor a shape unless it has one already. -/
def allocate (table : TensorTable) (id : TensorId) (dims : List Nat) : TensorTable :=
  if (table.dimsOf id).isEmpty then table.insert ⟨id, dims⟩ else table

/-- A table in a text: a line per tensor. -/
def text (table : TensorTable) : String := String.join (table.toList.map fun t => t.text ++ "\n")

/-! ## The table through its look-ups -/

theorem ext {a b : TensorTable} (h : ∀ id, a.dims? id = b.dims? id) : a = b := by
  cases a
  cases b
  simp only [mk.injEq]
  exact Std.ExtTreeMap.ext_getElem? h

@[simp] theorem dims?_empty (id : TensorId) : empty.dims? id = none := by
  simp [empty, dims?]

theorem dims?_insert (table : TensorTable) (t : Tensor) (id : TensorId) :
    (table.insert t).dims? id = if t.id = id then some t.dims else table.dims? id := by
  simp only [insert, dims?, Std.ExtTreeMap.getElem?_insert, Std.compare_eq_iff_eq]

@[simp] theorem dims?_insert_self (table : TensorTable) (id : TensorId) (dims : List Nat) :
    (table.insert ⟨id, dims⟩).dims? id = some dims := by
  simp [dims?_insert]

theorem dims?_insert_of_ne {table : TensorTable} {t : Tensor} {id : TensorId} (h : t.id ≠ id) :
    (table.insert t).dims? id = table.dims? id := by
  simp [dims?_insert, h]

/-- A tensor is found under its own name. -/
theorem id_of_get? {table : TensorTable} {id : TensorId} {t : Tensor}
    (h : table.get? id = some t) : t.id = id := by
  unfold get? at h
  obtain ⟨dims, -, rfl⟩ := Option.map_eq_some_iff.mp h
  rfl

/-! ## Tables only grow -/

@[simp] theorem contains_insert_self (table : TensorTable) (t : Tensor) :
    (table.insert t).contains t.id = true := by
  simp [contains, dims?_insert]

theorem contains_insert {table : TensorTable} {id : TensorId} (h : table.contains id = true)
    (t : Tensor) : (table.insert t).contains id = true := by
  unfold contains at h ⊢
  rw [dims?_insert]
  split
  · rfl
  · exact h

theorem contains_ensure {table : TensorTable} {id : TensorId} (h : table.contains id = true)
    (other : TensorId) : (table.ensure other).contains id = true := by
  unfold ensure
  split
  · exact h
  · exact contains_insert h _

theorem contains_allocate {table : TensorTable} {id : TensorId} (h : table.contains id = true)
    (other : TensorId) (dims : List Nat) : (table.allocate other dims).contains id = true := by
  unfold allocate
  split
  · exact contains_insert h _
  · exact h

end TensorTable

end CoreArray
