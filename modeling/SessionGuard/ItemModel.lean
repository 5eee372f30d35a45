-- A model of rows that changes, and a filter in front of it: what the filter
-- signals of each change, and what the rows pass through while an observer handles
-- the changes one by one.
import Mathlib.Data.List.Basic
import Mathlib.Tactic.Common

namespace item_model

variable {α : Type*}

/-! ## Changes -/

/-- A batch of rows is inserted before a row, or some rows from one on are removed. -/
inductive Change (α : Type*)
  | insert (first : Nat) (batch : List α)
  | remove (first count : Nat)

def Change.apply (rows : List α) : Change α → List α
  | .insert first batch => rows.take first ++ batch ++ rows.drop first
  | .remove first count => rows.take first ++ rows.drop (first + count)

/-- The rows after all changes. -/
def applyAll (rows : List α) (cs : List (Change α)) : List α := cs.foldl Change.apply rows

theorem applyAll_concat (rows : List α) (cs : List (Change α)) (c : Change α) :
    applyAll rows (cs ++ [c]) = c.apply (applyAll rows cs) := List.foldl_append

/-! ## The filter -/

/-- What a model says after a change. Both rows are included. -/
inductive Signal
  | rowsInserted (first last : Nat)
  | rowsRemoved (first last : Nat)
  deriving DecidableEq

/-- What the filter says of a change of its source: nothing when no row of it passes. -/
def Change.signal (p : α → Bool) (rows : List α) : Change α → Option Signal
  | .insert first batch =>
    let row := ((rows.take first).filter p).length
    let count := (batch.filter p).length
    if count = 0 then none else some (.rowsInserted row (row + count - 1))
  | .remove first count =>
    let row := ((rows.take first).filter p).length
    let count := (((rows.drop first).take count).filter p).length
    if count = 0 then none else some (.rowsRemoved row (row + count - 1))

section filter

variable {p : α → Bool} {rows : List α} {c : Change α}

/-- The rows before a change, those that it removes, and those after it. -/
theorem filter_three (p : α → Bool) (rows : List α) (first count : Nat) :
    (rows.filter p).length = ((rows.take first).filter p).length +
      (((rows.drop first).take count).filter p).length +
        ((rows.drop (first + count)).filter p).length := by
  have hsplit :
      rows = rows.take first ++ ((rows.drop first).take count ++ rows.drop (first + count)) := by
    rw [← List.drop_drop, List.take_append_drop, List.take_append_drop]
  conv_lhs => rw [hsplit]
  rw [List.filter_append, List.filter_append, List.length_append, List.length_append]
  omega

theorem insert_length (p : α → Bool) (rows : List α) (first : Nat) (batch : List α) :
    (((Change.insert first batch).apply rows).filter p).length =
      (rows.filter p).length + (batch.filter p).length := by
  have hsplit := filter_three p rows first 0
  simp only [Change.apply, List.filter_append, List.length_append]
  simp only [List.take_zero, List.filter_nil, List.length_nil, Nat.add_zero] at hsplit
  omega

theorem remove_length (p : α → Bool) (rows : List α) (first count : Nat) :
    (((Change.remove first count).apply rows).filter p).length +
      (((rows.drop first).take count).filter p).length = (rows.filter p).length := by
  have hsplit := filter_three p rows first count
  simp only [Change.apply, List.filter_append, List.length_append]
  omega

/-- A change without a signal keeps the number of rows that pass. -/
theorem signal_none (h : c.signal p rows = none) :
    ((c.apply rows).filter p).length = (rows.filter p).length := by
  cases c with
  | insert first batch =>
    simp only [Change.signal, ite_eq_left_iff, reduceCtorEq, imp_false, not_not] at h
    rw [insert_length, h]
    rfl
  | remove first count =>
    simp only [Change.signal, ite_eq_left_iff, reduceCtorEq, imp_false, not_not] at h
    rw [← remove_length p rows first count, h]
    rfl

theorem signal_inserted {first last : Nat} (h : c.signal p rows = some (.rowsInserted first last)) :
    first ≤ last ∧
      ((c.apply rows).filter p).length = (rows.filter p).length + (last + 1 - first) := by
  cases c with
  | insert row batch =>
    simp only [Change.signal] at h
    split_ifs at h
    cases h
    rw [insert_length]
    omega
  | remove row count =>
    simp only [Change.signal] at h
    split_ifs at h
    cases h

theorem signal_removed {first last : Nat} (h : c.signal p rows = some (.rowsRemoved first last)) :
    first ≤ last ∧ last < (rows.filter p).length ∧
      ((c.apply rows).filter p).length + (last + 1 - first) = (rows.filter p).length := by
  cases c with
  | insert row batch =>
    simp only [Change.signal] at h
    split_ifs at h
    cases h
  | remove row count =>
    simp only [Change.signal] at h
    split_ifs at h
    cases h
    have hsplit := filter_three p rows row count
    have hlen := remove_length p rows row count
    omega

end filter

/-! ## What the rows pass through -/

/-- The rows are as `P` says now or after some of the changes. -/
def Reaches (P : List α → Prop) : List α → List (Change α) → Prop
  | rows, [] => P rows
  | rows, c :: cs => P rows ∨ Reaches P (c.apply rows) cs

section reaches

variable {P : List α → Prop} {rows : List α} {cs : List (Change α)}

theorem reaches_now (h : P rows) : Reaches P rows cs := by
  cases cs with
  | nil => exact h
  | cons c cs => exact Or.inl h

/-- What the rows are in the end, they reach. -/
theorem reaches_end (h : P (applyAll rows cs)) : Reaches P rows cs := by
  induction cs generalizing rows with
  | nil => exact h
  | cons c cs ih => exact Or.inr (ih h)

/-- More changes take nothing away. -/
theorem reaches_append (ds : List (Change α)) (h : Reaches P rows cs) :
    Reaches P rows (cs ++ ds) := by
  induction cs generalizing rows with
  | nil => exact reaches_now h
  | cons c cs ih => exact h.imp_right ih

end reaches

end item_model
