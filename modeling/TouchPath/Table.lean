import TouchPath.Fault

/-! # Tables

Rows of one length under one another. Rows that are put together have the columns of the first one,
and none when there is no row; a blank table has its columns without any row
(`Table.ofRowsOr_eq`).
-/
namespace TouchPath
set_option autoImplicit false

/-- Rows that each have an entry in every column. -/
structure Table (α : Type) where
  columns : Nat
  rows : List (List α)
  complete : ∀ r ∈ rows, r.length = columns

namespace Table

variable {α : Type}

def shape (t : Table α) : Nat × Nat := (t.rows.length, t.columns)

def blank (columns : Nat) : Table α := ⟨columns, [], nofun⟩

def ofRows (rows : List (List α)) : Except Fault (Table α) :=
  let columns := (rows.head?.map List.length).getD 0
  if h : ∀ r ∈ rows, r.length = columns then .ok ⟨columns, rows, h⟩ else .error .badValue

def ofRowsOr (columns : Nat) (rows : List (List α)) : Except Fault (Table α) :=
  if rows.isEmpty then .ok (blank columns) else ofRows rows

/-- Rows of one length make a table of that many columns, also when there are none. -/
theorem ofRowsOr_eq {columns : Nat} {rows : List (List α)} (h : ∀ r ∈ rows, r.length = columns) :
    ofRowsOr columns rows = .ok ⟨columns, rows, h⟩ := by
  cases rows with
  | nil => rfl
  | cons r rows =>
    have hFirst : r.length = columns := h r List.mem_cons_self
    subst hFirst
    rw [ofRowsOr, if_neg (by simp), ofRows]
    exact dif_pos h

end Table
end TouchPath
