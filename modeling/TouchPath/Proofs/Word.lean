import TouchPath.Gesture.Word
import TouchPath.Proofs.Growth

/-! # Rows of a touch

The table of a touch of whole milliseconds is there exactly when all its coordinates and times fit a
word. Its first column numbers the fingers in ascending order, and the rows of one number are the
segments of that finger as they are (`Touch.toTable_groups`).
-/
namespace TouchPath
set_option autoImplicit false

def FitsWord (n : Int) : Prop := -2 ^ 63 ≤ n ∧ n < 2 ^ 63

instance : DecidablePred FitsWord := fun n =>
  inferInstanceAs (Decidable (-2 ^ 63 ≤ n ∧ n < 2 ^ 63))

theorem fitsWord_iff (n : Int) : fitsWord n = true ↔ FitsWord n := by
  simp only [fitsWord, FitsWord, Bool.and_eq_true, decide_eq_true_eq]
  omega

theorem Number.toWord_int (n : Int) :
    toWord n = if FitsWord n then .ok n else .error .overflow := by
  change (if fitsWord n = true then Except.ok n else Except.error Fault.overflow) = _
  simp only [fitsWord_iff]

namespace Segment

def fields (s : Segment) : List Int := [s.start.x, s.start.y, s.stop.x, s.stop.y, s.millis]

def FitsWords (s : Segment) : Prop := ∀ n ∈ s.fields, FitsWord n

instance : DecidablePred FitsWords := fun s =>
  inferInstanceAs (Decidable (∀ n ∈ s.fields, FitsWord n))

theorem IsWhole.numbers_eq {s : Segment} (h : s.IsWhole) : s.numbers = s.fields.map Number.int := by
  rw [numbers, h.time_eq]
  rfl

theorem IsWhole.toWords_eq {s : Segment} (h : s.IsWhole) : s.numbers.mapM Number.toWord =
    if s.FitsWords then .ok s.fields else .error .overflow := by
  have hEach : ∀ n ∈ s.fields, (Number.toWord ∘ Number.int) n =
      if FitsWord n then .ok (id n) else .error .overflow := fun n _ => Number.toWord_int n
  rw [h.numbers_eq, List.mapM_map, mapM_eq_ite hEach, List.map_id]
  rfl

end Segment

namespace Path

def IsWhole (p : Path) : Prop := ∀ s ∈ p.segments, s.IsWhole

def FitsWords (p : Path) : Prop := ∀ s ∈ p.segments, s.FitsWords

instance : DecidablePred FitsWords := fun p =>
  inferInstanceAs (Decidable (∀ s ∈ p.segments, s.FitsWords))

def rows (p : Path) (finger : Nat) : List (List Int) :=
  p.segments.map fun s => (finger : Int) :: s.fields

theorem IsWhole.mapM_row {p : Path} (h : p.IsWhole) (finger : Nat) :
    p.segments.mapM (Touch.row finger) =
      if p.FitsWords then .ok (p.rows finger) else .error .overflow := by
  apply mapM_eq_ite
  intro s hs
  rw [Touch.row, (h s hs).toWords_eq]
  split <;> rfl

end Path

namespace Touch

def IsWhole (t : Touch) : Prop := ∀ p ∈ t.fingers, p.IsWhole

def FitsWords (t : Touch) : Prop := ∀ p ∈ t.fingers, p.FitsWords

instance : DecidablePred FitsWords := fun t =>
  inferInstanceAs (Decidable (∀ p ∈ t.fingers, p.FitsWords))

/-- The rows of all fingers, which are numbered upwards from a number. -/
def rowsFrom (first : Nat) : List Path → List (List Int)
  | [] => []
  | p :: ps => p.rows first ++ rowsFrom (first + 1) ps

theorem flatten_rows (first : Nat) (fingers : List Path) :
    ((fingers.zipIdx first).map fun (p, i) => p.rows i).flatten = rowsFrom first fingers := by
  induction fingers generalizing first with
  | nil => rfl
  | cons p ps ih =>
    rw [List.zipIdx_cons, List.map_cons, List.flatten_cons, ih]
    rfl

theorem length_of_mem_rowsFrom {first : Nat} {fingers : List Path} {r : List Int}
    (h : r ∈ rowsFrom first fingers) : r.length = 6 := by
  induction fingers generalizing first with
  | nil => cases h
  | cons p ps ih =>
    rcases List.mem_append.mp h with h | h
    · obtain ⟨s, _, rfl⟩ := List.mem_map.mp h
      rfl
    · exact ih h

theorem toTable_eq {t : Touch} (h : t.IsWhole) : t.toTable =
    if t.FitsWords then .ok ⟨6, rowsFrom 0 t.fingers, fun _ => length_of_mem_rowsFrom⟩
    else .error .overflow := by
  have hEach : ∀ q ∈ t.fingers.zipIdx, q.1.segments.mapM (row q.2) =
      if q.1.FitsWords then .ok (q.1.rows q.2) else .error .overflow := fun q hq =>
    (h q.1 (List.fst_mem_of_mem_zipIdx hq)).mapM_row q.2
  have hFits : (∀ q ∈ t.fingers.zipIdx, q.1.FitsWords) ↔ t.FitsWords := by
    rw [FitsWords, ← List.forall_mem_map, List.zipIdx_map_fst]
  rw [toTable, mapM_eq_ite hEach]
  simp only [hFits]
  split
  · rw [ok_bind, flatten_rows, Table.ofRowsOr_eq]
  · rfl

def fingerOf (r : List Int) : Int := r.headD 0

theorem fingerOf_rows {p : Path} {i : Nat} {r : List Int} (h : r ∈ p.rows i) : fingerOf r = i := by
  obtain ⟨s, _, rfl⟩ := List.mem_map.mp h
  rfl

theorem first_le_fingerOf {first : Nat} {fingers : List Path} {r : List Int}
    (h : r ∈ rowsFrom first fingers) : first ≤ fingerOf r := by
  induction fingers generalizing first with
  | nil => cases h
  | cons p ps ih =>
    rcases List.mem_append.mp h with h | h
    · exact (fingerOf_rows h).ge
    · have hNext := ih h
      omega

theorem length_rowsFrom (first : Nat) (fingers : List Path) :
    (rowsFrom first fingers).length = (fingers.map (·.segments.length)).sum := by
  induction fingers generalizing first with
  | nil => rfl
  | cons p ps ih =>
    rw [rowsFrom, List.length_append, ih, Path.rows, List.length_map, List.map_cons, List.sum_cons]

theorem ascending_rowsFrom (first : Nat) (fingers : List Path) :
    (rowsFrom first fingers).Pairwise fun r r' => fingerOf r ≤ fingerOf r' := by
  induction fingers generalizing first with
  | nil => exact .nil
  | cons p ps ih =>
    rw [rowsFrom, List.pairwise_append]
    refine ⟨?_, ih (first + 1), ?_⟩
    · refine List.pairwise_of_forall_mem_list fun r hr r' hr' => ?_
      rw [fingerOf_rows hr, fingerOf_rows hr']
    · intro r hr r' hr'
      have hNext := first_le_fingerOf hr'
      rw [fingerOf_rows hr]
      omega

theorem filter_eq_nil_of_lt {i : Nat} {rows : List (List Int)} (h : ∀ r ∈ rows, i < fingerOf r) :
    rows.filter (fingerOf · = i) = [] := by
  rw [List.filter_eq_nil_iff]
  intro r hr hEq
  exact (h r hr).ne' (of_decide_eq_true hEq)

theorem filter_rows (p : Path) (i j : Nat) :
    (p.rows i).filter (fingerOf · = j) = if i = j then p.rows i else [] := by
  have hNumber : ∀ r ∈ p.rows i, decide (fingerOf r = j) = decide (i = j) := fun r hr =>
    decide_eq_decide.mpr (by rw [fingerOf_rows hr, Int.ofNat_inj])
  rw [List.filter_congr hNumber]
  split
  · rename_i hSame
    rw [decide_eq_true hSame, List.filter_true]
  · rename_i hOther
    rw [decide_eq_false hOther, List.filter_false]

/-- Rows of one number are those of one finger: of the first one, which has only higher numbers
behind it, or of one behind it. -/
theorem filter_rowsFrom {first i : Nat} {fingers : List Path} {p : Path}
    (h : fingers[i]? = some p) :
    (rowsFrom first fingers).filter (fingerOf · = (first + i : Nat)) = p.rows (first + i) := by
  induction fingers generalizing first i with
  | nil => cases h
  | cons q qs ih =>
    rw [rowsFrom, List.filter_append, filter_rows]
    cases i with
    | zero =>
      cases Option.some.inj h
      have hBehind : ∀ r ∈ rowsFrom (first + 1) qs, (first : Int) < fingerOf r := fun r hr => by
        have hNext := first_le_fingerOf hr
        omega
      rw [Nat.add_zero, if_pos rfl, filter_eq_nil_of_lt hBehind, List.append_nil]
    | succ i =>
      have hPlace : first + (i + 1) = first + 1 + i := by omega
      rw [if_neg (by omega), List.nil_append, hPlace]
      exact ih h

/-- A touch has a table exactly when all that it holds fits a word. The table has a row for each
segment, and the rows that bear the number of a finger are the segments of that finger. -/
theorem toTable_groups {t : Touch} (hWhole : t.IsWhole) :
    ((∃ table, t.toTable = .ok table) ↔ t.FitsWords) ∧
    (¬ t.FitsWords → t.toTable = .error .overflow) ∧
    (∀ table, t.toTable = .ok table →
      table.shape = ((t.fingers.map (·.segments.length)).sum, 6) ∧
      (table.rows.Pairwise fun r r' => fingerOf r ≤ fingerOf r') ∧
      ∀ (i : Nat) p, t.fingers[i]? = some p → table.rows.filter (fingerOf · = i) = p.rows i) ∧
    ((∀ p ∈ t.fingers, p.segments = []) → t.toTable = .ok (.blank 6)) := by
  rw [toTable_eq hWhole]
  refine ⟨?_, fun hNot => if_neg hNot, ?_, ?_⟩
  · split
    · rename_i hFits
      exact ⟨fun _ => hFits, fun _ => ⟨_, rfl⟩⟩
    · rename_i hNot
      exact ⟨nofun, fun hFits => absurd hFits hNot⟩
  · intro table hTable
    split at hTable
    · cases hTable
      refine ⟨?_, ascending_rowsFrom 0 t.fingers, ?_⟩
      · rw [Table.shape, length_rowsFrom]
      · intro i p hp
        rw [← Nat.zero_add i]
        exact filter_rowsFrom hp
    · cases hTable
  · intro hEmpty
    have hFits : t.FitsWords := by
      intro p hp s hs
      rw [hEmpty p hp] at hs
      cases hs
    have hNone : rowsFrom 0 t.fingers = [] := by
      rw [← List.length_eq_zero_iff, length_rowsFrom, List.sum_eq_zero_iff]
      intro n hn
      obtain ⟨p, hp, rfl⟩ := List.mem_map.mp hn
      rw [hEmpty p hp, List.length_nil]
    rw [if_pos hFits]
    simp only [hNone]
    rfl

/-- A finger without segments before one that goes from end to end of the words, and one that goes
past it. -/
theorem toTable_groups_limits :
    ∃ across past, across = Segment.mk ⟨-2 ^ 63, 0⟩ ⟨2 ^ 63 - 1, 0⟩ (.int 40) ∧
      past = Segment.mk ⟨0, 0⟩ ⟨0, 2 ^ 63⟩ (.int 40) ∧
      (∃ table, toTable ⟨[⟨.int 0, true, []⟩, ⟨.int 0, true, [across]⟩]⟩ = .ok table ∧
        table.shape = (1, 6) ∧
        table.rows.filter (fingerOf · = 1) = [[1, -2 ^ 63, 0, 2 ^ 63 - 1, 0, 40]]) ∧
      toTable ⟨[⟨.int 0, true, [past]⟩]⟩ = .error .overflow := by
  have hWhole : ∀ s : Segment, s.IsWhole → IsWhole ⟨[⟨.int 0, true, []⟩, ⟨.int 0, true, [s]⟩]⟩ ∧
      IsWhole ⟨[⟨.int 0, true, [s]⟩]⟩ := by
    intro s hs
    simp [IsWhole, Path.IsWhole, hs]
  refine ⟨_, _, rfl, rfl, ?_, ?_⟩
  · obtain ⟨hOk, _, hGroups, _⟩ :=
      toTable_groups (hWhole ⟨⟨-2 ^ 63, 0⟩, ⟨2 ^ 63 - 1, 0⟩, .int 40⟩ rfl).1
    obtain ⟨table, hTable⟩ := hOk.mpr (by decide)
    obtain ⟨hShape, _, hRows⟩ := hGroups table hTable
    exact ⟨table, hTable, hShape, hRows 1 _ rfl⟩
  · obtain ⟨_, hOverflow, _, _⟩ :=
      toTable_groups (hWhole ⟨⟨0, 0⟩, ⟨0, 2 ^ 63⟩, .int 40⟩ rfl).2
    exact hOverflow (by decide)

end Touch
end TouchPath
