import TouchPath.Gesture.Path
import TouchPath.Proofs.Traversal

/-! # Paths that hold together

A segment is appended when it takes some time or none and, on a checked path, starts where the last
one stopped (`Path.add_of_stopsAt`). A continuous path is a chain of segments, and a path of whole
milliseconds lasts as long as its segments together. A touch lasts until the latest of its fingers
ends, also when all of them end before the clock starts.
-/
namespace TouchPath
set_option autoImplicit false

theorem forall_neighbours_iff {α : Type} {R : α → α → Prop} {xs : List α} :
    (∀ p ∈ neighbours xs, R p.1 p.2) ↔ xs.IsChain R := by
  induction xs with
  | nil => simp
  | cons a xs ih =>
    cases xs with
    | nil => simp
    | cons b xs =>
      rw [neighbours_cons_cons, List.forall_mem_cons, List.isChain_cons_cons, ih]

namespace Number

theorem sum_from_int (ns : List Int) (n : Int) :
    (ns.map Number.int).foldlM add (int n) = .ok (int (n + ns.sum)) := by
  induction ns generalizing n with
  | nil => simp [pure, Except.pure]
  | cons m ns ih =>
    rw [List.map_cons, List.foldlM_cons, add_int]
    change (ns.map Number.int).foldlM add (int (n + m)) = _
    rw [ih, List.sum_cons, Int.add_assoc]

theorem sum_map_int (ns : List Int) : sum (ns.map Number.int) = .ok (int ns.sum) := by
  rw [sum, sum_from_int, Int.zero_add]

end Number

namespace Path

/-- A path stops at a point when it is empty or its last segment does. -/
def StopsAt (p : Path) (q : Point) : Prop :=
  ∀ last, p.segments.getLast? = some last → last.stop = q

theorem empty_stopsAt (offset : Value) (checked : Bool) (q : Point) :
    (empty offset checked).StopsAt q := nofun

def append (p : Path) (s : Segment) : Path := { p with segments := p.segments ++ [s] }

@[simp] theorem append_segments (p : Path) (s : Segment) :
    (p.append s).segments = p.segments ++ [s] := rfl

theorem append_stopsAt (p : Path) (s : Segment) : (p.append s).StopsAt s.stop := by
  intro last hLast
  rw [append_segments, List.getLast?_concat] at hLast
  cases hLast
  rfl

theorem add_of_stopsAt {p : Path} {s : Segment} (hTime : s.time.lt (0 : Int) = false)
    (h : p.checked = true → p.StopsAt s.start) : p.add s = .ok (p.append s) := by
  rw [add, if_neg (by rw [hTime]; exact Bool.false_ne_true)]
  split
  · rename_i last hLast
    rw [if_neg]
    · rfl
    · intro hGap
      rw [Bool.and_eq_true, bne_iff_ne] at hGap
      exact hGap.2 (h hGap.1 last hLast)
  · rfl

theorem isContinuous_iff_isChain (p : Path) :
    p.isContinuous = true ↔ p.segments.IsChain fun s t => s.stop = t.start := by
  rw [isContinuous_iff, forall_neighbours_iff (R := fun s t : Segment => s.stop = t.start)]

theorem duration_eq_sum {p : Path} {times : List Int}
    (h : p.segments.map (·.time) = times.map Number.int) : p.duration = .ok times.sum := by
  rw [duration, h, Number.sum_map_int]

theorem endTime_eq_add {p : Path} {offset : Int} {times : List Int}
    (hOffset : p.offset = .int offset) (h : p.segments.map (·.time) = times.map Number.int) :
    p.endTime = .ok ((offset + times.sum : Int) : Number) := by
  rw [endTime, duration_eq_sum h, hOffset]
  rfl

end Path

namespace Touch

/-- The fingers of a touch end at whole milliseconds, which are listed in their order. -/
def EndsAt (t : Touch) (ends : List Int) : Prop :=
  List.Forall₂ (fun p n => p.endTime = .ok (.int n)) t.fingers ends

theorem exists_endsAt {t : Touch} (h : ∀ p ∈ t.fingers, ∃ n : Int, p.endTime = .ok (.int n)) :
    ∃ ends, t.EndsAt ends := by
  choose! millis hMillis using h
  exact ⟨t.fingers.map millis,
    List.forall₂_map_right_iff.mpr (List.forall₂_same.mpr hMillis)⟩

theorem foldl_laterOf_int (ends : List Int) (m : Option Int) :
    (ends.map Number.int).foldl laterOf (m.map Number.int) =
      (m.toList ++ ends).max?.map Number.int := by
  induction ends generalizing m with
  | nil => cases m <;> rfl
  | cons e ends ih =>
    rw [List.map_cons, List.foldl_cons]
    cases m with
    | none => exact ih (some e)
    | some m =>
      rw [Option.map_some, laterOf, Number.max_int]
      exact ih (some (max m e))

theorem EndsAt.duration {t : Touch} {ends : List Int} (h : t.EndsAt ends) :
    t.duration = .ok (.int (ends.max?.getD 0)) := by
  have hEnds : t.fingers.mapM Path.endTime = .ok (ends.map Number.int) := by
    rw [mapM_eq_ok_iff, List.forall₂_map_right_iff]
    exact h
  have hLatest : (ends.map Number.int).foldl laterOf none = ends.max?.map Number.int :=
    foldl_laterOf_int ends none
  rw [Touch.duration, hEnds, ok_bind, hLatest]
  cases ends.max? <;> rfl

theorem EndsAt.append {t u : Touch} {ends ends' : List Int} (h : t.EndsAt ends)
    (h' : u.EndsAt ends') : EndsAt ⟨t.fingers ++ u.fingers⟩ (ends ++ ends') :=
  List.rel_append h h'

theorem max?_append {xs ys : List Int} {m n : Int} (hm : xs.max? = some m)
    (hn : ys.max? = some n) : (xs ++ ys).max? = some (max m n) := by
  rw [List.max?_eq_some_iff] at hm hn ⊢
  obtain ⟨hMem, hAll⟩ := hm
  obtain ⟨hMem', hAll'⟩ := hn
  constructor
  · rcases max_choice m n with hMax | hMax <;> rw [hMax]
    · exact List.mem_append_left _ hMem
    · exact List.mem_append_right _ hMem'
  · intro k hk
    rcases List.mem_append.mp hk with hk | hk
    · exact (hAll k hk).trans (le_max_left m n)
    · exact (hAll' k hk).trans (le_max_right m n)

/-- Two touches with fingers last together until the later of them ends. -/
theorem EndsAt.duration_append {t u : Touch} {ends ends' : List Int} (h : t.EndsAt ends)
    (h' : u.EndsAt ends') (hFingers : t.fingers ≠ []) (hFingers' : u.fingers ≠ []) :
    ∃ m n : Int, t.duration = .ok (.int m) ∧ u.duration = .ok (.int n) ∧
      Touch.duration ⟨t.fingers ++ u.fingers⟩ = .ok (.int (max m n)) := by
  have hLatest {v : Touch} {times : List Int} (hEnds : v.EndsAt times) (hv : v.fingers ≠ []) :
      ∃ m, times.max? = some m := by
    rw [← Option.ne_none_iff_exists', ne_eq, List.max?_eq_none_iff]
    rintro rfl
    exact hv (List.forall₂_nil_right_iff.mp hEnds)
  obtain ⟨m, hm⟩ := hLatest h hFingers
  obtain ⟨n, hn⟩ := hLatest h' hFingers'
  have hFirst := h.duration
  have hSecond := h'.duration
  have hBoth := (h.append h').duration
  rw [hm] at hFirst
  rw [hn] at hSecond
  rw [max?_append hm hn] at hBoth
  exact ⟨m, n, hFirst, hSecond, hBoth⟩

end Touch
end TouchPath
