import TouchPath.Proofs.Bisection

/-! # The pace of an arc

Each time of an arc is the mean of two others, cut toward zero, so every pass may be off by half a
millisecond. The errors do not add up: a gap is a share of the time of its arc, up to less than a
millisecond (`Arc.IsShare`), and a share of a half is a share of the whole (`IsShare.double`). So
the gaps of a curve are all one of two neighbouring integers (`curve_paced`), also where the clock
changes its sign and the means are cut upward.
-/
namespace TouchPath
set_option autoImplicit false

namespace Arc

/-- A gap that is one of equal parts of a length, up to less than a unit. -/
structure IsShare (parts length gap : Int) : Prop where
  lower : parts * (gap - 1) < length
  upper : length < parts * (gap + 1)

theorem isShare_self (length : Int) : IsShare 1 length length := by
  constructor <;> omega

theorem IsShare.double {parts half length gap : Int} (h : IsShare parts half gap)
    (hLower : length - 1 ≤ 2 * half) (hUpper : 2 * half ≤ length + 1) :
    IsShare (2 * parts) length gap := by
  obtain ⟨hBelow, hAbove⟩ := h
  constructor
  · rw [Int.mul_assoc]
    omega
  · rw [Int.mul_assoc]
    omega

theorem IsShare.eq_floor_or_ceil {parts : Nat} {length gap : Int} (hParts : 0 < parts)
    (h : IsShare parts length gap) :
    gap = ⌊(length : ℚ) / parts⌋ ∨ gap = ⌈(length : ℚ) / parts⌉ := by
  have hPos : (0 : ℚ) < parts := by exact_mod_cast hParts
  have hBelow : (gap : ℚ) - 1 < length / parts := by
    rw [lt_div_iff₀ hPos, mul_comm]
    exact_mod_cast h.lower
  have hAbove : (length : ℚ) / parts < gap + 1 := by
    rw [div_lt_iff₀ hPos, mul_comm]
    exact_mod_cast h.upper
  rcases le_total (gap : ℚ) (length / parts) with hLe | hLe
  · left
    exact (Int.floor_eq_iff.mpr ⟨hLe, hAbove⟩).symm
  · right
    exact (Int.ceil_eq_iff.mpr ⟨hBelow, hLe⟩).symm

/-- The anchors of `2 ^ n` legs between two times: none is outside, and no leg takes more than its
share. -/
structure Paced (n : Nat) (first last : Int) (anchors : List Anchor) : Prop where
  between : ∀ c ∈ anchors, min first last ≤ c.millis ∧ c.millis ≤ max first last
  shares : anchors.IsChain fun c d => IsShare (2 ^ n) (last - first) (d.millis - c.millis)

theorem paced_pair {a b : Anchor} : Paced 0 a.millis b.millis [a, b] where
  between := by
    rw [List.forall_mem_cons, List.forall_mem_singleton]
    omega
  shares := by
    rw [List.isChain_cons_cons]
    exact ⟨isShare_self _, List.isChain_singleton b⟩

theorem Paced.join {n : Nat} {first last : Int} {front rest : List Anchor} {m : Anchor}
    (hTime : m.millis = (first + last).tdiv 2) (hLeft : Paced n first m.millis (front ++ [m]))
    (hRight : Paced n m.millis last (m :: rest)) :
    Paced (n + 1) first last (front ++ m :: rest) where
  between := by
    have hNear := mean_near first last
    rw [← hTime] at hNear
    intro c hc
    rcases List.mem_append.mp hc with hc | hc
    · have hBetween := hLeft.between c (List.mem_append_left [m] hc)
      omega
    · have hBetween := hRight.between c hc
      omega
  shares := by
    have hNear := mean_near first last
    rw [← hTime] at hNear
    rw [Int.pow_succ, Int.mul_comm, List.isChain_split]
    constructor
    · exact hLeft.shares.imp fun c d h => h.double (by omega) (by omega)
    · exact hRight.shares.imp fun c d h => h.double (by omega) (by omega)

section

variable {θ : Type} {middle : θ → Anchor → Anchor → Except Fault Anchor} {halve : θ → θ}

/-- A midpoint whose time is the mean of its neighbours' times. -/
def KeepsMean (middle : θ → Anchor → Anchor → Except Fault Anchor) : Prop :=
  ∀ t a b m (x y : Int), a.time = .int x → b.time = .int y → middle t a b = .ok m →
    m.time = .int ((x + y).tdiv 2)

theorem paced_bisect (hMiddle : KeepsMean middle) {n : Nat} {angle : θ} {a b : Anchor}
    {first last : Int} {anchors : List Anchor} (ha : a.time = .int first) (hb : b.time = .int last)
    (h : Bisection.bisect middle halve n angle a b = .ok anchors) :
    Paced n first last anchors := by
  induction n generalizing angle a b first last anchors with
  | zero =>
    cases h
    rw [← Anchor.millis_of_time ha, ← Anchor.millis_of_time hb]
    exact paced_pair
  | succ n ih =>
    obtain ⟨m, left, right, hm, hLeft, hRight, rfl⟩ := Bisection.bisect_succ_eq_ok_iff.mp h
    have hTime := hMiddle angle a b m first last ha hb hm
    have hMillis := Anchor.millis_of_time hTime
    obtain ⟨front, rfl⟩ := List.getLast?_eq_some_iff.mp (Bisection.getLast?_bisect hLeft)
    obtain ⟨rest, rfl⟩ := List.head?_eq_some_iff.mp (Bisection.head?_bisect hRight)
    have hBefore := ih ha hTime hLeft
    have hAfter := ih hTime hb hRight
    rw [← hMillis] at hBefore hAfter
    rw [List.tail_cons, ← List.append_cons]
    exact hBefore.join hMillis hAfter

theorem time_halfway (hMiddle : KeepsMean middle) {n : Nat} {angle : θ} {a b : Anchor}
    {first last : Int} {anchors : List Anchor} (ha : a.time = .int first) (hb : b.time = .int last)
    (h : Bisection.bisect middle halve (n + 1) angle a b = .ok anchors) :
    ∃ m, anchors[2 ^ n]? = some m ∧ m.time = .int ((first + last).tdiv 2) := by
  obtain ⟨m, hm, _, hRight⟩ := Bisection.bisect_succ_halves.mp h
  refine ⟨m, ?_, hMiddle angle a b m first last ha hb hm⟩
  rw [← List.head?_drop]
  exact Bisection.head?_bisect hRight

end

theorem keepsMean_midpoint (positive : Bool) :
    KeepsMean fun d : Float => midpoint (.float d) positive := by
  intro d a b m x y ha hb hm
  exact time_midpoint_of_int ha hb hm

end Arc

/-- The legs of a curve all take the same time, up to a millisecond. -/
theorem curve_paced {start stop : Anchor} {first last : Int} {degrees : Value} {positive : Bool}
    {t : Timeline} (hStart : start.time = .int first) (hStop : stop.time = .int last)
    (h : curve start stop degrees positive = .ok t) :
    (neighbours t.anchors).length = 32 ∧
      (∀ leg ∈ neighbours t.anchors,
        leg.2.millis - leg.1.millis = ⌊((last - first : Int) : ℚ) / 32⌋ ∨
          leg.2.millis - leg.1.millis = ⌈((last - first : Int) : ℚ) / 32⌉) ∧
      ((neighbours t.anchors).map fun leg => leg.2.millis - leg.1.millis).sum = last - first ∧
      (t.isMonotonic = true ↔ 0 ≤ last - first) ∧
      (∀ a ∈ t.anchors, a.time = .int a.millis ∧
        min first last ≤ a.millis ∧ a.millis ≤ max first last) ∧
      ∃ a, t.anchors[16]? = some a ∧ a.time = .int ((first + last).tdiv 2) := by
  obtain ⟨x, hBisect⟩ := bisect_of_curve h
  have hPaced := Arc.paced_bisect (Arc.keepsMean_midpoint positive) hStart hStop hBisect
  have hFits := fits_curve (by rw [hStart]; rfl) (by rw [hStop]; rfl) h
  have hSize := Bisection.length_bisect hBisect
  obtain ⟨rest, hAnchors⟩ := List.head?_eq_some_iff.mp (Bisection.head?_bisect hBisect)
  refine ⟨?_, ?_, ?_, ?_, ?_,
    Arc.time_halfway (Arc.keepsMean_midpoint positive) hStart hStop hBisect⟩
  · rw [length_neighbours, hSize]
    rfl
  · intro leg hLeg
    have hShare := forall_neighbours_iff.mpr hPaced.shares leg hLeg
    have hLegs : (0 : Nat) < 32 := by decide
    exact Arc.IsShare.eq_floor_or_ceil hLegs hShare
  · have hLast := Bisection.getLast?_bisect hBisect
    rw [hAnchors, List.getLast?_eq_some_getLast (List.cons_ne_nil start rest),
      Option.some_inj] at hLast
    rw [hAnchors, Timeline.sum_elapsed, hLast, Anchor.millis_of_time hStart,
      Anchor.millis_of_time hStop]
  · rw [Timeline.isMonotonic_iff_ascends hFits.whole, hFits.ascends,
      Anchor.millis_of_time hStart, Anchor.millis_of_time hStop]
  · intro a ha
    exact ⟨Anchor.time_eq_of_isInt (hFits.whole a ha), hPaced.between a ha⟩

theorem curve_paced_through_zero :
    ∃ t a, curve ⟨.int 4, .int 9, .int (-7)⟩ ⟨.int 4, .int 9, .int 30⟩ (.int 180) true = .ok t ∧
      (∀ leg ∈ neighbours t.anchors,
        leg.2.millis - leg.1.millis = 1 ∨ leg.2.millis - leg.1.millis = 2) ∧
      t.isMonotonic = true ∧ t.anchors[16]? = some a ∧ a.time = .int 11 := by
  have hReturns : (curve ⟨.int 4, .int 9, .int (-7)⟩ ⟨.int 4, .int 9, .int 30⟩ (.int 180)
      true).toOption.isSome = true := by decide +kernel
  obtain ⟨t, ht⟩ := Option.isSome_iff_exists.mp hReturns
  have hCurve := eq_ok_of_toOption ht
  have hFirst : (Anchor.mk (.int 4) (.int 9) (.int (-7))).time = .int (-7) := rfl
  have hLast : (Anchor.mk (.int 4) (.int 9) (.int 30)).time = .int 30 := rfl
  obtain ⟨_, hGaps, _, hMonotonic, _, a, ha, hHalfway⟩ := curve_paced hFirst hLast hCurve
  have hFloor : ⌊((30 - (-7) : Int) : ℚ) / 32⌋ = 1 := by norm_num
  have hCeil : ⌈((30 - (-7) : Int) : ℚ) / 32⌉ = 2 := by norm_num
  rw [hFloor, hCeil] at hGaps
  exact ⟨t, a, hCurve, hGaps, hMonotonic.mpr (by decide), ha, hHalfway⟩

end TouchPath
