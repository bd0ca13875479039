import TouchPath.Proofs.Plan
import TouchPath.Shape

/-! # Clocks of common touches

Taps, swipes and pinches are drags, each with one leg that lasts as long as it is asked to.
-/
namespace TouchPath
set_option autoImplicit false

theorem Number.exists_zero_add (a : Number) : ∃ b, Number.add (0 : Int) a = .ok b := by
  cases a with
  | int n => exact ⟨_, rfl⟩
  | float x =>
    have hZero : (Float.ofInt 0).isInf = false := by decide +kernel
    refine ⟨.float (Float.ofInt 0 + x), ?_⟩
    simp [Number.add, Number.toFloat, intToFloat, hZero]

variable {fingers : Nat} {duration : Int}

theorem fits_drag {start stop : Position} {startTime : Int} {t : Timeline}
    (h : drag start stop duration startTime = .ok t) :
    (Plan.mk fingers 1 duration false).Fits t := by
  have hTime : startTime ≤ startTime + duration ↔ 0 ≤ duration := by omega
  cases h
  refine .of_ends ?_ Nat.one_pos rfl rfl rfl hTime ?_ ?_
  · rw [List.forall_mem_cons, List.forall_mem_singleton]
    exact ⟨rfl, rfl⟩
  · intro hLength
    rw [Timeline.Ascends, List.isChain_cons_cons]
    exact ⟨hTime.mpr hLength, List.isChain_singleton _⟩
  · intro _
    change startTime + duration - startTime = duration
    omega

theorem fits_pair {t u : Timeline} (ht : (Plan.mk fingers 1 duration false).Fits t)
    (hu : (Plan.mk fingers 1 duration false).Fits u) :
    [t, u].length = 2 ∧ ∀ v ∈ [t, u], (Plan.mk fingers 1 duration false).Fits v := by
  rw [List.forall_mem_cons, List.forall_mem_singleton]
  exact ⟨rfl, ht, hu⟩

theorem fits_doubleTap {p : Point} {interval hold : Int} {ts : List Timeline}
    (h : doubleTap p interval hold = .ok ts) :
    ts.length = 2 ∧ ∀ t ∈ ts, (Plan.mk 2 1 hold false).Fits t := by
  simp only [doubleTap, bind_eq_ok_iff] at h
  obtain ⟨first, hFirst, second, hSecond, h⟩ := h
  cases h
  exact fits_pair (fits_drag hFirst) (fits_drag hSecond)

theorem fits_swipe {p : Point} {direction : Direction} {width height : Int} {distance : Value}
    {t : Timeline} (h : swipe p direction width height distance (.int duration) = .ok t) :
    (Plan.mk fingers 1 duration false).Fits t := by
  simp only [swipe, bind_eq_ok_iff] at h
  obtain ⟨_, _, stop, _, time, hTime, h⟩ := h
  cases hTime
  exact fits_drag h

theorem fits_pinchIn {b : Bounds} {denominator : Number} {ts : List Timeline}
    (h : pinchIn b duration denominator = .ok ts) :
    ts.length = 2 ∧ ∀ t ∈ ts, (Plan.mk 2 1 duration false).Fits t := by
  simp only [pinchIn, bind_eq_ok_iff] at h
  obtain ⟨_, _, _, _, _, _, _, _, _, _, _, _, first, hFirst, second, hSecond, h⟩ := h
  cases h
  exact fits_pair (fits_drag hFirst) (fits_drag hSecond)

theorem fits_pinchOut {b : Bounds} {ts : List Timeline} (h : pinchOut b duration = .ok ts) :
    ts.length = 2 ∧ ∀ t ∈ ts, (Plan.mk 2 1 duration false).Fits t := by
  simp only [pinchOut, bind_eq_ok_iff] at h
  obtain ⟨first, hFirst, second, hSecond, h⟩ := h
  cases h
  exact fits_pair (fits_drag hFirst) (fits_drag hSecond)

end TouchPath
