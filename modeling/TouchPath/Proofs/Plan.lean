import TouchPath.Proofs.Compile

/-! # Plans

A plan says what the fingers of a shape are to do, all alike. A timeline fits a plan when its clock
is whole and runs backwards exactly for a negative length; then it compiles exactly for the other
lengths, to a path that keeps the plan.
-/
namespace TouchPath
set_option autoImplicit false

/-- The number of fingers, and for each of them its legs and its milliseconds in all. Times that go
through floats are exact up to 53 binary digits. -/
structure Plan where
  fingers : Nat
  legs : Nat
  length : Int
  rounded : Bool

namespace Timeline

theorem Ascends.first_le_last {anchors : List Anchor} {a b : Anchor} (h : Ascends anchors)
    (hFirst : anchors.head? = some a) (hLast : anchors.getLast? = some b) :
    a.millis ≤ b.millis := by
  obtain ⟨rest, rfl⟩ := List.head?_eq_some_iff.mp hFirst
  rw [List.getLast?_eq_some_getLast (List.cons_ne_nil a rest), Option.some_inj] at hLast
  have hSum := sum_elapsedTimes a rest
  have hNonneg := List.sum_nonneg fun n hn => nonneg_of_mem_elapsedTimes h hn
  rw [hLast] at hSum
  omega

end Timeline

namespace Plan

structure Fits (plan : Plan) (t : Timeline) : Prop where
  whole : ∀ a ∈ t.anchors, a.time.isInt = true
  legs_pos : 0 < plan.legs
  size : t.size = plan.legs + 1
  ascends : Timeline.Ascends t.anchors ↔ 0 ≤ plan.length
  elapsed : (plan.rounded = true → plan.length.natAbs ≤ 2 ^ 53) →
    ∀ a ∈ t.first?, ∀ b ∈ t.last?, b.millis - a.millis = plan.length

structure Keeps (plan : Plan) (p : Path) : Prop where
  legs : p.segments.length = plan.legs
  continuous : p.isContinuous = true
  nonneg : ∀ s ∈ p.segments, ∃ n : Int, s.time = .int n ∧ 0 ≤ n
  duration : (plan.rounded = true → plan.length ≤ 2 ^ 53) → p.duration = .ok (.int plan.length)
  endTime : ∃ n : Int, p.endTime = .ok (.int n)

variable {plan : Plan} {t : Timeline}

/-- A clock that ascends wherever its length allows it. -/
theorem Fits.of_ends {a b : Anchor} (hWhole : ∀ c ∈ t.anchors, c.time.isInt = true)
    (hLegs : 0 < plan.legs) (hSize : t.anchors.length = plan.legs + 1)
    (hFirst : t.anchors.head? = some a) (hLast : t.anchors.getLast? = some b)
    (hLength : a.millis ≤ b.millis ↔ 0 ≤ plan.length)
    (hAscends : 0 ≤ plan.length → Timeline.Ascends t.anchors)
    (hElapsed : (plan.rounded = true → plan.length.natAbs ≤ 2 ^ 53) →
      b.millis - a.millis = plan.length) : plan.Fits t where
  whole := hWhole
  legs_pos := hLegs
  size := hSize
  ascends := ⟨fun h => hLength.mp (h.first_le_last hFirst hLast), hAscends⟩
  elapsed := by
    intro hExact c hc d hd
    cases hFirst.symm.trans hc
    cases hLast.symm.trans hd
    exact hElapsed hExact

theorem Fits.isSound (hFits : plan.Fits t)
    (hFinite : ∀ a ∈ t.anchors, a.x.IsFinite ∧ a.y.IsFinite) : t.IsSound :=
  fun a ha => ⟨(hFinite a ha).1, (hFinite a ha).2, hFits.whole a ha⟩

theorem Fits.anchors_eq_cons (hFits : plan.Fits t) : ∃ a rest, t.anchors = a :: rest :=
  List.exists_cons_of_length_pos (by have := hFits.size; rw [Timeline.size] at this; omega)

theorem Fits.compile_keeps (hFits : plan.Fits t)
    (hFinite : ∀ a ∈ t.anchors, a.x.IsFinite ∧ a.y.IsFinite) (hLength : 0 ≤ plan.length)
    (checked : Bool) : ∃ p, t.compile checked = .ok p ∧ plan.Keeps p := by
  have hSound := hFits.isSound hFinite
  obtain ⟨a, rest, hAnchors⟩ := hFits.anchors_eq_cons
  obtain ⟨anchors⟩ := t
  cases hAnchors
  have hAscends := hFits.ascends.mpr hLength
  have hFollows := Timeline.follows_segmentsOf hSound hAscends checked
  refine ⟨_, Timeline.compile_cons_of_ascends hSound hAscends checked, ?_, hFollows.continuous,
    hFollows.nonneg, ?_, ?_⟩
  · have hSize := hFits.size
    have hLegs := hFits.legs_pos
    rw [(hFollows.legs (by omega)).1]
    omega
  · intro hExact
    have hElapsed := hFits.elapsed (fun h => by have := hExact h; omega) a rfl _
      (List.getLast?_eq_some_getLast (List.cons_ne_nil a rest))
    rw [Path.duration_eq_sum (Timeline.time_segmentsOf _), Timeline.sum_elapsedTimes, hElapsed]
  · obtain ⟨b, hLast, hEnd⟩ := hFollows.endTime
    exact ⟨b.millis, by rw [hEnd, (hSound b (List.mem_of_getLast? hLast)).time_eq]⟩

theorem Fits.compile_backwards (hFits : plan.Fits t)
    (hFinite : ∀ a ∈ t.anchors, a.x.IsFinite ∧ a.y.IsFinite) (hLength : plan.length < 0) :
    ∃ i a b, t.FirstBackstep i a b ∧
      ∀ checked, t.compile checked = fail (.clockBackwards (i + 1) b.time a.time) := by
  have hSound := hFits.isSound hFinite
  obtain ⟨a, rest, hAnchors⟩ := hFits.anchors_eq_cons
  obtain ⟨anchors⟩ := t
  cases hAnchors
  exact Timeline.compile_cons_of_not_ascends hSound
    fun h => absurd (hFits.ascends.mp h) (Int.not_le.mpr hLength)

end Plan
end TouchPath
