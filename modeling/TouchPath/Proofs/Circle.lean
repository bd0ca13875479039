import TouchPath.Circle
import TouchPath.Proofs.Plan
import TouchPath.Proofs.Truncation

/-! # Clocks of circles

The samples of a circle are timed by rounded fractions of its total time. As rounding keeps their
order, the clock ascends when the total is not negative; when it is negative, the last sample is
earlier than the first. The total itself is exact up to 53 binary digits, and so are all times when
the total times the number of steps has no more digits (`circle_times`).
-/
namespace TouchPath
set_option autoImplicit false

namespace Circle

theorem stepCount_int {steps : Int} {n : Nat} (h : stepCount (.int steps) = .ok n) :
    0 < n ∧ (n : Int) = steps := by
  change (if steps ≤ 0 then fail (.stepCount (.int steps)) else .ok steps.toNat) = _ at h
  split at h
  · cases h
  · cases h
    omega

theorem progress_int {total elapsed : Int} {steps i : Nat} :
    progress (.int total) steps i = .ok elapsed ↔
      truncNearest? (total * i) steps = some elapsed := by
  unfold progress
  dsimp only
  split
  · rename_i n hTime
    rw [hTime, Except.ok.injEq, Option.some_inj]
  · rename_i hTime
    rw [hTime]
    exact ⟨nofun, nofun⟩

theorem sample_times {center : Point} {radius : Value} {start total : Int} {steps : Nat}
    {t : Timeline} (h : sample center radius (.int start) (.int total) steps = .ok t) :
    t.anchors.length = steps + 1 ∧ ∀ i (hi : i < t.anchors.length), ∃ elapsed : Int,
      truncNearest? (total * i) steps = some elapsed ∧
        t.anchors[i].time = .int (start + elapsed) := by
  simp only [sample, bind_eq_ok_iff] at h
  obtain ⟨_, _, _, _, _, _, _, _, anchors, hAnchors, h⟩ := h
  cases h
  have hSamples := List.forall₂_iff_get.mp (mapM_eq_ok_iff.mp hAnchors)
  have hSize : anchors.length = steps + 1 := by rw [← hSamples.1, List.length_range]
  refine ⟨hSize, fun i hi => ?_⟩
  change i < anchors.length at hi
  have hSample := hSamples.2 i (by omega) hi
  simp only [List.get_eq_getElem, List.getElem_range, bind_eq_ok_iff, Value.toNumber_int,
    Except.ok.injEq] at hSample
  obtain ⟨_, rfl, elapsed, hElapsed, _, rfl, time, hTime, hAnchor⟩ := hSample
  rw [Number.add_int] at hTime
  cases hTime
  refine ⟨elapsed, progress_int.mp hElapsed, ?_⟩
  exact congrArg Anchor.time (Except.ok.inj hAnchor).symm

theorem ends_of_length {α : Type} {xs : List α} {n : Nat} (hSize : xs.length = n + 1) :
    xs.head? = some xs[0] ∧ xs.getLast? = some xs[n] := by
  constructor
  · rw [List.head?_eq_getElem?, List.getElem?_eq_getElem]
  · have hIndex : xs.length - 1 = n := by omega
    rw [List.getLast?_eq_getElem?, hIndex, List.getElem?_eq_getElem]

end Circle

theorem fits_circle {center : Point} {radius : Value} {start total steps : Int} {t : Timeline}
    (h : circle center radius (.int start) (.int total) (.int steps) = .ok t) :
    ∃ n : Nat, (n : Int) = steps ∧ (Plan.mk 1 n total true).Fits t := by
  obtain ⟨n, hCount, hSample⟩ := bind_eq_ok_iff.mp h
  obtain ⟨hPos, hSteps⟩ := Circle.stepCount_int hCount
  obtain ⟨hSize, hTimes⟩ := Circle.sample_times hSample
  have hMillis (i : Nat) (hi : i < t.anchors.length) : ∃ elapsed : Int,
      truncNearest? (total * i) n = some elapsed ∧ t.anchors[i].millis = start + elapsed := by
    obtain ⟨elapsed, hElapsed, hTime⟩ := hTimes i hi
    exact ⟨elapsed, hElapsed, by rw [Anchor.millis, hTime]⟩
  obtain ⟨first, hFirst, hFirstTime⟩ := hMillis 0 (by omega)
  obtain ⟨last, hLast, hLastTime⟩ := hMillis n (by omega)
  rw [Int.natCast_zero, Int.mul_zero, truncNearest?_zero, Option.some_inj] at hFirst
  obtain ⟨hHead, hEnd⟩ := Circle.ends_of_length hSize
  have hAscends (hLength : 0 ≤ total) : Timeline.Ascends t.anchors := by
    rw [Timeline.Ascends, List.isChain_iff_getElem]
    intro i hi
    obtain ⟨e, he, hTime⟩ := hMillis i (by omega)
    obtain ⟨e', he', hTime'⟩ := hMillis (i + 1) hi
    have hLe : e ≤ e' := truncNearest?_mono hPos (Int.mul_nonneg hLength (by omega))
      (Int.mul_le_mul_of_nonneg_left (by omega) hLength) he he'
    omega
  refine ⟨n, hSteps, .of_ends ?_ hPos hSize hHead hEnd ?_ hAscends ?_⟩
  · intro a ha
    obtain ⟨i, hi, rfl⟩ := List.getElem_of_mem ha
    obtain ⟨_, _, hTime⟩ := hTimes i hi
    rw [hTime]
    rfl
  · constructor
    · -- of a negative total at least one millisecond is left at the last sample
      intro hLe
      by_contra hNegative
      have hBelow := truncNearest?_neg hPos (Int.not_le.mp hNegative) hLast
      omega
    · intro hLength
      exact (hAscends hLength).first_le_last hHead hEnd
  · intro hExact
    have hTotal : truncNearest? (total * n) n = some total := truncNearest?_mul hPos (hExact rfl)
    rw [hTotal, Option.some_inj] at hLast
    change t.anchors[n].millis - t.anchors[0].millis = total
    omega

/-- The time of a sample is its share of the total, cut toward zero, as if it were not rounded. -/
theorem circle_times {center : Point} {radius : Value} {start total : Int} {steps : Nat}
    {t : Timeline} (h : circle center radius (.int start) (.int total) (.int steps) = .ok t) :
    t.anchors.length = steps + 1 ∧
      (total.natAbs * steps ≤ 2 ^ 53 → ∀ i (hi : i < t.anchors.length),
        t.anchors[i].time = .int (start + (total * i).tdiv steps)) ∧
      (0 ≤ total → t.isMonotonic = true) ∧
      ∃ a b, t.first? = some a ∧ t.last? = some b ∧ a.time = .int start ∧
        (total.natAbs * steps ≤ 2 ^ 53 → b.time = .int (start + total)) ∧
        (total < 0 → b.time.lt a.time = true) := by
  obtain ⟨_, _, hFits⟩ := fits_circle h
  obtain ⟨n, hCount, hSample⟩ := bind_eq_ok_iff.mp h
  obtain ⟨hPos, hSame⟩ := Circle.stepCount_int hCount
  obtain ⟨hSize, hTimes⟩ := Circle.sample_times hSample
  cases Int.ofNat_inj.mp hSame
  have hExact (hBound : total.natAbs * steps ≤ 2 ^ 53) (i : Nat) (hi : i < t.anchors.length) :
      t.anchors[i].time = .int (start + (total * i).tdiv steps) := by
    obtain ⟨elapsed, hElapsed, hTime⟩ := hTimes i hi
    rw [truncNearest?_fraction hPos (by omega) hBound, Option.some_inj] at hElapsed
    rw [hTime, hElapsed]
  obtain ⟨hHead, hEnd⟩ := Circle.ends_of_length hSize
  obtain ⟨first, hFirst, hFirstTime⟩ := hTimes 0 (by omega)
  rw [Int.natCast_zero, Int.mul_zero, truncNearest?_zero, Option.some_inj] at hFirst
  rw [← hFirst, Int.add_zero] at hFirstTime
  refine ⟨hSize, hExact, ?_, _, _, hHead, hEnd, hFirstTime, ?_, ?_⟩
  · intro hTotal
    exact (Timeline.isMonotonic_iff_ascends hFits.whole).mpr (hFits.ascends.mpr hTotal)
  · intro hBound
    rw [hExact hBound steps (by omega), Int.mul_tdiv_cancel _ (by omega)]
  · intro hTotal
    obtain ⟨last, hLast, hLastTime⟩ := hTimes steps (by omega)
    have hBelow := truncNearest?_neg hPos hTotal hLast
    rw [hLastTime, hFirstTime, Number.lt_int, decide_eq_true_eq]
    omega

theorem circle_times_backwards :
    ∃ t a b, circle ⟨540, 960⟩ (.int 200) (.int 3) (.int (-1000)) (.int (7 : Nat)) = .ok t ∧
      t.anchors.length = 8 ∧
      (∀ i (hi : i < t.anchors.length), t.anchors[i].time = .int (3 + (-1000 * (i : Int)).tdiv 7)) ∧
      t.first? = some a ∧ t.last? = some b ∧ a.time = .int 3 ∧ b.time = .int (-997) ∧
      b.time.lt a.time = true := by
  have hReturns : (circle ⟨540, 960⟩ (.int 200) (.int 3) (.int (-1000))
      (.int (7 : Nat))).toOption.isSome = true := by decide +kernel
  obtain ⟨t, ht⟩ := Option.isSome_iff_exists.mp hReturns
  have hCircle := eq_ok_of_toOption ht
  obtain ⟨hSize, hExact, _, a, b, hFirst, hLast, hStart, hStop, hBack⟩ := circle_times hCircle
  exact ⟨t, a, b, hCircle, hSize, hExact (by decide), hFirst, hLast, hStart, hStop (by decide),
    hBack (by decide)⟩

end TouchPath
