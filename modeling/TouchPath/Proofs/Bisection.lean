import TouchPath.Proofs.Arc

/-! # Bisection by halves

A pass over a list that is cut at one of its points is a pass over both parts, and so are several
passes (`subdivide_join`). So the passes over two points give what the recursion into halves gives,
each half with the next angle (`subdivide_pair`). This holds for any midpoint, whichever of its
calls fail; the passes have a result exactly when no midpoint fails that the recursion asks for.
-/
namespace TouchPath
set_option autoImplicit false

namespace Bisection

variable {α θ ε : Type}

section

variable {middle : α → α → Except ε α}

theorem mediates_true (middle : α → α → Except ε α) :
    Mediates (fun _ => True) (fun _ _ => True) middle := by
  intro a b m _ _ _
  exact ⟨trivial, fun _ => ⟨trivial, trivial⟩⟩

theorem cons_of_refine {m : α} {as bs : List α} (h : refine middle (m :: as) = .ok bs) :
    ∃ rest, bs = m :: rest := by
  have hHead := (refines_refine (mediates_true middle) h).head
  rwa [List.head?_cons, List.head?_eq_some_iff] at hHead

theorem concat_of_refine {m : α} {as bs : List α} (h : refine middle (as ++ [m]) = .ok bs) :
    ∃ front, bs = front ++ [m] := by
  have hLast := (refines_refine (mediates_true middle) h).last
  rwa [List.getLast?_concat, List.getLast?_eq_some_iff] at hLast

/-- A pass over a list that is cut at a point, which both parts keep. -/
theorem refine_join {as bs cs : List α} {m : α} :
    refine middle (as ++ m :: bs) = .ok cs ↔ ∃ left right,
      refine middle (as ++ [m]) = .ok (left ++ [m]) ∧
        refine middle (m :: bs) = .ok (m :: right) ∧ cs = left ++ m :: right := by
  induction as generalizing cs with
  | nil =>
    constructor
    · intro h
      obtain ⟨right, rfl⟩ := cons_of_refine h
      exact ⟨[], right, rfl, h, rfl⟩
    · rintro ⟨left, right, hLeft, hRight, rfl⟩
      have hEmpty : left ++ [m] = [m] := (Except.ok.inj hLeft).symm
      rw [List.append_left_eq_self] at hEmpty
      rw [hEmpty]
      exact hRight
  | cons a as ih =>
    cases as with
    | nil =>
      constructor
      · intro h
        obtain ⟨x, tail, hx, hTail, rfl⟩ := refine_cons_cons_eq_ok_iff.mp h
        obtain ⟨right, rfl⟩ := cons_of_refine hTail
        exact ⟨[a, x], right, refine_cons_cons_eq_ok_iff.mpr ⟨x, [m], hx, rfl, rfl⟩, hTail, rfl⟩
      · rintro ⟨left, right, hLeft, hRight, rfl⟩
        obtain ⟨x, tail, hx, hTail, hEq⟩ := refine_cons_cons_eq_ok_iff.mp hLeft
        cases hTail
        have hFront : left = [a, x] := List.append_cancel_right hEq
        rw [hFront]
        exact refine_cons_cons_eq_ok_iff.mpr ⟨x, m :: right, hx, hRight, rfl⟩
    | cons b as =>
      constructor
      · intro h
        obtain ⟨x, tail, hx, hTail, rfl⟩ := refine_cons_cons_eq_ok_iff.mp h
        obtain ⟨left, right, hLeft, hRight, rfl⟩ := ih.mp hTail
        exact ⟨a :: x :: left, right,
          refine_cons_cons_eq_ok_iff.mpr ⟨x, left ++ [m], hx, hLeft, rfl⟩, hRight, rfl⟩
      · rintro ⟨left, right, hLeft, hRight, rfl⟩
        obtain ⟨x, tail, hx, hTail, hEq⟩ := refine_cons_cons_eq_ok_iff.mp hLeft
        obtain ⟨front, rfl⟩ : ∃ front, tail = front ++ [m] :=
          concat_of_refine (show refine middle ((b :: as) ++ [m]) = .ok tail from hTail)
        have hFront : left = a :: x :: front := List.append_cancel_right hEq
        rw [hFront]
        exact refine_cons_cons_eq_ok_iff.mpr
          ⟨x, front ++ m :: right, hx, ih.mpr ⟨front, right, hTail, hRight, rfl⟩, rfl⟩

end

section

variable {middle : θ → α → α → Except ε α} {halve : θ → θ}

theorem subdivide_succ_eq_ok_iff {n : Nat} {angle : θ} {as cs : List α} :
    subdivide middle halve (n + 1) angle as = .ok cs ↔
      ∃ bs, refine (middle angle) as = .ok bs ∧
        subdivide middle halve n (halve angle) bs = .ok cs :=
  bind_eq_ok_iff

theorem subdivide_join {n : Nat} {angle : θ} {as bs cs : List α} {m : α} :
    subdivide middle halve n angle (as ++ m :: bs) = .ok cs ↔ ∃ left right,
      subdivide middle halve n angle (as ++ [m]) = .ok (left ++ [m]) ∧
        subdivide middle halve n angle (m :: bs) = .ok (m :: right) ∧ cs = left ++ m :: right := by
  induction n generalizing angle as bs cs with
  | zero =>
    constructor
    · intro h
      exact ⟨as, bs, rfl, rfl, (Except.ok.inj h).symm⟩
    · rintro ⟨left, right, hLeft, hRight, rfl⟩
      have hFront : as = left := List.append_cancel_right (Except.ok.inj hLeft)
      cases hRight
      rw [hFront]
      rfl
  | succ n ih =>
    simp only [subdivide_succ_eq_ok_iff]
    constructor
    · rintro ⟨ds, hPass, hRest⟩
      obtain ⟨front, rest, hFront, hBack, rfl⟩ := refine_join.mp hPass
      obtain ⟨left, right, hLeft, hRight, rfl⟩ := ih.mp hRest
      exact ⟨left, right, ⟨_, hFront, hLeft⟩, ⟨_, hBack, hRight⟩, rfl⟩
    · rintro ⟨left, right, ⟨fs, hFront, hLeft⟩, ⟨gs, hBack, hRight⟩, rfl⟩
      obtain ⟨front, rfl⟩ := concat_of_refine hFront
      obtain ⟨rest, rfl⟩ := cons_of_refine hBack
      exact ⟨front ++ m :: rest, refine_join.mpr ⟨front, rest, hFront, hBack, rfl⟩,
        ih.mpr ⟨left, right, hLeft, hRight, rfl⟩⟩

theorem bisect_succ_eq_ok_iff {n : Nat} {angle : θ} {a b : α} {as : List α} :
    bisect middle halve (n + 1) angle a b = .ok as ↔ ∃ m left right, middle angle a b = .ok m ∧
      bisect middle halve n (halve angle) a m = .ok left ∧
        bisect middle halve n (halve angle) m b = .ok right ∧ as = left ++ right.tail := by
  rw [bisect]
  constructor
  · intro h
    obtain ⟨m, hm, h⟩ := bind_eq_ok_iff.mp h
    obtain ⟨left, hLeft, h⟩ := bind_eq_ok_iff.mp h
    obtain ⟨right, hRight, h⟩ := bind_eq_ok_iff.mp h
    exact ⟨m, left, right, hm, hLeft, hRight, (Except.ok.inj h).symm⟩
  · rintro ⟨m, left, right, hm, hLeft, hRight, rfl⟩
    rw [hm, ok_bind, hLeft, ok_bind, hRight]
    rfl

theorem subdivide_pair {n : Nat} {angle : θ} {a b : α} {as : List α} :
    subdivide middle halve n angle [a, b] = .ok as ↔ bisect middle halve n angle a b = .ok as := by
  induction n generalizing angle a b as with
  | zero => exact Iff.rfl
  | succ n ih =>
    rw [subdivide_succ_eq_ok_iff, bisect_succ_eq_ok_iff]
    constructor
    · rintro ⟨bs, hPass, hRest⟩
      obtain ⟨m, tail, hm, hTail, rfl⟩ := refine_cons_cons_eq_ok_iff.mp hPass
      cases hTail
      change subdivide middle halve n (halve angle) ([a] ++ m :: [b]) = .ok as at hRest
      obtain ⟨left, right, hLeft, hRight, rfl⟩ := subdivide_join.mp hRest
      exact ⟨m, left ++ [m], m :: right, hm, ih.mp hLeft, ih.mp hRight,
        List.append_cons left m right⟩
    · rintro ⟨m, left, right, hm, hLeft, hRight, rfl⟩
      have hLeft := ih.mpr hLeft
      have hRight := ih.mpr hRight
      have hLast : left.getLast? = some m :=
        (refines_subdivide (fun t => mediates_true (middle t)) hLeft).last
      have hHead : right.head? = some m :=
        (refines_subdivide (fun t => mediates_true (middle t)) hRight).head
      obtain ⟨front, rfl⟩ := List.getLast?_eq_some_iff.mp hLast
      obtain ⟨rest, rfl⟩ := List.head?_eq_some_iff.mp hHead
      refine ⟨[a, m, b], refine_cons_cons_eq_ok_iff.mpr ⟨m, [b], hm, rfl, rfl⟩, ?_⟩
      change subdivide middle halve n (halve angle) ([a] ++ m :: [b]) = _
      exact subdivide_join.mpr
        ⟨front, rest, hLeft, hRight, (List.append_cons front m rest).symm⟩

theorem length_bisect {n : Nat} {angle : θ} {a b : α} {as : List α}
    (h : bisect middle halve n angle a b = .ok as) : as.length = 2 ^ n + 1 := by
  have hLength := length_subdivide (subdivide_pair.mpr h)
  rwa [List.length_singleton, Nat.mul_one] at hLength

theorem head?_bisect {n : Nat} {angle : θ} {a b : α} {as : List α}
    (h : bisect middle halve n angle a b = .ok as) : as.head? = some a :=
  (refines_subdivide (fun t => mediates_true (middle t)) (subdivide_pair.mpr h)).head

theorem getLast?_bisect {n : Nat} {angle : θ} {a b : α} {as : List α}
    (h : bisect middle halve n angle a b = .ok as) : as.getLast? = some b :=
  (refines_subdivide (fun t => mediates_true (middle t)) (subdivide_pair.mpr h)).last

/-- Both halves of a bisection lie in the result, and only their common point lies in both. -/
theorem bisect_succ_halves {n : Nat} {angle : θ} {a b : α} {as : List α} :
    bisect middle halve (n + 1) angle a b = .ok as ↔ ∃ m, middle angle a b = .ok m ∧
      bisect middle halve n (halve angle) a m = .ok (as.take (2 ^ n + 1)) ∧
        bisect middle halve n (halve angle) m b = .ok (as.drop (2 ^ n)) := by
  rw [bisect_succ_eq_ok_iff]
  constructor
  · rintro ⟨m, left, right, hm, hLeft, hRight, rfl⟩
    have hTake : (left ++ right.tail).take (2 ^ n + 1) = left := by
      rw [← length_bisect hLeft, List.take_left]
    have hDrop : (left ++ right.tail).drop (2 ^ n) = right := by
      obtain ⟨front, rfl⟩ := List.getLast?_eq_some_iff.mp (getLast?_bisect hLeft)
      obtain ⟨rest, rfl⟩ := List.head?_eq_some_iff.mp (head?_bisect hRight)
      have hLength := length_bisect hLeft
      rw [List.length_append, List.length_singleton, Nat.add_right_cancel_iff] at hLength
      rw [List.tail_cons, ← List.append_cons, ← hLength, List.drop_left]
    rw [hTake, hDrop]
    exact ⟨m, hm, hLeft, hRight⟩
  · rintro ⟨m, hm, hLeft, hRight⟩
    refine ⟨m, _, _, hm, hLeft, hRight, ?_⟩
    rw [List.tail_drop, List.take_append_drop]

/-- The midpoints that the recursion asks for, each at its angle and between its two points. -/
inductive Asks (middle : θ → α → α → Except ε α) (halve : θ → θ) :
    Nat → θ → α → α → θ → α → α → Prop where
  | here {n : Nat} {angle : θ} {a b : α} : Asks middle halve (n + 1) angle a b angle a b
  | left {n : Nat} {angle t : θ} {a b m x y : α} (hMiddle : middle angle a b = .ok m)
      (h : Asks middle halve n (halve angle) a m t x y) : Asks middle halve (n + 1) angle a b t x y
  | right {n : Nat} {angle t : θ} {a b m x y : α} (hMiddle : middle angle a b = .ok m)
      (h : Asks middle halve n (halve angle) m b t x y) : Asks middle halve (n + 1) angle a b t x y

/-- The recursion has a result when no midpoint that it asks for fails. -/
theorem bisect_isOk_iff {n : Nat} {angle : θ} {a b : α} :
    (∃ as, bisect middle halve n angle a b = .ok as) ↔
      ∀ t x y, Asks middle halve n angle a b t x y → ∃ m, middle t x y = .ok m := by
  induction n generalizing angle a b with
  | zero =>
    constructor
    · intro _ t x y hAsks
      cases hAsks
    · intro _
      exact ⟨[a, b], rfl⟩
  | succ n ih =>
    constructor
    · rintro ⟨as, h⟩ t x y hAsks
      obtain ⟨m, left, right, hm, hLeft, hRight, _⟩ := bisect_succ_eq_ok_iff.mp h
      cases hAsks with
      | here => exact ⟨m, hm⟩
      | left hMiddle hAsks =>
        cases hm.symm.trans hMiddle
        exact ih.mp ⟨left, hLeft⟩ t x y hAsks
      | right hMiddle hAsks =>
        cases hm.symm.trans hMiddle
        exact ih.mp ⟨right, hRight⟩ t x y hAsks
    · intro h
      obtain ⟨m, hm⟩ := h angle a b .here
      obtain ⟨left, hLeft⟩ := ih.mpr fun t x y hAsks => h t x y (.left hm hAsks)
      obtain ⟨right, hRight⟩ := ih.mpr fun t x y hAsks => h t x y (.right hm hAsks)
      exact ⟨_, bisect_succ_eq_ok_iff.mpr ⟨m, left, right, hm, hLeft, hRight, rfl⟩⟩

/-- What passes over two points have of the recursion into halves. -/
structure Halves (middle : θ → α → α → Except ε α) (halve : θ → θ) (n : Nat) (angle : θ)
    (a b : α) : Prop where
  returns : (∃ as, subdivide middle halve n angle [a, b] = .ok as) ↔
    ∀ t x y, Asks middle halve n angle a b t x y → ∃ m, middle t x y = .ok m
  passes : ∀ as, subdivide middle halve n angle [a, b] = .ok as ↔
    bisect middle halve n angle a b = .ok as
  ends : ∀ as, bisect middle halve n angle a b = .ok as →
    as.length = 2 ^ n + 1 ∧ as.head? = some a ∧ as.getLast? = some b
  join : ∀ k, n = k + 1 → ∀ as, bisect middle halve n angle a b = .ok as ↔
    ∃ m, middle angle a b = .ok m ∧
      bisect middle halve k (halve angle) a m = .ok (as.take (2 ^ k + 1)) ∧
        bisect middle halve k (halve angle) m b = .ok (as.drop (2 ^ k))

theorem halves (middle : θ → α → α → Except ε α) (halve : θ → θ) (n : Nat) (angle : θ)
    (a b : α) : Halves middle halve n angle a b where
  returns := by
    rw [← bisect_isOk_iff]
    exact exists_congr fun _ => subdivide_pair
  passes _ := subdivide_pair
  ends _ h := ⟨length_bisect h, head?_bisect h, getLast?_bisect h⟩
  join := by
    rintro k rfl as
    exact bisect_succ_halves

end

end Bisection

namespace Arc

theorem toFloat_of_range {angle : Number} (hLow : (Number.int 2).le angle = true)
    (hHigh : angle.le (Number.int 355) = true) : ∃ x, angle.toFloat = .ok x := by
  cases angle with
  | float x => exact ⟨x, rfl⟩
  | int n =>
    rw [Number.le_int, decide_eq_true_eq] at hLow hHigh
    obtain ⟨k, rfl⟩ := Int.eq_ofNat_of_zero_le (by omega : 0 ≤ n)
    have hAll : ∀ k < 356, (Float.ofNat k).isInf = false := by decide +kernel
    have hFinite : (Float.ofInt k).isInf = false := hAll k (by omega)
    refine ⟨Float.ofInt k, ?_⟩
    rw [Number.toFloat, intToFloat]
    exact if_neg (by rw [hFinite]; exact Bool.false_ne_true)

end Arc

theorem curve_eq_ok_iff {start stop : Anchor} {degrees : Value} {positive : Bool} {angle : Number}
    {x : Float} {t : Timeline} (hNumber : degrees.toNumber = .ok angle)
    (hLow : (Number.int 2).le angle = true) (hHigh : angle.le (Number.int 355) = true)
    (hFloat : angle.toFloat = .ok x) :
    curve start stop degrees positive = .ok t ↔
      Bisection.subdivide (fun d : Float => Arc.midpoint (.float d) positive) (· / 2.0) 5 x
        [start, stop] = .ok t.anchors := by
  have hRange : ((Number.int Arc.minAngle).le angle && angle.le (Number.int Arc.maxAngle)) = true :=
    Bool.and_eq_true_iff.mpr ⟨hLow, hHigh⟩
  rw [curve, hNumber, ok_bind, if_pos hRange, hFloat, ok_bind, bind_eq_ok_iff]
  constructor
  · rintro ⟨anchors, hAnchors, h⟩
    cases h
    exact hAnchors
  · intro h
    exact ⟨t.anchors, h, rfl⟩

theorem bisect_of_curve {start stop : Anchor} {degrees : Value} {positive : Bool} {t : Timeline}
    (h : curve start stop degrees positive = .ok t) :
    ∃ x, Bisection.bisect (fun d : Float => Arc.midpoint (.float d) positive) (· / 2.0) 5 x
      start stop = .ok t.anchors := by
  obtain ⟨angle, _, h⟩ := bind_eq_ok_iff.mp h
  split at h
  · obtain ⟨x, _, h⟩ := bind_eq_ok_iff.mp h
    obtain ⟨anchors, hAnchors, h⟩ := bind_eq_ok_iff.mp h
    cases h
    exact ⟨x, Bisection.subdivide_pair.mp hAnchors⟩
  · cases h

/-- The passes over two points are the recursion into halves, for any depth and any midpoint; so is
a curve, five levels deep, and it has no result only when one of the midpoints has none. -/
theorem curve_halves :
    (∀ {α θ ε : Type} (middle : θ → α → α → Except ε α) (halve : θ → θ) (n : Nat) (angle : θ)
      (a b : α), Bisection.Halves middle halve n angle a b) ∧
    ∀ (start stop : Anchor) (positive : Bool) (degrees : Value) (angle : Number),
      degrees.toNumber = .ok angle → (Number.int 2).le angle = true →
      angle.le (Number.int 355) = true → ∃ x, angle.toFloat = .ok x ∧
        ((∃ t, curve start stop degrees positive = .ok t) ↔
          ∀ d a b, Bisection.Asks (fun d : Float => Arc.midpoint (.float d) positive) (· / 2.0) 5 x
            start stop d a b → ∃ m, Arc.midpoint (.float d) positive a b = .ok m) ∧
        ∀ t, curve start stop degrees positive = .ok t →
          Bisection.bisect (fun d : Float => Arc.midpoint (.float d) positive) (· / 2.0) 5 x
            start stop = .ok t.anchors ∧
          t.anchors.length = 33 ∧ t.first? = some start ∧ t.last? = some stop := by
  refine ⟨Bisection.halves, ?_⟩
  intro start stop positive degrees angle hNumber hLow hHigh
  obtain ⟨x, hFloat⟩ := Arc.toFloat_of_range hLow hHigh
  refine ⟨x, hFloat, ?_, ?_⟩
  · rw [← Bisection.bisect_isOk_iff]
    constructor
    · rintro ⟨t, h⟩
      exact ⟨t.anchors, Bisection.subdivide_pair.mp
        ((curve_eq_ok_iff hNumber hLow hHigh hFloat).mp h)⟩
    · rintro ⟨anchors, h⟩
      exact ⟨⟨anchors⟩, (curve_eq_ok_iff hNumber hLow hHigh hFloat).mpr
        (Bisection.subdivide_pair.mpr h)⟩
  · intro t h
    have hBisect := Bisection.subdivide_pair.mp
      ((curve_eq_ok_iff hNumber hLow hHigh hFloat).mp h)
    exact ⟨hBisect, Bisection.length_bisect hBisect, Bisection.head?_bisect hBisect,
      Bisection.getLast?_bisect hBisect⟩

theorem curve_halves_half_turn :
    ∃ t x, curve ⟨.int 4, .int 9, .int (-7)⟩ ⟨.int 4, .int 9, .int 30⟩ (.int 180) true = .ok t ∧
      (Number.int 180).toFloat = .ok x ∧
      Bisection.bisect (fun d : Float => Arc.midpoint (.float d) true) (· / 2.0) 5 x
        ⟨.int 4, .int 9, .int (-7)⟩ ⟨.int 4, .int 9, .int 30⟩ = .ok t.anchors := by
  have hReturns : (curve ⟨.int 4, .int 9, .int (-7)⟩ ⟨.int 4, .int 9, .int 30⟩ (.int 180)
      true).toOption.isSome = true := by decide +kernel
  obtain ⟨t, ht⟩ := Option.isSome_iff_exists.mp hReturns
  have hCurve := eq_ok_of_toOption ht
  obtain ⟨x, hFloat, _, hBisect⟩ := curve_halves.2 ⟨.int 4, .int 9, .int (-7)⟩
    ⟨.int 4, .int 9, .int 30⟩ true (.int 180) (.int 180) rfl rfl rfl
  exact ⟨t, x, hCurve, hFloat, (hBisect t hCurve).1⟩

end TouchPath
