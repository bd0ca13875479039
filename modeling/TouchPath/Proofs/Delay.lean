import TouchPath.Proofs.Arc
import TouchPath.Proofs.Circle
import TouchPath.Shape

/-! # Later timelines

A shape that starts later is the same shape with every time moved. For circles and drags this holds
of all times, as their times are added to the one of the start. The times of an arc are means cut
toward zero, which a delay moves along only as long as no sum changes its sign: this holds of clocks
that never go below zero, and then in every pass (`Bisection.subdivide_map`). A later timeline
compiles to the same segments from a later offset, or fails at the same backward step
(`Timeline.compile_later`).
-/
namespace TouchPath
set_option autoImplicit false

theorem mapM_map_result {α β γ ε : Type} (f : α → Except ε β) (g : β → γ) (xs : List α) :
    (xs.mapM fun x => g <$> f x) = List.map g <$> xs.mapM f := by
  induction xs with
  | nil => rfl
  | cons x xs ih =>
    rw [List.mapM_cons, List.mapM_cons, ih, map_bind, bind_map_left]
    simp only [bind_map_left, map_bind, map_pure, List.map_cons]

theorem neighbours_map {α β : Type} (f : α → β) (xs : List α) :
    neighbours (xs.map f) = (neighbours xs).map (Prod.map f f) := by
  rw [neighbours, neighbours, ← List.map_tail, List.zip_map]

namespace Anchor

def later (ms : Int) (a : Anchor) : Anchor := { a with time := .int (a.millis + ms) }

@[simp] theorem x_later (ms : Int) (a : Anchor) : (a.later ms).x = a.x := rfl

@[simp] theorem y_later (ms : Int) (a : Anchor) : (a.later ms).y = a.y := rfl

@[simp] theorem millis_later (ms : Int) (a : Anchor) : (a.later ms).millis = a.millis + ms := rfl

@[simp] theorem pixel_later (ms : Int) (a : Anchor) : (a.later ms).pixel = a.pixel := rfl

@[simp] theorem later_ofPoint (p : Point) (time ms : Int) :
    (ofPoint p time).later ms = ofPoint p (time + ms : Int) := rfl

theorem pure_later (x y : Number) (time ms : Int) :
    (pure ⟨x, y, .int (time + ms)⟩ : Except Fault Anchor) =
      later ms <$> pure ⟨x, y, .int time⟩ := rfl

theorem IsSound.later {a : Anchor} (h : a.IsSound) (ms : Int) : (a.later ms).IsSound :=
  ⟨h.x, h.y, rfl⟩

/-- The same position at a whole time that is later by `ms`. -/
structure IsDelayed (ms : Int) (a b : Anchor) : Prop where
  x : b.x = a.x
  y : b.y = a.y
  time : ∃ n : Int, a.time = .int n ∧ b.time = .int (n + ms)

theorem delay_eq {a : Anchor} (h : a.time.isInt = true) (ms : Int) :
    a.delay (.int ms) = .ok (a.later ms) := by
  rw [delay, time_eq_of_isInt h, Number.add_int]
  rfl

end Anchor

namespace Timeline

def later (ms : Int) (t : Timeline) : Timeline := ⟨t.anchors.map (Anchor.later ms)⟩

theorem pure_later (anchors : List Anchor) (ms : Int) :
    (pure ⟨anchors.map (Anchor.later ms)⟩ : Except Fault Timeline) =
      later ms <$> pure ⟨anchors⟩ := rfl

theorem shifted_eq {t : Timeline} (hWhole : ∀ a ∈ t.anchors, a.time.isInt = true) (ms : Int) :
    t.shifted (.int ms) = .ok (t.later ms) := by
  have hAnchors : t.anchors.mapM (Anchor.delay (.int ms)) =
      .ok (t.anchors.map (Anchor.later ms)) := by
    rw [mapM_eq_ok_iff, List.forall₂_map_right_iff, List.forall₂_same]
    exact fun a ha => Anchor.delay_eq (hWhole a ha) ms
  rw [shifted, hAnchors]
  rfl

theorem isDelayed_later {t : Timeline} (hWhole : ∀ a ∈ t.anchors, a.time.isInt = true) (ms : Int) :
    List.Forall₂ (Anchor.IsDelayed ms) t.anchors (t.later ms).anchors := by
  rw [later, List.forall₂_map_right_iff, List.forall₂_same]
  exact fun a ha => ⟨rfl, rfl, a.millis, Anchor.time_eq_of_isInt (hWhole a ha), rfl⟩

end Timeline

/-! ## Shapes -/

/-- A circle that starts later, whatever its total time and its steps are. -/
theorem circle_later (center : Point) (radius total steps : Value) (start ms : Int) :
    circle center radius (.int (start + ms)) total steps =
      Timeline.later ms <$> circle center radius (.int start) total steps := by
  have hTime (elapsed : Int) : start + ms + elapsed = start + elapsed + ms := by omega
  simp only [circle, Circle.sample, Value.toNumber_int, ok_bind, Number.add_int, hTime,
    Anchor.pure_later, ← map_bind, mapM_map_result, bind_map_left, Timeline.pure_later]

theorem drag_later (start stop : Position) (duration startTime ms : Int) :
    drag start stop duration (startTime + ms : Int) =
      Timeline.later ms <$> drag start stop duration startTime := by
  have hTime : startTime + ms + duration = startTime + duration + ms := by omega
  rw [drag, drag, Number.add_int, Number.add_int, hTime]
  rfl

namespace Bisection

variable {α θ ε : Type} {P : α → Prop} {g : α → α}

/-- A pass commutes with a map when the midpoints do that it asks for. -/
theorem refine_map {middle : α → α → Except ε α}
    (hMiddle : ∀ a b, P a → P b → middle (g a) (g b) = g <$> middle a b) {as : List α}
    (hAll : ∀ a ∈ as, P a) : refine middle (as.map g) = List.map g <$> refine middle as := by
  induction as with
  | nil => rfl
  | cons a as ih =>
    cases as with
    | nil => rfl
    | cons b as =>
      obtain ⟨ha, hRest⟩ := List.forall_mem_cons.mp hAll
      have hTail := ih hRest
      rw [List.map_cons] at hTail
      rw [List.map_cons, List.map_cons, refine, refine, hMiddle a b ha (hRest b List.mem_cons_self),
        hTail]
      simp only [bind_map_left, map_bind, map_pure, List.map_cons]

variable {middle : θ → α → α → Except ε α} {halve : θ → θ}

theorem subdivide_map (hKeeps : ∀ t, Mediates P (fun _ _ => True) (middle t))
    (hMiddle : ∀ t a b, P a → P b → middle t (g a) (g b) = g <$> middle t a b) (n : Nat)
    (angle : θ) {as : List α} (hAll : ∀ a ∈ as, P a) :
    subdivide middle halve n angle (as.map g) =
      List.map g <$> subdivide middle halve n angle as := by
  induction n generalizing angle as with
  | zero => rfl
  | succ n ih =>
    rw [subdivide, subdivide, refine_map (hMiddle angle) hAll]
    cases hPass : refine (middle angle) as with
    | error e => rfl
    | ok bs =>
      -- the points of a pass have the property that the next pass needs
      have hNext := (refines_refine (hKeeps angle) hPass).mem hAll
      exact ih _ hNext

end Bisection

namespace Arc

/-- A whole time that is not below zero. -/
def IsNonneg (a : Anchor) : Prop := ∃ n : Int, a.time = .int n ∧ 0 ≤ n

/-- The mean of two times moves along with them when no sum is negative. -/
theorem mean_later {a b ms : Int} (h : 0 ≤ a + b) (hMs : 0 ≤ ms) :
    (a + ms + (b + ms)).tdiv 2 = (a + b).tdiv 2 + ms := by
  rw [Int.tdiv_eq_ediv_of_nonneg h, Int.tdiv_eq_ediv_of_nonneg (by omega)]
  omega

example : ((0 + -1) + (1 + -1) : Int).tdiv 2 ≠ (0 + 1 : Int).tdiv 2 + -1 := by decide

theorem midpoint_later (degrees : Value) (positive : Bool) {a b : Anchor} {ms : Int}
    (hMs : 0 ≤ ms) (ha : IsNonneg a) (hb : IsNonneg b) :
    midpoint degrees positive (a.later ms) (b.later ms) =
      Anchor.later ms <$> midpoint degrees positive a b := by
  obtain ⟨x, hx, hPosX⟩ := ha
  obtain ⟨y, hy, hPosY⟩ := hb
  have hMean := mean_later (Int.add_nonneg hPosX hPosY) hMs
  have hLate : (a.later ms).time = .int (x + ms) := by rw [Anchor.later, Anchor.millis_of_time hx]
  have hLate' : (b.later ms).time = .int (y + ms) := by rw [Anchor.later, Anchor.millis_of_time hy]
  simp only [midpoint, Anchor.x_later, Anchor.y_later, hLate, hLate', hx, hy, Number.add_int,
    Number.half_int, ok_bind, hMean, Anchor.pure_later, ← map_bind, ← apply_ite]

theorem keeps_isNonneg (degrees : Value) (positive : Bool) :
    Bisection.Mediates IsNonneg (fun _ _ => True) (midpoint degrees positive) := by
  rintro a b m hm ⟨x, hx, hPosX⟩ ⟨y, hy, hPosY⟩
  refine ⟨⟨_, time_midpoint_of_int hx hy hm, ?_⟩, fun _ => ⟨trivial, trivial⟩⟩
  exact Int.tdiv_nonneg (by omega) (by decide)

end Arc

/-- An arc that starts and stops later, if it does not start or stop below zero. -/
theorem curve_later {start stop : Anchor} (hStart : Arc.IsNonneg start) (hStop : Arc.IsNonneg stop)
    (degrees : Value) (positive : Bool) {ms : Int} (hMs : 0 ≤ ms) :
    curve (start.later ms) (stop.later ms) degrees positive =
      Timeline.later ms <$> curve start stop degrees positive := by
  have hAll : ∀ a ∈ [start, stop], Arc.IsNonneg a := by
    rw [List.forall_mem_cons, List.forall_mem_singleton]
    exact ⟨hStart, hStop⟩
  have hPasses (angle : Float) :
      Bisection.subdivide (fun t => Arc.midpoint (.float t) positive) (· / 2.0) Arc.depth angle
          ([start, stop].map (Anchor.later ms)) =
        List.map (Anchor.later ms) <$> Bisection.subdivide
          (fun t => Arc.midpoint (.float t) positive) (· / 2.0) Arc.depth angle [start, stop] :=
    Bisection.subdivide_map (fun t : Float => Arc.keeps_isNonneg (.float t) positive)
      (fun t _ _ => Arc.midpoint_later (.float t) positive hMs) Arc.depth angle hAll
  rw [List.map_cons, List.map_singleton] at hPasses
  cases hAngle : degrees.toNumber with
  | error e => rw [curve, curve, hAngle]; rfl
  | ok angle =>
    simp only [curve, hAngle, ok_bind, hPasses, bind_map_left, Timeline.pure_later, ← map_bind]
    split
    · rfl
    · rfl

/-! ## Compiled timelines -/

/-- The same segments from an offset that is later by `ms`, up to an end as much later. -/
structure Path.IsLater (ms : Int) (p q : Path) : Prop where
  segments : q.segments = p.segments
  checked : q.checked = p.checked
  offset : ∃ n : Int, p.offset = .int n ∧ q.offset = .int (n + ms)
  endTime : ∃ n : Int, p.endTime = .ok (.int n) ∧ q.endTime = .ok (.int (n + ms))

namespace Timeline

variable {t : Timeline} {i j : Nat} {a b c d : Anchor}

theorem segmentsOf_later (ms : Int) (anchors : List Anchor) :
    segmentsOf (anchors.map (Anchor.later ms)) = segmentsOf anchors := by
  have hLegs (legs : List (Anchor × Anchor)) :
      (legs.map (Prod.map (Anchor.later ms) (Anchor.later ms))).map legSegment =
        legs.map legSegment := by
    rw [List.map_map]
    apply List.map_congr_left
    intro leg _
    have hTime : leg.2.millis + ms - (leg.1.millis + ms) = leg.2.millis - leg.1.millis := by omega
    simp [legSegment, hTime]
  match anchors with
  | [] => rfl
  | [_] => rfl
  | a :: b :: rest =>
    change (neighbours ((a :: b :: rest).map (Anchor.later ms))).map legSegment =
      (neighbours (a :: b :: rest)).map legSegment
    rw [neighbours_map]
    exact hLegs _

theorem ascends_later (ms : Int) (anchors : List Anchor) :
    Ascends (anchors.map (Anchor.later ms)) ↔ Ascends anchors := by
  rw [Ascends, Ascends, List.isChain_map]
  simp

theorem IsSound.later (h : t.IsSound) (ms : Int) : (t.later ms).IsSound :=
  List.forall_mem_map.mpr fun a ha => (h a ha).later ms

theorem firstBackstep_iff (hWhole : ∀ a ∈ t.anchors, a.time.isInt = true) :
    t.FirstBackstep i a b ↔ (neighbours t.anchors)[i]? = some (a, b) ∧ b.millis < a.millis ∧
      ∀ j < i, ∀ leg, (neighbours t.anchors)[j]? = some leg → leg.1.millis ≤ leg.2.millis := by
  have hTimes {k : Nat} {leg : Anchor × Anchor} (hLeg : (neighbours t.anchors)[k]? = some leg) :
      leg.1.time = .int leg.1.millis ∧ leg.2.time = .int leg.2.millis := by
    obtain ⟨hFirst, hSecond⟩ := mem_of_mem_neighbours (List.mem_of_getElem? hLeg)
    exact ⟨Anchor.time_eq_of_isInt (hWhole _ hFirst), Anchor.time_eq_of_isInt (hWhole _ hSecond)⟩
  have hLt {k : Nat} {leg : Anchor × Anchor} (hLeg : (neighbours t.anchors)[k]? = some leg) :
      leg.2.time.lt leg.1.time = true ↔ leg.2.millis < leg.1.millis := by
    rw [(hTimes hLeg).1, (hTimes hLeg).2, Number.lt_int, decide_eq_true_eq]
  have hLe {k : Nat} {leg : Anchor × Anchor} (hLeg : (neighbours t.anchors)[k]? = some leg) :
      leg.1.time.le leg.2.time = true ↔ leg.1.millis ≤ leg.2.millis := by
    rw [(hTimes hLeg).1, (hTimes hLeg).2, Number.le_int, decide_eq_true_eq]
  constructor
  · rintro ⟨hIndex, hBack, hFirst⟩
    exact ⟨hIndex, (hLt hIndex).mp hBack,
      fun j hj leg hLeg => (hLe hLeg).mp (hFirst j hj leg hLeg)⟩
  · rintro ⟨hIndex, hBack, hFirst⟩
    exact ⟨hIndex, (hLt hIndex).mpr hBack,
      fun j hj leg hLeg => (hLe hLeg).mpr (hFirst j hj leg hLeg)⟩

theorem FirstBackstep.unique (hWhole : ∀ a ∈ t.anchors, a.time.isInt = true)
    (h : t.FirstBackstep i a b) (k : t.FirstBackstep j c d) : i = j ∧ a = c ∧ b = d := by
  rw [firstBackstep_iff hWhole] at h k
  obtain ⟨hIndex, hBack, hFirst⟩ := h
  obtain ⟨kIndex, kBack, kFirst⟩ := k
  rcases Nat.lt_trichotomy i j with hij | rfl | hij
  · exact absurd (kFirst i hij _ hIndex) (Int.not_le.mpr hBack)
  · rw [hIndex, Option.some_inj, Prod.mk.injEq] at kIndex
    exact ⟨rfl, kIndex⟩
  · exact absurd (hFirst j hij _ kIndex) (Int.not_le.mpr kBack)

theorem FirstBackstep.later (hWhole : ∀ a ∈ t.anchors, a.time.isInt = true)
    (h : t.FirstBackstep i a b) (ms : Int) :
    (t.later ms).FirstBackstep i (a.later ms) (b.later ms) := by
  have hLegs : neighbours (t.later ms).anchors =
      (neighbours t.anchors).map (Prod.map (Anchor.later ms) (Anchor.later ms)) :=
    neighbours_map _ _
  have hWholeLater : ∀ a ∈ (t.later ms).anchors, a.time.isInt = true :=
    List.forall_mem_map.mpr fun _ _ => rfl
  obtain ⟨hIndex, hBack, hFirst⟩ := (firstBackstep_iff hWhole).mp h
  rw [firstBackstep_iff hWholeLater, hLegs]
  refine ⟨?_, ?_, ?_⟩
  · rw [List.getElem?_map, hIndex]
    rfl
  · rw [Anchor.millis_later, Anchor.millis_later]
    omega
  · intro j hj leg hLeg
    rw [List.getElem?_map, Option.map_eq_some_iff] at hLeg
    obtain ⟨leg, hLeg, rfl⟩ := hLeg
    have hLe := hFirst j hj leg hLeg
    change leg.1.millis + ms ≤ leg.2.millis + ms
    omega

/-- How a timeline compiles, and one that is later by `ms`: to paths of the same segments, or with
a fault about the same backward step. -/
inductive CompileAlike (ms : Int) (t u : Timeline) (checked : Bool) : Prop where
  | paths {p q : Path} (early : t.compile checked = .ok p) (late : u.compile checked = .ok q)
      (later : p.IsLater ms q)
  | backwards {i : Nat} {a b : Anchor} (step : t.FirstBackstep i a b)
      (early : t.compile checked = fail (.clockBackwards (i + 1) (.int b.millis) (.int a.millis)))
      (late : u.compile checked =
        fail (.clockBackwards (i + 1) (.int (b.millis + ms)) (.int (a.millis + ms))))

theorem compile_later (hSound : t.IsSound) (hSome : t.anchors ≠ []) (ms : Int) (checked : Bool) :
    CompileAlike ms t (t.later ms) checked := by
  have hWhole : ∀ a ∈ t.anchors, a.time.isInt = true := fun a ha => (hSound a ha).time
  have hLate := hSound.later ms
  obtain ⟨anchors⟩ := t
  obtain ⟨a, rest, rfl⟩ := List.exists_cons_of_ne_nil hSome
  by_cases hAscends : Ascends (a :: rest)
  · have hMoved := (ascends_later ms (a :: rest)).mpr hAscends
    have hTimes := time_segmentsOf (a :: rest)
    have hSame := segmentsOf_later ms (a :: rest)
    refine .paths (compile_cons_of_ascends hSound hAscends checked)
      (compile_cons_of_ascends hLate hMoved checked) ⟨hSame, rfl, ⟨_, rfl, rfl⟩, ?_⟩
    refine ⟨_, Path.endTime_eq_add rfl hTimes, ?_⟩
    have hMovedTimes := hTimes
    rw [← hSame] at hMovedTimes
    rw [Path.endTime_eq_add rfl hMovedTimes, Anchor.millis_later, Int.add_right_comm]
  · have hMoved := mt (ascends_later ms (a :: rest)).mp hAscends
    obtain ⟨i, b, c, hStep, hFault⟩ := compile_cons_of_not_ascends hSound hAscends
    obtain ⟨j, b', c', hStep', hFault'⟩ := compile_cons_of_not_ascends hLate hMoved
    -- the later timeline has no other first backward step
    obtain ⟨rfl, rfl, rfl⟩ :=
      (hStep.later hWhole ms).unique (fun d hd => (hLate d hd).time) hStep'
    obtain ⟨hb, hc⟩ := mem_of_mem_neighbours (List.mem_of_getElem? hStep.at_index)
    refine .backwards hStep ?_ (hFault' checked)
    rw [hFault checked, (hSound b hb).time_eq, (hSound c hc).time_eq]

end Timeline
end TouchPath
