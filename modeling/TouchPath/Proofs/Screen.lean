import TouchPath.Proofs.Containment
import TouchPath.Proofs.Shape

/-! # Where swipes end

A swipe is held back at the edge of the screen that lies ahead, and at no other. So it ends where
it was going, cut to the screen, as long as that is beyond no other edge; this is so of every swipe
that starts on the screen and does not go backwards. Otherwise it ends off the screen
(`swipe_stops`).
-/
namespace TouchPath
set_option autoImplicit false

namespace Bounds

def screen (width height : Int) : Bounds := ⟨⟨0, 0⟩, width, height⟩

def clamp (b : Bounds) (p : Point) : Point :=
  ⟨max b.upperLeft.x (min p.x b.lowerRight.x), max b.upperLeft.y (min p.y b.lowerRight.y)⟩

theorem clamp_mem {b : Bounds} (h : b.IsProper) (p : Point) : b.clamp p ∈ b := by
  obtain ⟨hWidth, hHeight⟩ := h
  simp only [mem_iff, clamp, lowerRight_x, lowerRight_y]
  omega

end Bounds

namespace Direction

def displacement (distance : Int) : Direction → Point
  | up => ⟨0, -distance⟩
  | down => ⟨0, distance⟩
  | left => ⟨-distance, 0⟩
  | right => ⟨distance, 0⟩

def Beyond (width height : Int) (p : Point) : Direction → Prop
  | up => p.y < 0
  | down => height < p.y
  | left => p.x < 0
  | right => width < p.x

def holdBack (width height : Int) (p : Point) : Direction → Point
  | up => ⟨p.x, max p.y 0⟩
  | down => ⟨p.x, min p.y height⟩
  | left => ⟨max p.x 0, p.y⟩
  | right => ⟨min p.x width, p.y⟩

/-- A point is beyond no edge of the screen but the one in a direction. -/
def Clears (direction : Direction) (width height : Int) (p : Point) : Prop :=
  ∀ edge, edge ≠ direction → ¬ Beyond width height p edge

variable {width height distance : Int} {p : Point} (direction : Direction)

theorem mem_screen_iff : p ∈ Bounds.screen width height ↔ ∀ edge, ¬ Beyond width height p edge := by
  simp only [Bounds.mem_iff, Bounds.screen, Bounds.lowerRight_x, Bounds.lowerRight_y, Int.zero_add]
  constructor
  · intro h edge
    cases edge <;> simp only [Beyond] <;> omega
  · intro h
    have hUp := h up
    have hDown := h down
    have hLeft := h left
    have hRight := h right
    simp only [Beyond] at hUp hDown hLeft hRight
    omega

theorem holdBack_beyond_iff (hWidth : 0 ≤ width) (hHeight : 0 ≤ height) (edge : Direction) :
    Beyond width height (holdBack width height p direction) edge ↔
      edge ≠ direction ∧ Beyond width height p edge := by
  cases direction <;> cases edge <;> simp [holdBack, Beyond] <;> omega

theorem holdBack_mem_iff (hWidth : 0 ≤ width) (hHeight : 0 ≤ height) :
    holdBack width height p direction ∈ Bounds.screen width height ↔
      direction.Clears width height p := by
  simp only [mem_screen_iff, holdBack_beyond_iff direction hWidth hHeight, not_and, Clears]

theorem holdBack_eq_clamp (hWidth : 0 ≤ width) (hHeight : 0 ≤ height)
    (h : direction.Clears width height p) :
    holdBack width height p direction = (Bounds.screen width height).clamp p := by
  -- at the edge ahead both cut alike, and at the others there is nothing to cut
  have hUp := h up
  have hDown := h down
  have hLeft := h left
  have hRight := h right
  rw [Point.ext_iff_coords]
  cases direction <;>
    simp [Beyond, holdBack, Bounds.clamp, Bounds.screen] at hUp hDown hLeft hRight ⊢ <;> omega

theorem holdBack_eq_clamp_iff (hWidth : 0 ≤ width) (hHeight : 0 ≤ height) :
    holdBack width height p direction = (Bounds.screen width height).clamp p ↔
      direction.Clears width height p := by
  constructor
  · intro h
    rw [← holdBack_mem_iff direction hWidth hHeight, h]
    exact Bounds.clamp_mem ⟨hWidth, hHeight⟩ p
  · exact holdBack_eq_clamp direction hWidth hHeight

theorem clears_of_forward (h : p ∈ Bounds.screen width height) (hDistance : 0 ≤ distance) :
    direction.Clears width height (p + direction.displacement distance) := by
  rw [mem_screen_iff] at h
  intro edge hEdge
  have hStart := h edge
  cases direction <;> cases edge <;> simp [Beyond, displacement] at hEdge hStart ⊢ <;> omega

end Direction

open Direction

variable {width height : Int}

theorem swipeEnd_int (p : Point) (direction : Direction) (distance : Int) :
    swipeEnd p direction width height distance =
      .ok (holdBack width height (p + direction.displacement distance) direction : Point) := by
  cases direction with
  | up => simp [swipeEnd, holdBack, displacement, Position.ofPoint, Int.sub_eq_add_neg]
  | down => simp [swipeEnd, holdBack, displacement, Position.ofPoint]
  | left => simp [swipeEnd, holdBack, displacement, Position.ofPoint, Int.sub_eq_add_neg]
  | right => simp [swipeEnd, holdBack, displacement, Position.ofPoint]

/-- A swipe ends where it is held back by the edge ahead. This is on the screen, and where it was
going cut to the screen, exactly when it was going beyond no other edge. -/
theorem swipe_stops (hWidth : 0 ≤ width) (hHeight : 0 ≤ height) (p : Point)
    (direction : Direction) (distance : Int) (duration : Number) :
    ∃ stop time, swipe p direction width height (.int distance) (.ofNumber duration) =
        .ok ⟨[.ofPoint p (0 : Int), .ofPoint stop time]⟩ ∧
      stop = holdBack width height (p + direction.displacement distance) direction ∧
      (stop ∈ Bounds.screen width height ↔
        direction.Clears width height (p + direction.displacement distance)) ∧
      (stop = (Bounds.screen width height).clamp (p + direction.displacement distance) ↔
        direction.Clears width height (p + direction.displacement distance)) ∧
      (p ∈ Bounds.screen width height → 0 ≤ distance →
        direction.Clears width height (p + direction.displacement distance)) := by
  obtain ⟨time, hTime⟩ := duration.exists_zero_add
  refine ⟨_, time, ?_, rfl, holdBack_mem_iff direction hWidth hHeight,
    holdBack_eq_clamp_iff direction hWidth hHeight, clears_of_forward direction⟩
  simp only [swipe, Value.toNumber_int, ok_bind, swipeEnd_int, Value.toNumber_ofNumber, drag, hTime,
    Position.anchor_ofPoint]
  rfl

/-- A swipe up from the screen, and one down that starts to the left of it. -/
theorem swipe_stops_outside :
    (∃ stop time, swipe ⟨10, 10⟩ .up 1080 1920 (.int 75) (.int 250) =
        .ok ⟨[.ofPoint ⟨10, 10⟩ (0 : Int), .ofPoint stop time]⟩ ∧
      stop = (Bounds.screen 1080 1920).clamp ⟨10, -65⟩) ∧
    ∃ stop time, swipe ⟨-5, 10⟩ .down 1080 1920 (.int 75) (.int 250) =
        .ok ⟨[.ofPoint ⟨-5, 10⟩ (0 : Int), .ofPoint stop time]⟩ ∧
      stop ∉ Bounds.screen 1080 1920 := by
  constructor
  · obtain ⟨stop, time, hSwipe, _, _, hClamp, hForward⟩ :=
      @swipe_stops 1080 1920 (by decide) (by decide) ⟨10, 10⟩ .up 75 (.int 250)
    exact ⟨stop, time, hSwipe, hClamp.mpr (hForward (by decide) (by decide))⟩
  · obtain ⟨stop, time, hSwipe, _, hScreen, _, _⟩ :=
      @swipe_stops 1080 1920 (by decide) (by decide) ⟨-5, 10⟩ .down 75 (.int 250)
    refine ⟨stop, time, hSwipe, fun hMem => ?_⟩
    exact hScreen.mp hMem .left nofun (show (-5 : Int) < 0 by decide)

/-- A swipe up from below the screen ends below the screen. -/
theorem swipe_up_from_below :
    swipe ⟨10, 2000⟩ .up 1080 1920 (.int 75) (.int 250) =
      .ok ⟨[.ofPoint ⟨10, 2000⟩ (0 : Int), .ofPoint ⟨10, 1925⟩ (250 : Int)]⟩ ∧
    (⟨10, 1925⟩ : Point) ∉ Bounds.screen 1080 1920 ∧
    (Bounds.screen 1080 1920).clamp (⟨10, 2000⟩ + Direction.up.displacement 75) = ⟨10, 1920⟩ :=
  ⟨rfl, by decide, rfl⟩

end TouchPath
