import TouchPath.Proofs.Arc
import TouchPath.Proofs.Circle
import TouchPath.Proofs.Shape
import TouchPath.Registry

/-! # Plans of the standard shapes

A timing tells how a shape is planned from its parameters and the settings. Every standard builder
heeds the timing of its name: the timelines that it makes fit the plan.
-/
namespace TouchPath
set_option autoImplicit false

/-- The parameter that says how long a shape lasts, with its default, and how many fingers and legs
the shape has. -/
structure Timing where
  key : String
  default : Settings → Value
  fingers : Nat
  legs : Value → Settings → Except Fault Int := fun _ _ => .ok 1
  rounded : Bool := false

namespace Timing

def plan (timing : Timing) (params : Value) (settings : Settings) : Except Fault Plan := do
  let length ← Param.int params timing.key (timing.default settings)
  let legs ← timing.legs params settings
  return ⟨timing.fingers, legs.toNat, length, timing.rounded⟩

/-- A shape that lasts a duration, with one leg for each finger. -/
def lasting (default : Settings → Value) (fingers : Nat) : Timing where
  key := "duration"
  default
  fingers

def holding (default : Settings → Value) (fingers : Nat) : Timing where
  key := "hold"
  default
  fingers

def circle : Timing where
  key := "duration"
  default := Settings.circleDuration
  fingers := 1
  legs params settings := Param.int params "steps" settings.circleSteps
  rounded := true

def curve : Timing where
  key := "duration"
  default := Settings.dragDuration
  fingers := 1
  legs _ _ := .ok 32

def standard : List (String × Timing) :=
  [("circle", circle), ("curve", curve), ("tap", holding Settings.tapHold 1),
    ("long_press", holding Settings.longPressHold 1), ("double_tap", holding Settings.tapHold 2),
    ("drag", lasting Settings.dragDuration 1), ("swipe", lasting Settings.swipeDuration 1),
    ("pinch_in", lasting Settings.pinchDuration 2), ("pinch_out", lasting Settings.pinchDuration 2)]

theorem plan_eq {timing : Timing} {params : Value} {settings : Settings} {length : Int} {n : Nat}
    (hLength : Param.int params timing.key (timing.default settings) = .ok length)
    (hLegs : timing.legs params settings = .ok (n : Int)) :
    timing.plan params settings = .ok ⟨timing.fingers, n, length, timing.rounded⟩ := by
  rw [plan, hLength, ok_bind, hLegs]
  rfl

end Timing

/-- Timelines for all fingers of a plan. -/
structure Plan.Serves (plan : Plan) (timelines : List Timeline) : Prop where
  count : timelines.length = plan.fingers
  fingers_pos : 0 < plan.fingers
  fits : ∀ t ∈ timelines, plan.Fits t

namespace Builder

def Heeds (b : Builder) (timing : Timing) : Prop :=
  ∀ params settings timelines, b params settings = .ok timelines →
    ∃ plan, timing.plan params settings = .ok plan ∧ plan.Serves timelines

theorem heeds_ofTimeline {build : Value → Settings → Except Fault Timeline} {timing : Timing}
    (h : ∀ params settings t, build params settings = .ok t →
      ∃ plan, timing.plan params settings = .ok plan ∧ plan.fingers = 1 ∧ plan.Fits t) :
    (ofTimeline build).Heeds timing := by
  intro params settings timelines hTimelines
  obtain ⟨t, ht, hEq⟩ := bind_eq_ok_iff.mp hTimelines
  cases hEq
  obtain ⟨plan, hPlan, hCount, hFits⟩ := h params settings t ht
  exact ⟨plan, hPlan, hCount.symm, hCount ▸ Nat.one_pos, List.forall_mem_singleton.mpr hFits⟩

theorem heeds_circle : circle.Heeds .circle := by
  apply heeds_ofTimeline
  intro params settings t h
  simp only [bind_eq_ok_iff] at h
  obtain ⟨_, _, _, _, _, _, duration, hDuration, _, hSteps, h⟩ := h
  obtain ⟨n, rfl, hFits⟩ := fits_circle h
  exact ⟨_, Timing.plan_eq hDuration hSteps, rfl, hFits⟩

theorem heeds_curve : curve.Heeds .curve := by
  apply heeds_ofTimeline
  intro params settings t h
  simp only [bind_eq_ok_iff] at h
  obtain ⟨startTime, _, duration, hDuration, _, _, _, _, _, _, _, _, h⟩ := h
  have hFits := fits_curve rfl rfl h
  have hLength : startTime + duration - startTime = duration := by omega
  rw [Anchor.millis_ofPoint, Anchor.millis_ofPoint, hLength] at hFits
  exact ⟨_, Timing.plan_eq hDuration rfl, rfl, hFits⟩

theorem heeds_tapHolding (hold : Settings → Value) : (tapHolding hold).Heeds (.holding hold 1) := by
  apply heeds_ofTimeline
  intro params settings t h
  simp only [bind_eq_ok_iff] at h
  obtain ⟨_, _, hold, hHold, _, _, h⟩ := h
  exact ⟨_, Timing.plan_eq hHold rfl, rfl, fits_drag h⟩

theorem heeds_doubleTap : doubleTap.Heeds (.holding Settings.tapHold 2) := by
  intro params settings timelines h
  simp only [doubleTap, bind_eq_ok_iff] at h
  obtain ⟨_, _, _, _, hold, hHold, h⟩ := h
  obtain ⟨hCount, hFits⟩ := fits_doubleTap h
  exact ⟨_, Timing.plan_eq hHold rfl, hCount, Nat.two_pos, hFits⟩

theorem heeds_drag : drag.Heeds (.lasting Settings.dragDuration 1) := by
  apply heeds_ofTimeline
  intro params settings t h
  simp only [bind_eq_ok_iff] at h
  obtain ⟨_, _, _, _, duration, hDuration, _, _, h⟩ := h
  exact ⟨_, Timing.plan_eq hDuration rfl, rfl, fits_drag h⟩

theorem heeds_swipe : swipe.Heeds (.lasting Settings.swipeDuration 1) := by
  apply heeds_ofTimeline
  intro params settings t h
  simp only [bind_eq_ok_iff] at h
  obtain ⟨_, _, _, _, _, _, _, _, _, _, duration, hDuration, _, _, h⟩ := h
  exact ⟨_, Timing.plan_eq hDuration rfl, rfl, fits_swipe h⟩

theorem heeds_pinchIn : pinchIn.Heeds (.lasting Settings.pinchDuration 2) := by
  intro params settings timelines h
  simp only [pinchIn, bind_eq_ok_iff] at h
  obtain ⟨_, _, duration, hDuration, _, _, h⟩ := h
  obtain ⟨hCount, hFits⟩ := fits_pinchIn h
  exact ⟨_, Timing.plan_eq hDuration rfl, hCount, Nat.two_pos, hFits⟩

theorem heeds_pinchOut : pinchOut.Heeds (.lasting Settings.pinchDuration 2) := by
  intro params settings timelines h
  simp only [pinchOut, bind_eq_ok_iff] at h
  obtain ⟨_, _, duration, hDuration, h⟩ := h
  obtain ⟨hCount, hFits⟩ := fits_pinchOut h
  exact ⟨_, Timing.plan_eq hDuration rfl, hCount, Nat.two_pos, hFits⟩

theorem standard_heed :
    List.Forall₂ (fun b timing => b.1 = timing.1 ∧ b.2.Heeds timing.2) standard
      Timing.standard := by
  unfold standard Timing.standard
  refine .cons ⟨rfl, heeds_circle⟩ <| .cons ⟨rfl, heeds_curve⟩ <| .cons ⟨rfl, heeds_tapHolding _⟩ <|
    .cons ⟨rfl, heeds_tapHolding _⟩ <| .cons ⟨rfl, heeds_doubleTap⟩ <| .cons ⟨rfl, heeds_drag⟩ <|
    .cons ⟨rfl, heeds_swipe⟩ <| .cons ⟨rfl, heeds_pinchIn⟩ <| .cons ⟨rfl, heeds_pinchOut⟩ .nil

end Builder

section

variable {α β : Type} {R : α → β → Prop} {xs : List (String × α)} {ys : List (String × β)}

/-- Tables with the same keys and related entries give related answers. -/
theorem lookup_of_forall₂ (h : List.Forall₂ (fun x y => x.1 = y.1 ∧ R x.2 y.2) xs ys)
    {key : String} {a : α} (ha : xs.lookup key = some a) :
    ∃ b, ys.lookup key = some b ∧ R a b := by
  induction h with
  | nil => cases ha
  | @cons x y xs ys hxy _ ih =>
    obtain ⟨k, a'⟩ := x
    obtain ⟨k', b⟩ := y
    obtain ⟨rfl, hR⟩ := hxy
    rw [List.lookup_cons] at ha ⊢
    cases hKey : key == k with
    | true =>
      rw [hKey] at ha
      cases ha
      exact ⟨b, rfl, hR⟩
    | false =>
      rw [hKey] at ha
      exact ih ha

end

namespace Registry

theorem truthy_or_empty (params : Entries) :
    (if (Value.dict params).truthy then Value.dict params else .dict []) = .dict params := by
  cases params <;> rfl

theorem build_standard {settings : Settings} {key : String} {params : Entries}
    {timelines : List Timeline}
    (h : (standard settings).build key (.dict params) = .ok timelines) :
    ∃ b, Builder.standard.lookup key = some b ∧ b (.dict params) settings = .ok timelines := by
  rw [build, truthy_or_empty] at h
  split at h
  · rename_i b hb
    exact ⟨b, hb, h⟩
  · cases h

theorem build_standard_serves {settings : Settings} {key : String} {params : Entries}
    {timelines : List Timeline}
    (h : (standard settings).build key (.dict params) = .ok timelines) :
    ∃ timing plan, Timing.standard.lookup key = some timing ∧
      timing.plan (.dict params) settings = .ok plan ∧ plan.Serves timelines := by
  obtain ⟨b, hb, hTimelines⟩ := build_standard h
  obtain ⟨timing, hTiming, hHeeds⟩ := lookup_of_forall₂ Builder.standard_heed hb
  obtain ⟨plan, hPlan, hServes⟩ := hHeeds (.dict params) settings timelines hTimelines
  exact ⟨timing, plan, hTiming, hPlan, hServes⟩

end Registry
end TouchPath
