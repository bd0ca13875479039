import TouchPath.Proofs.Defaults
import TouchPath.Proofs.Delay

/-! # Start times

Circles, taps and drags may be started at any time, and are then later by as much in all their
anchors. This holds of curves too when neither their start nor their duration is negative; below
zero the means of the times of an arc are cut in the other direction (`Registry.build_startingAt`).
-/
namespace TouchPath
set_option autoImplicit false

theorem Value.same_text (v : Value) (key : String) :
    v.same (.text key) = (v.text? == some key) := by
  cases v <;> simp [same, text?, number?]

namespace Entries

theorem any_same_text (es : Entries) (key : String) :
    (es.any fun e => e.1.same (.text key)) = es.has key := by
  simp only [Value.same_text]
  rw [has, get?, Option.isSome_map, List.isSome_find?]

theorem get?_replace (es : Entries) (key other : String) (v : Value) :
    get? (es.map fun e => if e.1.same (.text key) then (e.1, v) else e) other =
      if other = key then (es.get? key).map fun _ => v else es.get? other := by
  induction es with
  | nil => simp
  | cons e es ih =>
    have hKey : (if e.1.same (.text key) then (e.1, v) else e).1 = e.1 := by split <;> rfl
    have hSame : e.1.same (.text key) = true ↔ e.1.text? = some key := by
      rw [Value.same_text, beq_iff_eq]
    rw [List.map_cons, get?_cons, ih, get?_cons, get?_cons, hKey]
    by_cases hOther : other = key
    · subst hOther
      by_cases hHere : e.1.text? = some other
      · simp [hHere, hSame.mpr hHere]
      · simp [hHere]
    · by_cases hHere : e.1.text? = some other
      · have hNot : ¬ e.1.same (.text key) = true := by simp [hSame, hHere, hOther]
        rw [if_pos hHere, if_neg hNot, if_neg hOther, if_pos hHere]
      · simp [hHere, hOther]

theorem get?_insert (es : Entries) (key other : String) (v : Value) :
    (es.insert (.text key) v).get? other = if other = key then some v else es.get? other := by
  rw [insert, any_same_text, has]
  cases hGet : es.get? key with
  | some w =>
    rw [Option.isSome_some, if_pos rfl, get?_replace, hGet]
    rfl
  | none =>
    rw [Option.isSome_none, if_neg Bool.false_ne_true, get?_append, get?_cons, get?_nil]
    by_cases hOther : other = key
    · simp [hOther, hGet, Value.text?]
    · simp [hOther, Ne.symm hOther, Value.text?]

/-- The parameters of a shape that is started at a time. -/
def startingAt (es : Entries) (ms : Int) : Entries := es.insert (.text "start_time") (.int ms)

theorem startingAt_of_not_has {es : Entries} (h : es.has "start_time" = false) (ms : Int) :
    es.startingAt ms = es ++ [(.text "start_time", .int ms)] := by
  rw [startingAt, insert, any_same_text, h, if_neg Bool.false_ne_true]

theorem int_startingAt (es : Entries) (ms : Int) (default : Value) :
    Param.int (.dict (es.startingAt ms)) "start_time" default = .ok ms := by
  have hGet : (es.startingAt ms).get? "start_time" = some (.int ms) := by
    rw [startingAt, get?_insert, if_pos rfl]
  rw [Param.int, Value.valueOr_of_some rfl hGet]
  rfl

theorem agreesOff_startingAt (es : Entries) (ms : Int) :
    (Value.dict (es.startingAt ms)).AgreesOff ["start_time"] (.dict es) := by
  apply Value.agreesOff_of_entries rfl rfl
  intro key hKey
  rw [startingAt, get?_insert, if_neg (by simpa using hKey)]

end Entries

namespace Builder

/-- Started later by `ms`, a builder makes its one timeline later by `ms`, or fails alike. -/
def Delays (b : Builder) (settings : Settings) (es : Entries) (ms : Int) : Prop :=
  ∃ early : Except Fault Timeline,
    b (.dict (es.startingAt 0)) settings = (fun t => [t]) <$> early ∧
    b (.dict (es.startingAt ms)) settings = (fun t => [t.later ms]) <$> early

variable {settings : Settings} {es : Entries} {ms : Int}

theorem delays_ofTimeline {build : Value → Settings → Except Fault Timeline}
    (h : build (.dict (es.startingAt ms)) settings =
      Timeline.later ms <$> build (.dict (es.startingAt 0)) settings) :
    (ofTimeline build).Delays settings es ms := by
  refine ⟨build (.dict (es.startingAt 0)) settings, ?_⟩
  rw [ofTimeline, ofTimeline, h]
  cases build (.dict (es.startingAt 0)) settings with
  | ok t => exact ⟨rfl, rfl⟩
  | error f => exact ⟨rfl, rfl⟩

theorem delays_circle (settings : Settings) (es : Entries) (ms : Int) :
    circle.Delays settings es ms := by
  apply delays_ofTimeline
  have h := es.agreesOff_startingAt
  have hCircle (center : Point) (radius total steps : Value) :
      TouchPath.circle center radius (.int ms) total steps =
        Timeline.later ms <$> TouchPath.circle center radius (.int 0) total steps := by
    rw [← circle_later, Int.zero_add]
  simp only [(h _).point "center" (by simp), (h _).float "radius" (by simp),
    (h _).int "duration" (by simp), (h _).int "steps" (by simp), es.int_startingAt, ok_bind,
    map_bind, hCircle]

theorem delays_tapHolding (hold : Settings → Value) (settings : Settings) (es : Entries)
    (ms : Int) : (tapHolding hold).Delays settings es ms := by
  apply delays_ofTimeline
  have h := es.agreesOff_startingAt
  have hTap (p : Point) (hold : Int) :
      TouchPath.tap p hold ms = Timeline.later ms <$> TouchPath.tap p hold (0 : Int) := by
    rw [TouchPath.tap, TouchPath.tap, ← drag_later, Int.zero_add]
  simp only [(h _).point "point" (by simp), (h _).int "hold" (by simp), es.int_startingAt, ok_bind,
    map_bind, hTap]

theorem delays_drag (settings : Settings) (es : Entries) (ms : Int) :
    drag.Delays settings es ms := by
  apply delays_ofTimeline
  have h := es.agreesOff_startingAt
  have hDrag (start stop : Point) (duration : Int) :
      TouchPath.drag start stop duration ms =
        Timeline.later ms <$> TouchPath.drag start stop duration (0 : Int) := by
    rw [← drag_later, Int.zero_add]
  simp only [(h _).point "start" (by simp), (h _).point "end" (by simp),
    (h _).int "duration" (by simp), es.int_startingAt, ok_bind, map_bind, hDrag]

theorem delays_curve (hMs : 0 ≤ ms) (hDuration : ∀ duration,
    Param.int (.dict es) "duration" settings.dragDuration = .ok duration → 0 ≤ duration) :
    curve.Delays settings es ms := by
  apply delays_ofTimeline
  have h := es.agreesOff_startingAt
  simp only [(h _).point "start" (by simp), (h _).point "end" (by simp),
    (h _).float "angle" (by simp), (h _).fieldD "positive" _ (by simp),
    (h _).int "duration" (by simp), es.int_startingAt, ok_bind]
  cases hRead : Param.int (.dict es) "duration" settings.dragDuration with
  | error f => rfl
  | ok duration =>
    have hNonneg := hDuration duration hRead
    have hCurve (start stop : Point) (degrees : Value) (positive : Bool) :
        TouchPath.curve (.ofPoint start ms) (.ofPoint stop (ms + duration : Int)) degrees positive =
          Timeline.later ms <$> TouchPath.curve (.ofPoint start (0 : Int))
            (.ofPoint stop duration) degrees positive := by
      have hStart : Arc.IsNonneg (.ofPoint start (0 : Int)) := ⟨0, rfl, le_refl 0⟩
      have hStop : Arc.IsNonneg (.ofPoint stop duration) := ⟨duration, rfl, hNonneg⟩
      rw [← curve_later hStart hStop degrees positive hMs, Anchor.later_ofPoint,
        Anchor.later_ofPoint, Int.zero_add, Int.add_comm duration]
    simp only [ok_bind, map_bind, Int.zero_add, hCurve]

end Builder

namespace Registry

/-- Shapes that may be started at a time, and for curves the times and durations for which they are
then the same curves, only later. -/
inductive Startable (settings : Settings) (es : Entries) (ms : Int) : String → Prop where
  | circle : Startable settings es ms "circle"
  | tap : Startable settings es ms "tap"
  | longPress : Startable settings es ms "long_press"
  | drag : Startable settings es ms "drag"
  | curve (start : 0 ≤ ms) (duration : ∀ duration,
      Param.int (.dict es) "duration" settings.dragDuration = .ok duration → 0 ≤ duration) :
      Startable settings es ms "curve"

variable {settings : Settings} {es : Entries} {ms : Int} {key : String}

theorem Startable.delays (h : Startable settings es ms key) :
    ∃ b, Builder.standard.lookup key = some b ∧ b.Delays settings es ms := by
  cases h with
  | circle => exact ⟨_, rfl, Builder.delays_circle settings es ms⟩
  | tap => exact ⟨_, rfl, Builder.delays_tapHolding _ settings es ms⟩
  | longPress => exact ⟨_, rfl, Builder.delays_tapHolding _ settings es ms⟩
  | drag => exact ⟨_, rfl, Builder.delays_drag settings es ms⟩
  | curve hStart hDuration => exact ⟨_, rfl, Builder.delays_curve hStart hDuration⟩

theorem Startable.build (h : Startable settings es ms key) :
    ∃ early : Except Fault Timeline,
      (standard settings).build key (.dict (es.startingAt 0)) =
        (fun t => [t]) <$> early ∧
      (standard settings).build key (.dict (es.startingAt ms)) =
        (fun t => [t.later ms]) <$> early := by
  obtain ⟨b, hb, early, hDelays⟩ := h.delays
  refine ⟨early, ?_, ?_⟩
  · rw [build_of_lookup rfl hb]
    exact hDelays.1
  · rw [build_of_lookup rfl hb]
    exact hDelays.2

/-- A shape that is started later is the same timeline shifted, and compiles to the same segments
from as much later, or fails at the same place. -/
theorem build_startingAt (h : Startable settings es ms key) :
    (∀ f, (standard settings).build key (.dict (es.startingAt ms)) = .error f ↔
      (standard settings).build key (.dict (es.startingAt 0)) = .error f) ∧
    ∀ timelines, (standard settings).build key (.dict (es.startingAt 0)) = .ok timelines →
      ∃ t u, timelines = [t] ∧
        (standard settings).build key (.dict (es.startingAt ms)) = .ok [u] ∧
        t.shifted (.int ms) = .ok u ∧
        List.Forall₂ (Anchor.IsDelayed ms) t.anchors u.anchors ∧
        ((∀ a ∈ t.anchors, a.x.IsFinite ∧ a.y.IsFinite) →
          ∀ checked, Timeline.CompileAlike ms t u checked) := by
  obtain ⟨early, hEarly, hLate⟩ := h.build
  cases early with
  | error e =>
    rw [hEarly, hLate]
    exact ⟨fun f => Iff.rfl, nofun⟩
  | ok t =>
    obtain ⟨_, plan, _, _, hServes⟩ := build_standard_serves hEarly
    have hFits := hServes.fits _ List.mem_cons_self
    constructor
    · intro f
      rw [hEarly, hLate]
      exact ⟨nofun, nofun⟩
    · intro timelines hTimelines
      cases hEarly.symm.trans hTimelines
      obtain ⟨a, rest, hAnchors⟩ := hFits.anchors_eq_cons
      refine ⟨t, t.later ms, rfl, hLate, Timeline.shifted_eq hFits.whole ms, ?_, ?_⟩
      · exact Timeline.isDelayed_later hFits.whole ms
      · intro hFinite checked
        exact Timeline.compile_later (hFits.isSound hFinite) (hAnchors ▸ List.cons_ne_nil a rest)
          ms checked

/-- A drag that is started before zero, and a curve that is started after it. -/
theorem build_startingAt_drag :
    (∃ p q, (standard .standard).build "drag" (.dict [(.text "start", .list [.int 1, .int 2]),
          (.text "end", .list [.int 4, .int 6]), (.text "start_time", .int (-70))]) =
        .ok [⟨[⟨.int 1, .int 2, .int (-70)⟩, ⟨.int 4, .int 6, .int 430⟩]⟩] ∧
      Timeline.compile ⟨[⟨.int 1, .int 2, .int 0⟩, ⟨.int 4, .int 6, .int 500⟩]⟩ true = .ok p ∧
      Timeline.compile ⟨[⟨.int 1, .int 2, .int (-70)⟩, ⟨.int 4, .int 6, .int 430⟩]⟩ true = .ok q ∧
      p.IsLater (-70) q) ∧
    ∃ t u, (standard .standard).build "curve" (.dict [(.text "start", .list [.int 1, .int 2]),
          (.text "end", .list [.int 1, .int 2]), (.text "angle", .int 90),
          (.text "start_time", .int 0)]) = .ok [t] ∧
      (standard .standard).build "curve" (.dict [(.text "start", .list [.int 1, .int 2]),
          (.text "end", .list [.int 1, .int 2]), (.text "angle", .int 90),
          (.text "start_time", .int 7)]) = .ok [u] ∧
      t.shifted (.int 7) = .ok u := by
  constructor
  · let es : Entries := [(.text "start", .list [.int 1, .int 2]),
      (.text "end", .list [.int 4, .int 6])]
    let t : Timeline := ⟨[⟨.int 1, .int 2, .int 0⟩, ⟨.int 4, .int 6, .int 500⟩]⟩
    have hStarting (ms : Int) : es.startingAt ms = _ := Entries.startingAt_of_not_has rfl ms
    have hEarly : (standard .standard).build "drag" (.dict (es.startingAt 0)) =
        .ok [t] := by
      rw [hStarting]
      rfl
    have hDrag : Startable .standard es (-70) "drag" := .drag
    obtain ⟨t', u, hTimeline, hLate, hShifted, _, hCompile⟩ := (build_startingAt hDrag).2 _ hEarly
    rw [hStarting] at hLate
    cases hTimeline
    cases hShifted
    have hFinite : ∀ a ∈ t.anchors, a.x.IsFinite ∧ a.y.IsFinite := by
      rw [List.forall_mem_cons, List.forall_mem_singleton]
      exact ⟨⟨trivial, trivial⟩, trivial, trivial⟩
    cases hCompile hFinite true with
    | paths hPath hPathLate hLater => exact ⟨_, _, hLate, hPath, hPathLate, hLater⟩
    | backwards _ hFault _ => cases hFault
  · let es : Entries := [(.text "start", .list [.int 1, .int 2]),
      (.text "end", .list [.int 1, .int 2]), (.text "angle", .int 90)]
    have hStarting (ms : Int) : es.startingAt ms = _ := Entries.startingAt_of_not_has rfl ms
    have hCurve : Startable .standard es 7 "curve" := by
      refine .curve (by decide) ?_
      rintro _ hDuration
      cases hDuration
      decide
    have hReturns : ((standard .standard).build "curve" (.dict (es.startingAt 0))).toOption.isSome =
        true := by
      rw [hStarting]
      decide +kernel
    obtain ⟨timelines, hTimelines⟩ := Option.isSome_iff_exists.mp hReturns
    have hEarly := eq_ok_of_toOption hTimelines
    obtain ⟨t, u, rfl, hLate, hShifted, _⟩ := (build_startingAt hCurve).2 _ hEarly
    rw [hStarting] at hEarly hLate
    exact ⟨t, u, hEarly, hLate, hShifted⟩

end Registry
end TouchPath
