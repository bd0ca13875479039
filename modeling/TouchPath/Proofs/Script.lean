import TouchPath.Proofs.Registry
import TouchPath.Proofs.Writable
import TouchPath.Script

/-! # Scripts of standard shapes

The steps of a script that can be built have plans. When no plan has a negative length, every finger
compiles to a path that keeps its plan, and the script is a touch. Otherwise it fails at the first
backward step of the first finger that has one (`Script.compile_standard`).
-/
namespace TouchPath
set_option autoImplicit false

/-- What a step of a script is to do under the settings. -/
def Step.plan (settings : Settings) (step : Step) : Except Fault Plan :=
  match Timing.standard.lookup step.shape with
  | some timing => timing.plan (.dict step.params) settings
  | none => .error .missingKey

theorem Step.plan_of_build {settings : Settings} {step : Step} {timelines : List Timeline}
    (h : (Registry.standard settings).build step.shape (.dict step.params) = .ok timelines) :
    ∃ plan, step.plan settings = .ok plan ∧ plan.Serves timelines := by
  obtain ⟨timing, plan, hTiming, hPlan, hServes⟩ := Registry.build_standard_serves h
  refine ⟨plan, ?_, hServes⟩
  rw [Step.plan, hTiming]
  exact hPlan

/-- The fingers of one step. -/
structure Plan.KeptBy (plan : Plan) (fingers : List Path) : Prop where
  count : fingers.length = plan.fingers
  keeps : ∀ p ∈ fingers, plan.Keeps p

def Timeline.AllFinite (timelines : List Timeline) : Prop :=
  ∀ t ∈ timelines, ∀ a ∈ t.anchors, a.x.IsFinite ∧ a.y.IsFinite

namespace Plan

variable {plan : Plan} {timelines : List Timeline} {plans : List Plan}
  {built : List (List Timeline)}

theorem Serves.compile_kept (hServes : plan.Serves timelines)
    (hFinite : Timeline.AllFinite timelines) (hLength : 0 ≤ plan.length) (checked : Bool) :
    ∃ paths, timelines.mapM (Timeline.compile · checked) = .ok paths ∧ plan.KeptBy paths := by
  have hEach : ∀ t ∈ timelines, ∃ p, t.compile checked = .ok p ∧ plan.Keeps p := by
    intro t ht
    exact (hServes.fits t ht).compile_keeps (hFinite t ht) hLength checked
  obtain ⟨paths, hPaths, hCount, hKeeps⟩ := mapM_ok_of_forall_exists hEach
  exact ⟨paths, hPaths, hCount.trans hServes.count, hKeeps⟩

theorem compile_kept_of_nonneg (hServes : List.Forall₂ Serves plans built)
    (hFinite : Timeline.AllFinite built.flatten) (hLengths : ∀ plan ∈ plans, 0 ≤ plan.length)
    (checked : Bool) :
    ∃ groups, built.flatten.mapM (Timeline.compile · checked) = .ok groups.flatten ∧
      List.Forall₂ KeptBy plans groups := by
  induction hServes with
  | nil => exact ⟨[], rfl, .nil⟩
  | @cons plan timelines plans built hHead _ ih =>
    obtain ⟨hLength, hLengths⟩ := List.forall_mem_cons.mp hLengths
    rw [List.flatten_cons] at hFinite ⊢
    obtain ⟨paths, hPaths, hKept⟩ := hHead.compile_kept
      (fun t ht => hFinite t (List.mem_append_left _ ht)) hLength checked
    obtain ⟨groups, hGroups, hRest⟩ := ih
      (fun t ht => hFinite t (List.mem_append_right _ ht)) hLengths
    refine ⟨paths :: groups, ?_, .cons hKept hRest⟩
    rw [List.mapM_append, hPaths, ok_bind, hGroups]
    rfl

theorem length_flatten_of_kept {groups : List (List Path)} (h : List.Forall₂ KeptBy plans groups) :
    groups.flatten.length = (plans.map fingers).sum := by
  induction h with
  | nil => rfl
  | cons hKept _ ih =>
    rw [List.flatten_cons, List.length_append, hKept.count, ih, List.map_cons, List.sum_cons]

theorem endTime_of_kept {groups : List (List Path)} (h : List.Forall₂ KeptBy plans groups) :
    ∀ p ∈ groups.flatten, ∃ n : Int, p.endTime = .ok (.int n) := by
  intro p hp
  obtain ⟨group, hGroup, hp⟩ := List.mem_flatten.mp hp
  obtain ⟨plan, _, hKept⟩ := exists_of_mem_right h hGroup
  exact (hKept.keeps p hp).endTime

theorem compile_backwards_of_neg (hServes : List.Forall₂ Serves plans built)
    (hFinite : Timeline.AllFinite built.flatten) (hBack : ∃ plan ∈ plans, plan.length < 0)
    (checked : Bool) : ∃ t i a b, t ∈ built.flatten ∧ t.FirstBackstep i a b ∧
      built.flatten.mapM (Timeline.compile · checked) =
        fail (.clockBackwards (i + 1) b.time a.time) := by
  cases hEnd : built.flatten.mapM (Timeline.compile · checked) with
  | ok paths =>
    obtain ⟨plan, hPlan, hLength⟩ := hBack
    obtain ⟨timelines, hTimelines, hServed⟩ := exists_of_mem_left hServes hPlan
    obtain ⟨t, ht⟩ := List.exists_mem_of_length_pos (hServed.count ▸ hServed.fingers_pos)
    have hMem : t ∈ built.flatten := List.mem_flatten_of_mem hTimelines ht
    obtain ⟨p, hPath⟩ := mapM_isOk_iff.mp ⟨paths, hEnd⟩ t hMem
    obtain ⟨i, a, b, _, hFault⟩ :=
      (hServed.fits t ht).compile_backwards (hFinite t hMem) hLength
    exact ((fail_ne_ok _ p).mp ((hFault checked).symm.trans hPath)).elim
  | error f =>
    obtain ⟨front, t, rest, hSplit, _, hPath⟩ := mapM_eq_error_iff.mp hEnd
    have hMem : t ∈ built.flatten := by
      rw [hSplit]
      exact List.mem_append_right front List.mem_cons_self
    obtain ⟨timelines, hTimelines, ht⟩ := List.mem_flatten.mp hMem
    obtain ⟨plan, _, hServed⟩ := exists_of_mem_right hServes hTimelines
    rcases Int.lt_or_le plan.length 0 with hLength | hLength
    · obtain ⟨i, a, b, hStep, hFault⟩ :=
        (hServed.fits t ht).compile_backwards (hFinite t hMem) hLength
      have hEq := hPath.symm.trans (hFault checked)
      rw [fail_eq_error] at hEq
      cases hEq
      exact ⟨t, i, a, b, hMem, hStep, rfl⟩
    · obtain ⟨p, hOk, _⟩ :=
        (hServed.fits t ht).compile_keeps (hFinite t hMem) hLength checked
      cases hOk.symm.trans hPath

end Plan

namespace Touch

theorem duration_of_whole {touch : Touch}
    (h : ∀ p ∈ touch.fingers, ∃ n : Int, p.endTime = .ok (.int n)) :
    ∃ n : Int, touch.duration = .ok (.int n) := by
  obtain ⟨ends, hEnds⟩ := exists_endsAt h
  exact ⟨_, hEnds.duration⟩

end Touch

namespace Script

theorem plans_of_built {settings : Settings} {steps : List Step} {built : List (List Timeline)}
    (h : List.Forall₂ (fun step timelines =>
      (Registry.standard settings).build step.shape (.dict step.params) = .ok timelines)
      steps built) :
    ∃ plans, steps.mapM (Step.plan settings) = .ok plans ∧
      List.Forall₂ Plan.Serves plans built := by
  induction h with
  | nil => exact ⟨[], rfl, .nil⟩
  | cons hStep _ ih =>
    obtain ⟨plan, hPlan, hServes⟩ := Step.plan_of_build hStep
    obtain ⟨plans, hPlans, hRest⟩ := ih
    refine ⟨plan :: plans, ?_, .cons hServes hRest⟩
    rw [List.mapM_cons, hPlan, ok_bind, hPlans]
    rfl

/-- The notice of a script has no part in its result. -/
theorem compile_report_fst (s : Script) : s.compile.report.1 = do
    let touch ← s.compile?
    let _ ← touch.duration
    return touch := by
  simp only [compile, Reported.report_eq_after, Reported.after_bind, Reported.after_lift]
  cases s.compile? with
  | error f => rfl
  | ok touch =>
    simp only [ok_bind]
    cases touch.duration <;> rfl

theorem compile_report_of_lasts {s : Script} {touch : Touch} {last : Number}
    (h : s.compile? = .ok touch) (hLast : touch.duration = .ok last) :
    s.compile.report.1 = .ok touch := by
  rw [compile_report_fst, h, ok_bind, hLast]
  rfl

theorem compile_report_of_error {s : Script} {f : Fault} (h : s.compile? = .error f) :
    s.compile.report.1 = .error f := by
  rw [compile_report_fst, h]
  rfl

theorem compile?_eq_bind {s : Script} (hSteps : s.steps ≠ []) : s.compile? =
    s.timelines >>= fun timelines =>
      Timeline.compileAll timelines s.registry.settings.checkContinuity.truthy := by
  rw [compile?, if_neg (by rwa [List.isEmpty_iff])]

theorem compile?_of_timelines {s : Script} {timelines : List Timeline} (hSteps : s.steps ≠ [])
    (hTimelines : s.timelines = .ok timelines) :
    s.compile? = Timeline.compileAll timelines s.registry.settings.checkContinuity.truthy := by
  rw [compile?_eq_bind hSteps, hTimelines, ok_bind]

/-- A script over the standard shapes ends by the lengths of its plans, whatever its settings say
about continuity. -/
theorem compile_standard {settings : Settings} {steps : List Step} {timelines : List Timeline}
    (hSteps : steps ≠ [])
    (hTimelines : (Script.mk steps (.standard settings)).timelines = .ok timelines)
    (hFinite : Timeline.AllFinite timelines) :
    ∃ plans, steps.mapM (Step.plan settings) = .ok plans ∧
      ((∃ touch, (Script.mk steps (.standard settings)).compile.report.1 = .ok touch) ↔
        ∀ plan ∈ plans, 0 ≤ plan.length) ∧
      ((∃ plan ∈ plans, plan.length < 0) →
        ∃ t i a b, t ∈ timelines ∧ t.FirstBackstep i a b ∧
          (Script.mk steps (.standard settings)).compile.report.1 =
            if b.time.IsWritable ∧ a.time.IsWritable then
              .error (.clockBackwards (i + 1) b.time a.time)
            else .error .badValue) ∧
      ((∀ plan ∈ plans, 0 ≤ plan.length) → ∃ groups,
        List.Forall₂ Plan.KeptBy plans groups ∧
        groups.flatten.length = (plans.map Plan.fingers).sum ∧
        (Script.mk steps (.standard settings)).compile.report.1 = .ok ⟨groups.flatten⟩) := by
  obtain ⟨built, hBuilt, hEq⟩ := bind_eq_ok_iff.mp hTimelines
  cases hEq
  obtain ⟨plans, hPlans, hServes⟩ := plans_of_built (mapM_eq_ok_iff.mp hBuilt)
  obtain ⟨checked, hCompile⟩ : ∃ checked, (Script.mk steps (.standard settings)).compile? =
      Timeline.compileAll built.flatten checked := ⟨_, compile?_of_timelines hSteps hTimelines⟩
  rw [Timeline.compileAll] at hCompile
  have hBackwards : (∃ plan ∈ plans, plan.length < 0) →
      ∃ t i a b, t ∈ built.flatten ∧ t.FirstBackstep i a b ∧
        (Script.mk steps (.standard settings)).compile.report.1 =
          fail (.clockBackwards (i + 1) b.time a.time) := by
    intro hBack
    obtain ⟨t, i, a, b, hMem, hStep, hFault⟩ :=
      Plan.compile_backwards_of_neg hServes hFinite hBack checked
    refine ⟨t, i, a, b, hMem, hStep, ?_⟩
    apply compile_report_of_error
    rw [hCompile, hFault, fail_bind, fail_eq_error]
  have hKept : (∀ plan ∈ plans, 0 ≤ plan.length) → ∃ groups,
      List.Forall₂ Plan.KeptBy plans groups ∧
      groups.flatten.length = (plans.map Plan.fingers).sum ∧
      (Script.mk steps (.standard settings)).compile.report.1 = .ok ⟨groups.flatten⟩ := by
    intro hLengths
    obtain ⟨groups, hPaths, hKept⟩ :=
      Plan.compile_kept_of_nonneg hServes hFinite hLengths checked
    have hDuration : ∃ n : Int, Touch.duration ⟨groups.flatten⟩ = .ok (.int n) :=
      Touch.duration_of_whole (Plan.endTime_of_kept hKept)
    obtain ⟨last, hLast⟩ := hDuration
    refine ⟨groups, hKept, Plan.length_flatten_of_kept hKept, compile_report_of_lasts ?_ hLast⟩
    rw [hCompile, hPaths]
    rfl
  refine ⟨plans, hPlans, ⟨?_, fun hLengths => ?_⟩, fun hBack => ?_, hKept⟩
  · rintro ⟨touch, hTouch⟩ plan hPlan
    by_contra hNegative
    obtain ⟨_, _, _, _, _, _, hFault⟩ := hBackwards ⟨plan, hPlan, Int.not_le.mp hNegative⟩
    exact (fail_ne_ok _ touch).mp (hFault.symm.trans hTouch)
  · obtain ⟨groups, _, _, hTouch⟩ := hKept hLengths
    exact ⟨_, hTouch⟩
  · obtain ⟨t, i, a, b, hMem, hStep, hFault⟩ := hBackwards hBack
    rw [fail_clockBackwards] at hFault
    exact ⟨t, i, a, b, hMem, hStep, hFault⟩

theorem compile_standard_taps :
    ∃ step timelines, step = ⟨"double_tap", [(.text "point", .list [.int 1, .int 2]),
        (.text "interval", .int (-7))]⟩ ∧
      (Script.mk [step] (.standard .standard)).timelines = .ok timelines ∧
      Timeline.AllFinite timelines ∧
      ∃ groups, List.Forall₂ Plan.KeptBy [⟨2, 1, 0, false⟩] groups ∧
        groups.flatten.length = 2 ∧
        (Script.mk [step] (.standard .standard)).compile.report.1 = .ok ⟨groups.flatten⟩ := by
  obtain ⟨step, hStep⟩ : ∃ step : Step, step = ⟨"double_tap",
    [(.text "point", .list [.int 1, .int 2]), (.text "interval", .int (-7))]⟩ := ⟨_, rfl⟩
  have hTimelines : (Script.mk [step] (.standard .standard)).timelines =
      .ok [⟨[⟨.int 1, .int 2, .int 0⟩, ⟨.int 1, .int 2, .int 0⟩]⟩,
        ⟨[⟨.int 1, .int 2, .int (-7)⟩, ⟨.int 1, .int 2, .int (-7)⟩]⟩] := by
    rw [hStep]
    rfl
  have hFinite : Timeline.AllFinite [⟨[⟨.int 1, .int 2, .int 0⟩, ⟨.int 1, .int 2, .int 0⟩]⟩,
      ⟨[⟨.int 1, .int 2, .int (-7)⟩, ⟨.int 1, .int 2, .int (-7)⟩]⟩] := by
    simp [Timeline.AllFinite, Number.IsFinite]
  refine ⟨step, _, hStep, hTimelines, hFinite, ?_⟩
  obtain ⟨plans, hPlans, _, _, hKept⟩ := compile_standard (List.cons_ne_nil _ _) hTimelines hFinite
  rw [hStep] at hPlans
  cases hPlans
  exact hKept (by simp)

/-- A backward step whose times cannot be written is raised as an unusable value. -/
theorem compile_standard_unwritable :
    ∃ step timelines, step = ⟨"drag", [(.text "start", .list [.int 0, .int 0]),
        (.text "end", .list [.int 1, .int 1]), (.text "duration", .int (-1)),
        (.text "start_time", .int (1 - unwritable))]⟩ ∧
      (Script.mk [step] (.standard .standard)).timelines = .ok timelines ∧
      Timeline.AllFinite timelines ∧ step.plan .standard = .ok ⟨1, 1, -1, false⟩ ∧
      (Script.mk [step] (.standard .standard)).compile.report.1 = .error .badValue := by
  obtain ⟨step, hStep⟩ : ∃ step : Step, step = ⟨"drag", [(.text "start", .list [.int 0, .int 0]),
    (.text "end", .list [.int 1, .int 1]), (.text "duration", .int (-1)),
    (.text "start_time", .int (1 - unwritable))]⟩ := ⟨_, rfl⟩
  have hMinus : (1 - unwritable + -1 : Int) = -unwritable := by omega
  have hTimelines : (Script.mk [step] (.standard .standard)).timelines =
      .ok [⟨[⟨.int 0, .int 0, .int (1 - unwritable)⟩, ⟨.int 1, .int 1, .int (-unwritable)⟩]⟩] := by
    rw [hStep, ← hMinus]
    rfl
  have hLong : ¬ (Number.int (-unwritable)).IsWritable := by
    rw [Number.isWritable_int, Int.natAbs_neg, Int.natAbs_natCast]
    exact Nat.lt_irrefl _
  have hCompile (checked : Bool) : (Timeline.mk [⟨.int 0, .int 0, .int (1 - unwritable)⟩,
      ⟨.int 1, .int 1, .int (-unwritable)⟩]).compile checked = .error .badValue := by
    have hStart : (Anchor.mk (.int 0) (.int 0) (.int (1 - unwritable))).IsSound :=
      Anchor.isSound_ofPoint ⟨0, 0⟩ _
    have hStop : (Anchor.mk (.int 1) (.int 1) (.int (-unwritable))).IsSound :=
      Anchor.isSound_ofPoint ⟨1, 1⟩ _
    change (neighbours _).zipIdx.foldlM Timeline.addLeg _ = _
    rw [neighbours_cons_cons, List.zipIdx_cons, List.foldlM_cons, Timeline.addLeg_eq hStart hStop,
      if_pos, fail_bind, fail_clockBackwards, if_neg (fun h => hLong h.1)]
    · change (-unwritable : Int) < 1 - unwritable
      omega
  refine ⟨step, _, hStep, hTimelines, ?_, ?_, ?_⟩
  · intro t ht a ha
    cases List.mem_singleton.mp ht
    rcases List.mem_pair.mp ha with rfl | rfl <;> exact ⟨trivial, trivial⟩
  · rw [hStep]
    rfl
  · rw [compile_report_fst, compile?_of_timelines (List.cons_ne_nil _ _) hTimelines,
      Timeline.compileAll, List.mapM_cons, hCompile]
    rfl

end Script
end TouchPath
