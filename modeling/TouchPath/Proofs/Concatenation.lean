import TouchPath.Proofs.Finger

/-! # Scripts one after the other

The steps of two scripts, taken as one script, compile when those of both do. Over the standard
shapes the touch then has the fingers of the first and after them those of the second, and lasts as
long as the later of the two (`Script.compile_append`). When the script fails, all steps have been
built before any timeline is compiled, so that the second script may fail it before the first does.
-/
namespace TouchPath
set_option autoImplicit false

namespace Script

theorem timelines_append (first second : List Step) (r : Registry) :
    (mk (first ++ second) r).timelines = do
      let front ← (mk first r).timelines
      let back ← (mk second r).timelines
      return front ++ back := by
  simp only [Script.timelines, List.mapM_append]
  cases first.mapM fun step => r.build step.shape (.dict step.params) with
  | error f => rfl
  | ok front =>
    cases second.mapM fun step => r.build step.shape (.dict step.params) with
    | error f => rfl
    | ok back => exact congrArg Except.ok List.flatten_append

variable {r : Registry} {settings : Settings} {first second : List Step}

theorem compile?_append_eq_ok_iff (hFirst : first ≠ []) (hSecond : second ≠ []) {touch : Touch} :
    (mk (first ++ second) r).compile? = .ok touch ↔ ∃ a b, (mk first r).compile? = .ok a ∧
      (mk second r).compile? = .ok b ∧ touch = ⟨a.fingers ++ b.fingers⟩ := by
  rw [compile?_eq_ok_iff (List.append_ne_nil_of_left_ne_nil hFirst second)]
  simp only [compile?_eq_ok_iff (s := mk first r) hFirst,
    compile?_eq_ok_iff (s := mk second r) hSecond]
  constructor
  · rintro ⟨timelines, hTimelines, hPaths⟩
    simp only [timelines_append, bind_eq_ok_iff] at hTimelines
    obtain ⟨front, hFront, back, hBack, hEq⟩ := hTimelines
    cases hEq
    rw [List.mapM_append, bind_eq_ok_iff] at hPaths
    obtain ⟨paths, hPaths, hRest⟩ := hPaths
    obtain ⟨paths', hPaths', hEq⟩ := bind_eq_ok_iff.mp hRest
    exact ⟨⟨paths⟩, ⟨paths'⟩, ⟨front, hFront, hPaths⟩, ⟨back, hBack, hPaths'⟩,
      congrArg Touch.mk (Except.ok.inj hEq).symm⟩
  · rintro ⟨a, b, ⟨front, hFront, hPaths⟩, ⟨back, hBack, hPaths'⟩, rfl⟩
    refine ⟨front ++ back, ?_, ?_⟩
    · rw [timelines_append, hFront, ok_bind, hBack]
      rfl
    · rw [List.mapM_append]
      simp only at hPaths hPaths' ⊢
      rw [hPaths, ok_bind, hPaths']
      rfl

/-- How two scripts over a registry compile as one. -/
structure Appends (r : Registry) (first second : List Step) : Prop where
  ok_iff : ∀ touch, (mk (first ++ second) r).compile.report.1 = .ok touch ↔ ∃ a b,
    (mk first r).compile.report.1 = .ok a ∧ (mk second r).compile.report.1 = .ok b ∧
      touch = ⟨a.fingers ++ b.fingers⟩
  lasts : ∀ a b, (mk first r).compile.report.1 = .ok a →
    (mk second r).compile.report.1 = .ok b →
      ∃ m n : Int, a.duration = .ok (.int m) ∧ b.duration = .ok (.int n) ∧
        Touch.duration ⟨a.fingers ++ b.fingers⟩ = .ok (.int (max m n))
  fault_iff : ∀ f, (mk (first ++ second) r).compile.report.1 = .error f ↔
    (mk (first ++ second) r).FailsWith f

theorem fingers_ne_nil_of_compile? (hSteps : first ≠ []) {touch : Touch}
    (h : (mk first (.standard settings)).compile? = .ok touch) : touch.fingers ≠ [] := by
  obtain ⟨timelines, hTimelines, hPaths⟩ := (compile?_eq_ok_iff hSteps).mp h
  obtain ⟨built, hBuilt, rfl⟩ := timelines_eq_ok_iff.mp hTimelines
  obtain ⟨plans, _, hServes⟩ := plans_of_built hBuilt
  obtain ⟨step, hStep⟩ := List.exists_mem_of_ne_nil first hSteps
  obtain ⟨group, hGroup, _⟩ := exists_of_mem_left hBuilt hStep
  obtain ⟨plan, _, hServed⟩ := exists_of_mem_right hServes hGroup
  obtain ⟨t, ht⟩ := List.exists_mem_of_length_pos (hServed.count ▸ hServed.fingers_pos)
  obtain ⟨p, hp, _⟩ := exists_of_mem_left (mapM_eq_ok_iff.mp hPaths)
    (List.mem_flatten_of_mem hGroup ht)
  exact List.ne_nil_of_mem hp

theorem compile_append (hFirst : first ≠ []) (hSecond : second ≠ []) :
    Appends (.standard settings) first second where
  ok_iff touch := by
    simp only [compile_report_standard]
    exact compile?_append_eq_ok_iff hFirst hSecond
  lasts a b ha hb := by
    rw [compile_report_standard] at ha hb
    obtain ⟨ends, hEnds⟩ := Touch.exists_endsAt (endTime_of_compile? ha)
    obtain ⟨ends', hEnds'⟩ := Touch.exists_endsAt (endTime_of_compile? hb)
    exact hEnds.duration_append hEnds' (fingers_ne_nil_of_compile? hFirst ha)
      (fingers_ne_nil_of_compile? hSecond hb)
  fault_iff f := by
    rw [compile_report_standard]
    exact compile?_eq_error_iff (List.append_ne_nil_of_left_ne_nil hFirst second)

/-- Two fingers that both end before the clock starts. -/
theorem compile_append_before_zero :
    ∃ tap drag, tap = ⟨"tap", [(.text "point", .list [.int 1, .int 2]),
        (.text "hold", .int 5), (.text "start_time", .int (-20))]⟩ ∧
      drag = ⟨"drag", [(.text "start", .list [.int 0, .int 0]),
        (.text "end", .list [.int 3, .int 4]), (.text "duration", .int 3),
        (.text "start_time", .int (-10))]⟩ ∧
      ∃ a b, (mk [tap] (.standard .standard)).compile.report.1 = .ok a ∧
        (mk [drag] (.standard .standard)).compile.report.1 = .ok b ∧
        (mk ([tap] ++ [drag]) (.standard .standard)).compile.report.1 =
          .ok ⟨a.fingers ++ b.fingers⟩ ∧
        Touch.duration ⟨a.fingers ++ b.fingers⟩ = .ok (.int (-7)) := by
  obtain ⟨tap, hTap⟩ : ∃ step : Step, step = ⟨"tap", [(.text "point", .list [.int 1, .int 2]),
    (.text "hold", .int 5), (.text "start_time", .int (-20))]⟩ := ⟨_, rfl⟩
  obtain ⟨drag, hDrag⟩ : ∃ step : Step, step = ⟨"drag", [(.text "start", .list [.int 0, .int 0]),
    (.text "end", .list [.int 3, .int 4]), (.text "duration", .int 3),
    (.text "start_time", .int (-10))]⟩ := ⟨_, rfl⟩
  have ha : (mk [tap] (.standard .standard)).compile.report.1 =
      .ok ⟨[⟨.int (-20), true, [⟨⟨1, 2⟩, ⟨1, 2⟩, .int 5⟩]⟩]⟩ := by
    rw [hTap, compile_report_standard]
    rfl
  have hb : (mk [drag] (.standard .standard)).compile.report.1 =
      .ok ⟨[⟨.int (-10), true, [⟨⟨0, 0⟩, ⟨3, 4⟩, .int 3⟩]⟩]⟩ := by
    rw [hDrag, compile_report_standard]
    rfl
  have hAppends :=
    @compile_append .standard _ _ (List.cons_ne_nil tap []) (List.cons_ne_nil drag [])
  refine ⟨tap, drag, hTap, hDrag, _, _, ha, hb, (hAppends.ok_iff _).mpr ⟨_, _, ha, hb, rfl⟩, ?_⟩
  obtain ⟨m, n, hm, hn, hMax⟩ := hAppends.lasts _ _ ha hb
  cases hm
  cases hn
  exact hMax

end Script
end TouchPath
