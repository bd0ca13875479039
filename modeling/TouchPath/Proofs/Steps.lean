import TouchPath.Proofs.Script

/-! # Scripts step by step

A script asks one registry for all its steps, in their order. The first step that cannot be built
ends it before any timeline is compiled; then the first timeline that cannot be compiled does. A
registry that is given to a script is the one that it asks, unless it has no builders: such a
registry is replaced by the standard one (`Script.runsOn_given`).
-/
namespace TouchPath
set_option autoImplicit false

def Step.build (step : Step) (r : Registry) : Except Fault (List Timeline) :=
  r.build step.shape (.dict step.params)

theorem Registry.build_of_not_has {r : Registry} {key : String} (h : r.has key = false)
    (params : Value) :
    r.build key params = .error (.unknownShape key (Settings.sortedNames r.keys)) := by
  have hNone : r.builders.lookup key = none := by
    rw [List.lookup_eq_none_iff]
    intro entry hEntry
    rw [bne_iff_ne]
    rintro rfl
    have hKey : entry.1 ∈ r.keys := List.mem_map_of_mem hEntry
    rw [has, List.contains_eq_mem, decide_eq_false_iff_not] at h
    exact h hKey
  rw [build, hNone]
  rfl

namespace Script

/-- The first step that cannot be built ends a script, or else the first timeline that cannot be
compiled. -/
inductive FailsWith (s : Script) (f : Fault) : Prop where
  | building {front rest : List Step} {step : Step} (hSteps : s.steps = front ++ step :: rest)
      (hFront : ∀ e ∈ front, ∃ timelines, e.build s.registry = .ok timelines)
      (hStep : step.build s.registry = .error f)
  | compiling {front rest : List Timeline} {timeline : Timeline}
      (hTimelines : s.timelines = .ok (front ++ timeline :: rest))
      (hFront : ∀ t ∈ front, ∃ p, t.compile s.registry.settings.checkContinuity.truthy = .ok p)
      (hTimeline : timeline.compile s.registry.settings.checkContinuity.truthy = .error f)

/-- What a script does that asks a registry for its steps. -/
structure RunsOn (s : Script) (r : Registry) : Prop where
  timelines_iff : ∀ timelines, s.timelines = .ok timelines ↔ ∃ built,
    List.Forall₂ (fun step ts => step.build r = .ok ts) s.steps built ∧ timelines = built.flatten
  fault_iff : ∀ f, s.timelines = .error f ↔ ∃ front step rest, s.steps = front ++ step :: rest ∧
    (∀ e ∈ front, ∃ timelines, e.build r = .ok timelines) ∧ step.build r = .error f
  unregistered : ∀ front step rest, s.steps = front ++ step :: rest →
    (∀ e ∈ front, ∃ timelines, e.build r = .ok timelines) → r.has step.shape = false →
      s.timelines = .error (.unknownShape step.shape (Settings.sortedNames r.keys))
  compile : s.steps ≠ [] → s.compile? =
    s.timelines >>= fun timelines => Timeline.compileAll timelines r.settings.checkContinuity.truthy

theorem timelines_eq_ok_iff {s : Script} {timelines : List Timeline} :
    s.timelines = .ok timelines ↔ ∃ built,
      List.Forall₂ (fun step ts => step.build s.registry = .ok ts) s.steps built ∧
        timelines = built.flatten := by
  rw [Script.timelines, bind_eq_ok_iff]
  constructor
  · rintro ⟨built, hBuilt, hEq⟩
    cases hEq
    exact ⟨built, mapM_eq_ok_iff.mp hBuilt, rfl⟩
  · rintro ⟨built, hBuilt, rfl⟩
    exact ⟨built, mapM_eq_ok_iff.mpr hBuilt, rfl⟩

theorem timelines_eq_error_iff {s : Script} {f : Fault} : s.timelines = .error f ↔
    ∃ front step rest, s.steps = front ++ step :: rest ∧
      (∀ e ∈ front, ∃ timelines, e.build s.registry = .ok timelines) ∧
        step.build s.registry = .error f := by
  rw [Script.timelines, bind_eq_error_iff]
  constructor
  · rintro (hError | ⟨_, _, hError⟩)
    · exact mapM_eq_error_iff.mp hError
    · cases hError
  · exact fun h => .inl (mapM_eq_error_iff.mpr h)

theorem compile?_eq_ok_iff {s : Script} (hSteps : s.steps ≠ []) {touch : Touch} :
    s.compile? = .ok touch ↔ ∃ timelines, s.timelines = .ok timelines ∧
      timelines.mapM (Timeline.compile · s.registry.settings.checkContinuity.truthy) =
        .ok touch.fingers := by
  rw [compile?_eq_bind hSteps, bind_eq_ok_iff]
  apply exists_congr
  intro timelines
  apply and_congr_right
  intro _
  rw [Timeline.compileAll, bind_eq_ok_iff]
  constructor
  · rintro ⟨fingers, hFingers, hEq⟩
    cases hEq
    exact hFingers
  · exact fun hFingers => ⟨_, hFingers, rfl⟩

theorem compile?_eq_error_iff {s : Script} (hSteps : s.steps ≠ []) {f : Fault} :
    s.compile? = .error f ↔ s.FailsWith f := by
  rw [compile?_eq_bind hSteps, bind_eq_error_iff]
  constructor
  · rintro (hBuild | ⟨timelines, hTimelines, hCompile⟩)
    · obtain ⟨front, step, rest, hSplit, hFront, hStep⟩ := timelines_eq_error_iff.mp hBuild
      exact .building hSplit hFront hStep
    · rcases bind_eq_error_iff.mp hCompile with hError | ⟨_, _, hError⟩
      · obtain ⟨front, timeline, rest, rfl, hFront, hTimeline⟩ := mapM_eq_error_iff.mp hError
        exact .compiling hTimelines hFront hTimeline
      · cases hError
  · rintro (⟨hSplit, hFront, hStep⟩ | ⟨hTimelines, hFront, hTimeline⟩)
    · exact .inl (timelines_eq_error_iff.mpr ⟨_, _, _, hSplit, hFront, hStep⟩)
    · refine .inr ⟨_, hTimelines, bind_eq_error_iff.mpr (.inl ?_)⟩
      exact mapM_eq_error_iff.mpr ⟨_, _, _, rfl, hFront, hTimeline⟩

theorem runsOn_registry (s : Script) : s.RunsOn s.registry where
  timelines_iff _ := timelines_eq_ok_iff
  fault_iff _ := timelines_eq_error_iff
  unregistered _ _ _ hSplit hFront hKey :=
    timelines_eq_error_iff.mpr ⟨_, _, _, hSplit, hFront, Registry.build_of_not_has hKey _⟩
  compile := compile?_eq_bind

theorem make_of_builders {r : Registry} (h : r.builders ≠ []) (steps : List Step) :
    make steps (some r) = ⟨steps, r⟩ := by
  rw [make, if_neg (by rwa [List.isEmpty_iff])]

theorem make_of_no_builders {r : Registry} (h : r.builders = []) (steps : List Step) :
    make steps (some r) = make steps none := by
  rw [make, h]
  rfl

theorem timelines_tap (x y : Int) :
    (make [⟨"tap", [(.text "point", .list [.int x, .int y])]⟩] none).timelines =
      .ok [⟨[⟨.int x, .int y, .int 0⟩, ⟨.int x, .int y, .int 0⟩]⟩] := rfl

/-- A registry is asked for the steps of every script that it is given to when it has builders, and
for those of none when it has not. -/
theorem runsOn_given (r : Registry) :
    ((∀ steps, (make steps (some r)).RunsOn r) ↔ r.builders ≠ []) ∧
    (r.builders = [] → ∀ steps, make steps (some r) = make steps none) ∧
    (∀ steps, (make steps none).RunsOn (.standard .standard)) ∧
    ∀ v, ofValue v (some r) = do return make (← ofValue v none).steps (some r) := by
  refine ⟨⟨?_, ?_⟩, make_of_no_builders, fun steps => runsOn_registry _, ?_⟩
  · -- without builders a tap is still built, which the registry itself does not know
    intro hRuns hNone
    have hTap := (hRuns [⟨"tap", [(.text "point", .list [.int 0, .int 0])]⟩]).unregistered [] _ []
      rfl nofun (by rw [Registry.has, Registry.keys, hNone]; rfl)
    rw [make_of_no_builders hNone, timelines_tap] at hTap
    cases hTap
  · intro hBuilders steps
    rw [make_of_builders hBuilders]
    exact runsOn_registry _
  · intro v
    simp only [ofValue]
    generalize (if v.truthy then v else Value.dict []).fieldD "fingers" (.list []) = field
    cases field with
    | error f => rfl
    | ok fingers =>
      simp only [ok_bind]
      split
      · cases List.mapM Step.ofValue _ <;> rfl
      · rfl

/-- A registry without builders does not know a tap, but the script that is given it does. -/
theorem runsOn_given_empty :
    ∃ step, step = ⟨"tap", [(.text "point", .list [.int 1, .int 2])]⟩ ∧
      step.build (.empty .standard) = .error (.unknownShape "tap" []) ∧
      (make [step] (some (.empty .standard))).timelines =
        .ok [⟨[⟨.int 1, .int 2, .int 0⟩, ⟨.int 1, .int 2, .int 0⟩]⟩] ∧
      ¬ (make [step] (some (.empty .standard))).RunsOn (.empty .standard) := by
  have hUnknown : (Step.mk "tap" [(.text "point", .list [.int 1, .int 2])]).build
      (.empty .standard) = .error (.unknownShape "tap" []) := by
    rw [Step.build, Registry.build_of_not_has rfl]
    simp [Settings.sortedNames, Registry.keys, Registry.empty]
  refine ⟨_, rfl, hUnknown, timelines_tap 1 2, fun hRuns => ?_⟩
  obtain ⟨built, hBuilt, _⟩ := (hRuns.timelines_iff _).mp (timelines_tap 1 2)
  cases hBuilt with
  | cons hStep _ => cases hUnknown.symm.trans hStep

end Script
end TouchPath
