import TouchPath.Proofs.Record
import TouchPath.Proofs.Script
import TouchPath.Proofs.Steps

/-! # Fingers of compiled timelines

A timeline of whole milliseconds that compiles has finite positions and an ascending clock, so its
path is sound and continuous, and is the same but for the check when it is compiled with another
one. In this way all fingers of a compiled script of standard shapes are sound and continuous,
whether it is compiled with the check or without.
-/
namespace TouchPath
set_option autoImplicit false

theorem exists_of_foldlM {α β ε : Type} {f : β → α → Except ε β} {xs : List α} {b c : β}
    (h : xs.foldlM f b = .ok c) {x : α} (hx : x ∈ xs) : ∃ b c, f b x = .ok c := by
  induction xs generalizing b with
  | nil => cases hx
  | cons y xs ih =>
    rw [List.foldlM_cons] at h
    obtain ⟨d, hd, h⟩ := bind_eq_ok_iff.mp h
    rcases List.mem_cons.mp hx with rfl | hx
    · exact ⟨b, d, hd⟩
    · exact ih h hx

theorem exists_neighbours_of_mem {α : Type} {a b x : α} {xs : List α} (h : x ∈ a :: b :: xs) :
    ∃ p ∈ neighbours (a :: b :: xs), x = p.1 ∨ x = p.2 := by
  induction xs generalizing a b with
  | nil =>
    refine ⟨(a, b), List.mem_cons_self, ?_⟩
    rwa [List.mem_pair] at h
  | cons c xs ih =>
    rw [neighbours_cons_cons]
    rcases List.mem_cons.mp h with rfl | h
    · exact ⟨_, List.mem_cons_self, .inl rfl⟩
    · obtain ⟨p, hp, hx⟩ := ih h
      exact ⟨p, List.mem_cons_of_mem _ hp, hx⟩

theorem Number.isFinite_of_round {a : Number} {n : Int} (h : a.round = .ok n) : a.IsFinite := by
  cases a with
  | int => trivial
  | float x =>
    rw [round] at h
    split at h
    · rename_i d hd
      rw [IsFinite, ← Dyadic.ofFloat?_isSome, hd]
      rfl
    · cases h

theorem Anchor.isSound_of_toPoint {a : Anchor} {p : Point} (h : a.toPoint = .ok p)
    (hWhole : a.time.isInt = true) : a.IsSound := by
  obtain ⟨x, hx, h⟩ := bind_eq_ok_iff.mp h
  obtain ⟨y, hy, _⟩ := bind_eq_ok_iff.mp h
  exact ⟨Number.isFinite_of_round hx, Number.isFinite_of_round hy, hWhole⟩

namespace Timeline

theorem toPoint_of_addLeg {p q : Path} {a b : Anchor} {i : Nat}
    (h : addLeg p ((a, b), i) = .ok q) :
    (∃ point, a.toPoint = .ok point) ∧ ∃ point, b.toPoint = .ok point := by
  obtain ⟨elapsed, _, h⟩ := bind_eq_ok_iff.mp h
  split at h
  · cases h
  · obtain ⟨start, hStart, h⟩ := bind_eq_ok_iff.mp h
    obtain ⟨stop, hStop, _⟩ := bind_eq_ok_iff.mp h
    exact ⟨⟨start, hStart⟩, ⟨stop, hStop⟩⟩

theorem isSound_of_compile {t : Timeline} {checked : Bool} {p : Path}
    (hWhole : ∀ a ∈ t.anchors, a.time.isInt = true) (h : t.compile checked = .ok p) :
    t.IsSound := by
  obtain ⟨anchors⟩ := t
  intro a ha
  have hPoint : ∃ point, a.toPoint = .ok point := by
    match anchors, ha with
    | [b], ha =>
      cases List.mem_singleton.mp ha
      obtain ⟨point, hPoint, _⟩ := bind_eq_ok_iff.mp h
      exact ⟨point, hPoint⟩
    | b :: c :: rest, ha =>
      -- every anchor is an end of some leg, and a leg is between two points
      obtain ⟨leg, hLeg, hEnd⟩ := exists_neighbours_of_mem ha
      obtain ⟨i, hi⟩ := List.mem_iff_getElem?.mp hLeg
      obtain ⟨p, q, hLegs⟩ := exists_of_foldlM h (List.mk_mem_zipIdx_iff_getElem?.mpr hi)
      obtain ⟨hStart, hStop⟩ := toPoint_of_addLeg hLegs
      rcases hEnd with rfl | rfl
      · exact hStart
      · exact hStop
  obtain ⟨point, hPoint⟩ := hPoint
  exact Anchor.isSound_of_toPoint hPoint (hWhole a ha)

/-- All that a timeline of whole milliseconds compiles to, whatever is checked. -/
structure CompilesTo (t : Timeline) (p : Path) : Prop where
  compile : ∀ checked, t.compile checked = .ok (p.rechecked checked)
  sound : p.IsSound
  continuous : p.isContinuous = true
  endTime : ∃ n : Int, p.endTime = .ok (.int n)

theorem compilesTo_segmentsOf {a : Anchor} {rest : List Anchor}
    (hSound : ∀ b ∈ a :: rest, b.IsSound) (hAscends : Ascends (a :: rest)) (checked : Bool) :
    (Timeline.mk (a :: rest)).CompilesTo ⟨.int a.millis, checked, segmentsOf (a :: rest)⟩ := by
  have hFollows := follows_segmentsOf hSound hAscends checked
  have hTimes : ∀ s ∈ segmentsOf (a :: rest), s.IsWhole ∧ 0 ≤ s.millis := by
    intro s hs
    obtain ⟨n, hTime, hNonneg⟩ := hFollows.nonneg s hs
    rw [Segment.IsWhole, Segment.millis, hTime]
    exact ⟨rfl, hNonneg⟩
  refine ⟨compile_cons_of_ascends hSound hAscends, ⟨⟨_, rfl⟩, fun s hs => (hTimes s hs).1,
    fun s hs => (hTimes s hs).2, fun _ => isChain_segmentsOf _⟩, hFollows.continuous, ?_⟩
  obtain ⟨b, hLast, hEnd⟩ := hFollows.endTime
  exact ⟨b.millis, by rw [hEnd, (hSound b (List.mem_of_getLast? hLast)).time_eq]⟩

theorem compilesTo_of_compile {t : Timeline} {checked : Bool} {p : Path}
    (hWhole : ∀ a ∈ t.anchors, a.time.isInt = true) (h : t.compile checked = .ok p) :
    t.CompilesTo p := by
  have hSound := isSound_of_compile hWhole h
  obtain ⟨anchors⟩ := t
  cases anchors with
  | nil => cases h
  | cons a rest =>
    by_cases hAscends : Ascends (a :: rest)
    · rw [compile_cons_of_ascends hSound hAscends] at h
      cases h
      exact compilesTo_segmentsOf hSound hAscends checked
    · obtain ⟨_, _, _, _, hFault⟩ := compile_cons_of_not_ascends hSound hAscends
      cases (hFault checked).symm.trans h

end Timeline

namespace Script

theorem compilesTo_of_compile? {settings : Settings} {steps : List Step} {touch : Touch}
    (h : (Script.mk steps (.standard settings)).compile? = .ok touch) :
    ∀ p ∈ touch.fingers, ∃ t : Timeline, t.CompilesTo p := by
  have hSteps : steps ≠ [] := by
    rintro rfl
    cases h
  obtain ⟨timelines, hTimelines, hPaths⟩ := (compile?_eq_ok_iff hSteps).mp h
  obtain ⟨built, hBuilt, rfl⟩ := timelines_eq_ok_iff.mp hTimelines
  obtain ⟨plans, _, hServes⟩ := plans_of_built hBuilt
  intro p hp
  obtain ⟨t, ht, hPath⟩ := exists_of_mem_right (mapM_eq_ok_iff.mp hPaths) hp
  obtain ⟨group, hGroup, ht⟩ := List.mem_flatten.mp ht
  obtain ⟨plan, _, hServed⟩ := exists_of_mem_right hServes hGroup
  exact ⟨t, Timeline.compilesTo_of_compile (hServed.fits t ht).whole hPath⟩

theorem endTime_of_compile? {settings : Settings} {steps : List Step} {touch : Touch}
    (h : (Script.mk steps (.standard settings)).compile? = .ok touch) :
    ∀ p ∈ touch.fingers, ∃ n : Int, p.endTime = .ok (.int n) := by
  intro p hp
  obtain ⟨_, hCompiles⟩ := compilesTo_of_compile? h p hp
  exact hCompiles.endTime

/-- The fingers of standard shapes end at whole milliseconds, so that the notice of a script does
not keep it from its touch. -/
theorem compile_report_standard (settings : Settings) (steps : List Step) :
    (Script.mk steps (.standard settings)).compile.report.1 =
      (Script.mk steps (.standard settings)).compile? := by
  cases h : (Script.mk steps (.standard settings)).compile? with
  | error f => exact compile_report_of_error h
  | ok touch =>
    obtain ⟨last, hLast⟩ := Touch.duration_of_whole (endTime_of_compile? h)
    exact compile_report_of_lasts h hLast

end Script
end TouchPath
