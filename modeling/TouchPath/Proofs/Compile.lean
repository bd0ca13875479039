import TouchPath.Compile
import TouchPath.Proofs.Timeline

/-! # Compiled timelines

A timeline of sound anchors compiles when it has an anchor and its clock never runs backwards, and
then becomes the path of its legs. Otherwise it fails at its first backward step. Continuity is
never at fault: a leg starts at the pixel where the one before it stopped.
-/
namespace TouchPath
set_option autoImplicit false

namespace Timeline

def legSegment (leg : Anchor × Anchor) : Segment :=
  ⟨leg.1.pixel, leg.2.pixel, (leg.2.millis - leg.1.millis : Int)⟩

/-- The segments of a timeline; a single anchor is a tap. -/
def segmentsOf : List Anchor → List Segment
  | [a] => [⟨a.pixel, a.pixel, (0 : Int)⟩]
  | anchors => (neighbours anchors).map legSegment

theorem addLeg_eq {a b : Anchor} (ha : a.IsSound) (hb : b.IsSound) (p : Path) (i : Nat) :
    addLeg p ((a, b), i) =
      if b.millis < a.millis then fail (.clockBackwards (i + 1) b.time a.time)
      else p.add (legSegment (a, b)) := by
  unfold addLeg legSegment
  simp only [ha.time_eq, hb.time_eq, ha.toPoint_eq, hb.toPoint_eq, Number.sub_int, ok_bind,
    Number.lt_int, decide_eq_true_eq]
  exact if_congr (by omega) rfl rfl

theorem addLeg_of_le {a b : Anchor} (ha : a.IsSound) (hb : b.IsSound) {p : Path} (i : Nat)
    (hTime : a.millis ≤ b.millis)
    (hStop : p.StopsAt a.pixel) :
    addLeg p ((a, b), i) = .ok (p.append (legSegment (a, b))) := by
  rw [addLeg_eq ha hb, if_neg (Int.not_lt.mpr hTime)]
  apply Path.add_of_stopsAt
  · change Number.lt ((b.millis - a.millis : Int) : Number) (0 : Int) = false
    rw [Number.lt_int, decide_eq_false_iff_not]
    omega
  · exact fun _ => hStop

/-- The legs of an ascending timeline all fit, behind a path that stopped where it starts. -/
theorem addLegs_of_ascends {a : Anchor} {rest : List Anchor} (hSound : ∀ b ∈ a :: rest, b.IsSound)
    (hAscends : Ascends (a :: rest)) (p : Path) (k : Nat)
    (hStop : p.StopsAt a.pixel) :
    ((neighbours (a :: rest)).zipIdx k).foldlM addLeg p =
      .ok { p with segments := p.segments ++ (neighbours (a :: rest)).map legSegment } := by
  -- the path stops at the pixel of the anchor that the next leg starts from
  induction rest generalizing a p k with
  | nil => simp [pure, Except.pure]
  | cons b rest ih =>
    obtain ⟨hab, hRest⟩ := List.isChain_cons_cons.mp hAscends
    have ha := hSound a List.mem_cons_self
    have hb := hSound b (by simp)
    rw [neighbours_cons_cons, List.zipIdx_cons, List.foldlM_cons,
      addLeg_of_le ha hb k hab hStop, ok_bind,
      ih (fun c hc => hSound c (List.mem_cons_of_mem _ hc)) hRest _ _
        (Path.append_stopsAt _ _)]
    simp [Path.append]

/-- The first backward step ends the legs with its fault, whatever path they are added to. -/
theorem addLegs_of_not_ascends {a : Anchor} {rest : List Anchor}
    (hSound : ∀ b ∈ a :: rest, b.IsSound) (hBack : ¬ Ascends (a :: rest)) :
    ∃ i b c, FirstBackstep ⟨a :: rest⟩ i b c ∧ ∀ (p : Path) (k : Nat), p.StopsAt a.pixel →
      ((neighbours (a :: rest)).zipIdx k).foldlM addLeg p =
        fail (.clockBackwards (k + i + 1) c.time b.time) := by
  induction rest generalizing a with
  | nil => exact absurd (List.isChain_singleton a) hBack
  | cons b rest ih =>
    have ha := hSound a List.mem_cons_self
    have hb := hSound b (by simp)
    by_cases hab : a.millis ≤ b.millis
    · have hRest : ¬ Ascends (b :: rest) := fun h => hBack (List.isChain_cons_cons.mpr ⟨hab, h⟩)
      obtain ⟨i, c, d, hStep, hFault⟩ := ih (fun c hc => hSound c (List.mem_cons_of_mem _ hc)) hRest
      refine ⟨i + 1, c, d, ⟨hStep.at_index, hStep.back, ?_⟩, ?_⟩
      · intro j hj leg hLeg
        cases j with
        | zero =>
          cases hLeg
          rw [ha.time_eq, hb.time_eq, Number.le_int, decide_eq_true_eq]
          exact hab
        | succ j => exact hStep.first j (by omega) leg hLeg
      · intro p k hStop
        rw [neighbours_cons_cons, List.zipIdx_cons, List.foldlM_cons,
          addLeg_of_le ha hb k hab hStop, ok_bind, hFault _ _ (Path.append_stopsAt _ _)]
        congr 2
        omega
    · refine ⟨0, a, b, ⟨rfl, ?_, by omega⟩, ?_⟩
      · rw [ha.time_eq, hb.time_eq, Number.lt_int, decide_eq_true_eq]
        omega
      · intro p k _
        rw [neighbours_cons_cons, List.zipIdx_cons, List.foldlM_cons, addLeg_eq ha hb,
          if_pos (by omega), fail_bind]

theorem compile_cons_of_ascends {a : Anchor} {rest : List Anchor}
    (hSound : ∀ b ∈ a :: rest, b.IsSound) (hAscends : Ascends (a :: rest)) (checked : Bool) :
    (Timeline.mk (a :: rest)).compile checked =
      .ok ⟨.int a.millis, checked, segmentsOf (a :: rest)⟩ := by
  have ha := hSound a List.mem_cons_self
  cases rest with
  | nil =>
    simp only [compile, ha.toPoint_eq, ok_bind, ha.time_eq]
    exact Path.add_of_stopsAt rfl (fun _ => Path.empty_stopsAt _ _ _)
  | cons b rest =>
    simp only [compile, ha.time_eq]
    rw [addLegs_of_ascends hSound hAscends _ _ (Path.empty_stopsAt _ _ _)]
    rfl

theorem compile_cons_of_not_ascends {a : Anchor} {rest : List Anchor}
    (hSound : ∀ b ∈ a :: rest, b.IsSound) (hBack : ¬ Ascends (a :: rest)) :
    ∃ i b c, FirstBackstep ⟨a :: rest⟩ i b c ∧ ∀ checked,
      (Timeline.mk (a :: rest)).compile checked =
        fail (.clockBackwards (i + 1) c.time b.time) := by
  cases rest with
  | nil => exact absurd (List.isChain_singleton a) hBack
  | cons b rest =>
    obtain ⟨i, c, d, hStep, hFault⟩ := addLegs_of_not_ascends hSound hBack
    refine ⟨i, c, d, hStep, fun checked => ?_⟩
    have hEnd := hFault (Path.empty (.ofNumber a.time) checked) 0 (Path.empty_stopsAt _ _ _)
    rwa [Nat.zero_add] at hEnd

/-- A segment between the nearest pixels of two anchors, as long as their times lie apart. -/
structure IsLeg (leg : Anchor × Anchor) (s : Segment) : Prop where
  start : leg.1.toPoint = .ok s.start
  stop : leg.2.toPoint = .ok s.stop
  time : leg.2.time.sub leg.1.time = .ok s.time

structure Follows (t : Timeline) (p : Path) : Prop where
  offset : ∃ a, t.first? = some a ∧ p.offset = .ofNumber a.time
  endTime : ∃ a, t.last? = some a ∧ p.endTime = .ok a.time
  continuous : p.isContinuous = true
  nonneg : ∀ s ∈ p.segments, ∃ n : Int, s.time = .int n ∧ 0 ≤ n
  tap : ∀ a, t.anchors = [a] → ∃ q, a.toPoint = .ok q ∧ p.segments = [⟨q, q, (0 : Int)⟩]
  legs : 2 ≤ t.size → p.segments.length = t.size - 1 ∧
    List.Forall₂ IsLeg (neighbours t.anchors) p.segments

theorem isLeg_legSegment {a b : Anchor} (ha : a.IsSound) (hb : b.IsSound) :
    IsLeg (a, b) (legSegment (a, b)) where
  start := ha.toPoint_eq
  stop := hb.toPoint_eq
  time := by rw [ha.time_eq, hb.time_eq]; rfl

theorem mem_of_mem_neighbours {α : Type} {xs : List α} {p : α × α} (h : p ∈ neighbours xs) :
    p.1 ∈ xs ∧ p.2 ∈ xs :=
  ⟨(List.of_mem_zip h).1, List.mem_of_mem_tail (List.of_mem_zip h).2⟩

theorem isChain_legs (anchors : List Anchor) :
    ((neighbours anchors).map legSegment).IsChain fun s t => s.stop = t.start := by
  induction anchors with
  | nil => exact List.isChain_nil
  | cons a anchors ih =>
    match anchors, ih with
    | [], _ => exact List.isChain_nil
    | [b], _ => exact List.isChain_singleton _
    | b :: c :: rest, ih =>
      rw [neighbours_cons_cons, List.map_cons, neighbours_cons_cons, List.map_cons,
        List.isChain_cons_cons]
      exact ⟨rfl, ih⟩

theorem isChain_segmentsOf (anchors : List Anchor) :
    (segmentsOf anchors).IsChain fun s t => s.stop = t.start := by
  unfold segmentsOf
  split
  · exact List.isChain_singleton _
  · exact isChain_legs _

/-- The times of the segments, which add up to the whole time of the timeline. -/
def elapsedTimes : List Anchor → List Int
  | [_] => [0]
  | anchors => (neighbours anchors).map fun leg => leg.2.millis - leg.1.millis

theorem time_segmentsOf (anchors : List Anchor) :
    (segmentsOf anchors).map (·.time) = (elapsedTimes anchors).map Number.int := by
  match anchors with
  | [] => rfl
  | [_] => rfl
  | a :: b :: rest =>
    rw [segmentsOf, elapsedTimes, List.map_map, List.map_map]
    · rfl
    · exact nofun
    · exact nofun

theorem sum_elapsedTimes (a : Anchor) (rest : List Anchor) :
    (elapsedTimes (a :: rest)).sum =
      ((a :: rest).getLast (List.cons_ne_nil a rest)).millis - a.millis := by
  cases rest with
  | nil => simp [elapsedTimes]
  | cons b rest => exact sum_elapsed a (b :: rest)

theorem nonneg_of_mem_elapsedTimes {anchors : List Anchor} (hAscends : Ascends anchors) {n : Int}
    (h : n ∈ elapsedTimes anchors) : 0 ≤ n := by
  unfold elapsedTimes at h
  split at h
  · simp_all
  · obtain ⟨leg, hLeg, rfl⟩ := List.mem_map.mp h
    have hLe := forall_neighbours_iff.mpr hAscends leg hLeg
    omega

theorem follows_segmentsOf {a : Anchor} {rest : List Anchor} (hSound : ∀ b ∈ a :: rest, b.IsSound)
    (hAscends : Ascends (a :: rest)) (checked : Bool) :
    (Timeline.mk (a :: rest)).Follows ⟨.int a.millis, checked, segmentsOf (a :: rest)⟩ where
  offset := ⟨a, rfl, by rw [(hSound a List.mem_cons_self).time_eq]; rfl⟩
  endTime := by
    refine ⟨_, List.getLast?_eq_some_getLast (List.cons_ne_nil a rest), ?_⟩
    rw [Path.endTime_eq_add rfl (time_segmentsOf _), sum_elapsedTimes,
      (hSound _ (List.getLast_mem _)).time_eq]
    congr 2
    omega
  continuous := (Path.isContinuous_iff_isChain _).mpr (isChain_segmentsOf _)
  nonneg := by
    intro s hs
    have hTime : s.time ∈ (elapsedTimes (a :: rest)).map Number.int :=
      time_segmentsOf (a :: rest) ▸ List.mem_map_of_mem hs
    obtain ⟨n, hn, hEq⟩ := List.mem_map.mp hTime
    exact ⟨n, hEq.symm, nonneg_of_mem_elapsedTimes hAscends hn⟩
  tap := by
    rintro b hb
    cases hb
    exact ⟨a.pixel, (hSound a List.mem_cons_self).toPoint_eq, rfl⟩
  legs := by
    intro hSize
    cases rest with
    | nil => exact absurd hSize (by simp [size])
    | cons b rest =>
      change ((neighbours (a :: b :: rest)).map legSegment).length = (a :: b :: rest).length - 1 ∧
        List.Forall₂ IsLeg (neighbours (a :: b :: rest))
          ((neighbours (a :: b :: rest)).map legSegment)
      constructor
      · rw [List.length_map, length_neighbours]
      · rw [List.forall₂_map_right_iff, List.forall₂_same]
        intro leg hLeg
        obtain ⟨hFirst, hSecond⟩ := mem_of_mem_neighbours hLeg
        exact isLeg_legSegment (hSound _ hFirst) (hSound _ hSecond)

theorem compile_ok_iff_isMonotonic {t : Timeline} (hSound : t.IsSound) (checked : Bool) :
    ((∃ p, t.compile checked = .ok p) ↔ t.anchors ≠ [] ∧ t.isMonotonic = true) ∧
    (∀ p, t.compile checked = .ok p → t.Follows p) ∧
    (t.anchors = [] → t.compile checked = .error .emptyTimeline) ∧
    (t.anchors ≠ [] → t.isMonotonic = false → ∃ i a b, t.FirstBackstep i a b ∧
      t.compile checked = fail (.clockBackwards (i + 1) b.time a.time)) ∧
    (∀ f, t.compile checked = .error f → f.family? ≠ some .continuity) ∧
    ∀ other, (t.compile other).map Path.segments = (t.compile checked).map Path.segments := by
  have hMonotonic := isMonotonic_iff_isChain hSound
  obtain ⟨anchors⟩ := t
  cases anchors with
  | nil =>
    have hEmpty (c : Bool) : (Timeline.mk []).compile c = .error .emptyTimeline := rfl
    simp only [hEmpty]
    refine ⟨by simp, nofun, fun _ => trivial, by simp, ?_, fun _ => trivial⟩
    intro f hf
    cases hf
    exact nofun
  | cons a rest =>
    by_cases hAscends : Ascends (a :: rest)
    · have hOk := compile_cons_of_ascends hSound hAscends
      simp only [hOk]
      refine ⟨by simp [hMonotonic, hAscends], ?_, by simp, ?_, nofun, fun _ => rfl⟩
      · intro p hp
        cases hp
        exact follows_segmentsOf hSound hAscends checked
      · intro _ hFalse
        rw [hMonotonic.mpr hAscends] at hFalse
        cases hFalse
    · obtain ⟨i, b, c, hStep, hFault⟩ := compile_cons_of_not_ascends hSound hAscends
      simp only [hFault]
      refine ⟨by simp [hMonotonic, hAscends], by simp, by simp, ?_, ?_, fun _ => trivial⟩
      · exact fun _ _ => ⟨i, b, c, hStep, rfl⟩
      · intro f hf
        rw [fail_eq_error] at hf
        cases hf
        rcases Fault.raised_eq_or (.clockBackwards (i + 1) c.time b.time) with h | h <;>
          rw [h] <;> exact nofun

theorem compile_ok_iff_isMonotonic_below_zero :
    ∃ t : Timeline, t.anchors = [⟨.float 0.5, .int 2, .int (-9)⟩, ⟨.float 1.5, .int 2, .int (-9)⟩,
      ⟨.int 7, .int 8, .int (-2)⟩] ∧ t.IsSound ∧ ∃ p, t.compile true = .ok p ∧ t.Follows p := by
  have hHalf : (Number.float 0.5).IsFinite := by
    change Float.isFinite _ = true
    decide +kernel
  have hNext : (Number.float 1.5).IsFinite := by
    change Float.isFinite _ = true
    decide +kernel
  refine ⟨⟨_⟩, rfl, ?_⟩
  have hSound : (Timeline.mk [⟨.float 0.5, .int 2, .int (-9)⟩, ⟨.float 1.5, .int 2, .int (-9)⟩,
      ⟨.int 7, .int 8, .int (-2)⟩]).IsSound := by
    simp only [IsSound, List.forall_mem_cons, List.not_mem_nil, false_implies, implies_true,
      and_true]
    exact ⟨⟨hHalf, trivial, rfl⟩, ⟨hNext, trivial, rfl⟩, ⟨trivial, trivial, rfl⟩⟩
  obtain ⟨hIff, hFollows, _⟩ := compile_ok_iff_isMonotonic hSound true
  obtain ⟨p, hp⟩ := hIff.mpr ⟨nofun, rfl⟩
  exact ⟨hSound, p, hp, hFollows p hp⟩

end Timeline
end TouchPath
