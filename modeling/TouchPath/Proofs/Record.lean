import TouchPath.Gesture.Record
import TouchPath.Proofs.Growth

/-! # Touches written and read back

A touch that was grown from whole milliseconds is read back from what it is written as, finger by
finger. Reading without the check always succeeds; reading with it needs every finger to be
continuous, and fails at the first gap of the first finger that is not (`Touch.read_back`), by name
as long as the message can be written. What is read at all is grown in this way, so that writing and
reading it again changes nothing.
-/
namespace TouchPath
set_option autoImplicit false

theorem Segment.isWhole_of_ofValue {v : Value} {s : Segment} (h : ofValue v = .ok s) :
    s.IsWhole := by
  simp only [ofValue, bind_eq_ok_iff] at h
  obtain ⟨_, _, _, _, _, _, _, _, time, _, h⟩ := h
  cases h
  rfl

theorem Segment.IsWhole.ofValue_toValue {s : Segment} (h : s.IsWhole) :
    ofValue s.toValue = .ok s := by
  have hTime := h.time_eq
  obtain ⟨start, stop, time⟩ := s
  dsimp only at hTime
  rw [hTime]
  exact Segment.ofValue_toValue start stop _

namespace Path

/-- Made of segments of whole milliseconds, and then offered more of them. -/
inductive Reachable : Path → Prop where
  | made {segments : List Segment} {offset : Int} {checked : Bool} {p : Path}
      (hWhole : ∀ s ∈ segments, s.IsWhole)
      (hMade : ofSegments segments (.int offset) checked = .ok p) : Reachable p
  | offered {p : Path} {s : Segment} (h : Reachable p) (hWhole : s.IsWhole) :
      Reachable (p.offered s).2

theorem Reachable.isSound {p : Path} (h : p.Reachable) : p.IsSound := by
  induction h with
  | made hWhole hMade => exact isSound_of_ofSegments hWhole hMade
  | offered _ hWhole ih => exact ih.offered hWhole

/-- A segment that does not stop where the next one starts, at the first such place. -/
structure FirstGap (p : Path) (i : Nat) (s t : Segment) : Prop where
  at_index : (neighbours p.segments)[i]? = some (s, t)
  apart : s.stop ≠ t.start
  first : ∀ j < i, ∀ q, (neighbours p.segments)[j]? = some q → q.1.stop = q.2.start

def rechecked (p : Path) (checked : Bool) : Path := { p with checked }

theorem addAll_of_chained {p : Path} {segments : List Segment}
    (hWhole : ∀ s ∈ segments, s.IsWhole) (hNonneg : ∀ s ∈ segments, 0 ≤ s.millis)
    (hChained : p.checked = true →
      (p.segments ++ segments).IsChain fun s t => s.stop = t.start) :
    p.addAll segments = .ok { p with segments := p.segments ++ segments } := by
  induction segments generalizing p with
  | nil => simp [addAll, pure, Except.pure]
  | cons s segments ih =>
    obtain ⟨hHead, hTail⟩ := List.forall_mem_cons.mp hWhole
    obtain ⟨hTime, hTimes⟩ := List.forall_mem_cons.mp hNonneg
    have hStops : p.checked = true → p.StopsAt s.start := fun hChecked last hLast =>
      (List.isChain_append.mp (hChained hChecked)).2.2 last hLast s rfl
    have hRest : (p.append s).checked = true →
        ((p.append s).segments ++ segments).IsChain fun s t => s.stop = t.start := by
      intro hChecked
      rw [append_segments, List.append_assoc]
      exact hChained hChecked
    rw [addAll_cons, add_of_stopsAt (hHead.not_negative hTime) hStops, ok_bind,
      ih hTail hTimes hRest, append_segments, List.append_assoc]
    rfl

/-- Behind a checked path that ends with a segment, the first gap ends the others. -/
theorem addAll_of_gap {a : Segment} {rest : List Segment}
    (hWhole : ∀ s ∈ rest, s.IsWhole) (hNonneg : ∀ s ∈ rest, 0 ≤ s.millis) (offset : Value)
    (hGap : ¬ (a :: rest).IsChain fun s t => s.stop = t.start) :
    ∃ i s t, FirstGap ⟨offset, true, a :: rest⟩ i s t ∧
      ∀ p : Path, p.checked = true → p.segments.getLast? = some a →
        p.addAll rest = fail (.gap (p.segments.length + i) t.start s.stop) := by
  -- the path in front is left open, so that the next segment can join it when it fits
  induction rest generalizing a with
  | nil => exact absurd (List.isChain_singleton a) hGap
  | cons b rest ih =>
    obtain ⟨hHead, hTail⟩ := List.forall_mem_cons.mp hWhole
    obtain ⟨hTime, hTimes⟩ := List.forall_mem_cons.mp hNonneg
    have hLt := hHead.not_negative hTime
    by_cases hab : a.stop = b.start
    · have hRest : ¬ (b :: rest).IsChain fun s t => s.stop = t.start :=
        fun h => hGap (List.isChain_cons_cons.mpr ⟨hab, h⟩)
      obtain ⟨i, s, t, hFirst, hFault⟩ := ih hTail hTimes hRest
      refine ⟨i + 1, s, t, ⟨hFirst.at_index, hFirst.apart, ?_⟩, ?_⟩
      · intro j hj q hq
        cases j with
        | zero =>
          cases hq
          exact hab
        | succ j => exact hFirst.first j (by omega) q hq
      · intro p hChecked hLast
        have hStops : p.checked = true → p.StopsAt b.start := by
          intro _ last hLast'
          cases hLast.symm.trans hLast'
          exact hab
        rw [addAll_cons, add_of_stopsAt hLt hStops, ok_bind,
          hFault (p.append b) hChecked List.getLast?_concat, append_segments, List.length_append,
          List.length_singleton]
        congr 2
        omega
    · refine ⟨0, a, b, ⟨rfl, hab, by omega⟩, ?_⟩
      intro p hChecked hLast
      rw [addAll_cons, add_of_gap hLt hChecked hLast hab, fail_bind, Nat.add_zero]

theorem IsSound.ofSegments_eq {p : Path} (h : p.IsSound) {checked : Bool}
    (hContinuous : checked = true → p.isContinuous = true) :
    ofSegments p.segments p.offset checked = .ok (p.rechecked checked) :=
  addAll_of_chained h.whole h.nonneg fun hChecked =>
    (isContinuous_iff_isChain p).mp (hContinuous hChecked)

theorem IsSound.ofSegments_of_gap {p : Path} (h : p.IsSound) (hGap : p.isContinuous ≠ true) :
    ∃ i s t, p.FirstGap i s t ∧
      ofSegments p.segments p.offset true = fail (.gap (i + 1) t.start s.stop) := by
  rw [ne_eq, isContinuous_iff_isChain] at hGap
  obtain ⟨offset, checked, segments⟩ := p
  cases segments with
  | nil => exact absurd List.isChain_nil hGap
  | cons a rest =>
    obtain ⟨hWhole, hTail⟩ := List.forall_mem_cons.mp h.whole
    obtain ⟨hTime, hTimes⟩ := List.forall_mem_cons.mp h.nonneg
    obtain ⟨i, s, t, hFirst, hFault⟩ := addAll_of_gap hTail hTimes offset hGap
    refine ⟨i, s, t, ⟨hFirst.at_index, hFirst.apart, hFirst.first⟩, ?_⟩
    have hStart : (empty offset true).add a = .ok ((empty offset true).append a) :=
      add_of_stopsAt (hWhole.not_negative hTime) fun _ => empty_stopsAt _ _ _
    rw [ofSegments, addAll_cons, hStart, ok_bind, hFault _ rfl List.getLast?_concat]
    congr 2
    exact Nat.add_comm 1 i

theorem IsSound.ofSegments_isOk_iff {p : Path} (h : p.IsSound) :
    (∃ q, ofSegments p.segments p.offset true = .ok q) ↔ p.isContinuous = true := by
  constructor
  · rintro ⟨q, hq⟩
    by_contra hGap
    obtain ⟨i, s, t, _, hFault⟩ := h.ofSegments_of_gap hGap
    exact (fail_ne_ok _ q).mp (hFault.symm.trans hq)
  · exact fun hContinuous => ⟨_, h.ofSegments_eq fun _ => hContinuous⟩

theorem IsSound.ofValue_toValue {p : Path} (h : p.IsSound) (checked : Bool) :
    ofValue p.toValue checked = ofSegments p.segments p.offset checked := by
  obtain ⟨offset, hOffset⟩ := h.offset
  have hSegments : (p.segments.map Segment.toValue).mapM Segment.ofValue = .ok p.segments := by
    rw [mapM_eq_ok_iff, List.forall₂_map_left_iff, List.forall₂_same]
    exact fun s hs => (h.whole s hs).ofValue_toValue
  change ((p.segments.map Segment.toValue).mapM Segment.ofValue >>= fun segments =>
    p.offset.toInt >>= fun n => ofSegments segments (.int n) checked) = _
  rw [hSegments, hOffset]
  rfl

theorem reachable_of_ofValue {v : Value} {checked : Bool} {p : Path}
    (h : ofValue v checked = .ok p) : p.Reachable ∧ p.checked = checked := by
  simp only [ofValue, bind_eq_ok_iff] at h
  obtain ⟨_, _, items, _, segments, hSegments, _, _, offset, _, hMade⟩ := h
  have hWhole : ∀ s ∈ segments, s.IsWhole := by
    intro s hs
    obtain ⟨_, _, hItem⟩ := exists_of_mem_right (mapM_eq_ok_iff.mp hSegments) hs
    exact Segment.isWhole_of_ofValue hItem
  refine ⟨.made hWhole hMade, ?_⟩
  rw [ofSegments_eq_ok hWhole hMade]

end Path

namespace Touch

/-- Made of paths, given further ones, or grown in one of them. -/
inductive Reachable : Touch → Prop where
  | made {fingers : List Path} (h : ∀ p ∈ fingers, p.Reachable) : Reachable ⟨fingers⟩
  | added {t : Touch} {p : Path} (h : Reachable t) (hPath : p.Reachable) : Reachable (t.add p)
  | offered {t : Touch} {i : Nat} {p : Path} {s : Segment} (h : Reachable t)
      (hPath : t.fingers[i]? = some p) (hWhole : s.IsWhole) :
      Reachable ⟨t.fingers.set i (p.offered s).2⟩

theorem Reachable.fingers {t : Touch} (h : t.Reachable) : ∀ p ∈ t.fingers, p.Reachable := by
  induction h with
  | made h => exact h
  | added _ hPath ih => exact List.forall_mem_append.mpr ⟨ih, List.forall_mem_singleton.mpr hPath⟩
  | offered _ hPath hWhole ih =>
    intro q hq
    rcases List.mem_or_eq_of_mem_set hq with hq | rfl
    · exact ih q hq
    · exact (ih _ (List.mem_of_getElem? hPath)).offered hWhole

def rechecked (t : Touch) (checked : Bool) : Touch := ⟨t.fingers.map (Path.rechecked · checked)⟩

theorem ofValue_toValue_eq {t : Touch} (h : ∀ p ∈ t.fingers, p.IsSound) (checked : Bool) :
    ofValue t.toValue checked = do
      return ⟨← t.fingers.mapM fun p => Path.ofSegments p.segments p.offset checked⟩ := by
  have hFingers : (t.fingers.map Path.toValue).mapM (Path.ofValue · checked) =
      t.fingers.mapM fun p => Path.ofSegments p.segments p.offset checked := by
    rw [List.mapM_map]
    exact mapM_congr fun p hp => (h p hp).ofValue_toValue checked
  rw [← hFingers]
  rfl

theorem ofValue_toValue_of_continuous {t : Touch} (h : ∀ p ∈ t.fingers, p.IsSound) {checked : Bool}
    (hContinuous : checked = true → ∀ p ∈ t.fingers, p.isContinuous = true) :
    ofValue t.toValue checked = .ok (t.rechecked checked) := by
  have hFingers : t.fingers.mapM (fun p => Path.ofSegments p.segments p.offset checked) =
      .ok (t.fingers.map (Path.rechecked · checked)) := by
    rw [mapM_eq_ok_iff, List.forall₂_map_right_iff, List.forall₂_same]
    exact fun p hp => (h p hp).ofSegments_eq fun hChecked => hContinuous hChecked p hp
  rw [ofValue_toValue_eq h, hFingers]
  rfl

/-- The first finger that is not continuous fails at the first gap that it has, by name when both
ends of the gap can be written. -/
def FailsAtFirstGap (t : Touch) (r : Except Fault Touch) : Prop :=
  ∃ front p rest i s s', t.fingers = front ++ p :: rest ∧
    (∀ q ∈ front, q.isContinuous = true) ∧ p.FirstGap i s s' ∧
    r = if s'.start.IsWritable ∧ s.stop.IsWritable then .error (.gap (i + 1) s'.start s.stop)
      else .error .badValue

theorem failsAtFirstGap_ofValue_toValue {t : Touch} (h : ∀ p ∈ t.fingers, p.IsSound)
    (hGap : ∃ p ∈ t.fingers, p.isContinuous = false) :
    t.FailsAtFirstGap (ofValue t.toValue true) := by
  rw [ofValue_toValue_eq h]
  cases hEnd : t.fingers.mapM fun p => Path.ofSegments p.segments p.offset true with
  | ok fingers =>
    obtain ⟨p, hp, hFalse⟩ := hGap
    rw [(h p hp).ofSegments_isOk_iff.mp (mapM_isOk_iff.mp ⟨fingers, hEnd⟩ p hp)] at hFalse
    cases hFalse
  | error f =>
    obtain ⟨front, p, rest, hSplit, hFront, hPath⟩ := mapM_eq_error_iff.mp hEnd
    rw [hSplit, List.forall_mem_append, List.forall_mem_cons] at h
    obtain ⟨hSound, hSoundPath, _⟩ := h
    have hNot : p.isContinuous ≠ true := by
      intro hContinuous
      obtain ⟨q, hq⟩ := hSoundPath.ofSegments_isOk_iff.mpr hContinuous
      cases hPath.symm.trans hq
    obtain ⟨i, s, s', hFirst, hFault⟩ := hSoundPath.ofSegments_of_gap hNot
    refine ⟨front, p, rest, i, s, s', hSplit, ?_, hFirst, ?_⟩
    · exact fun q hq => (hSound q hq).ofSegments_isOk_iff.mp (hFront q hq)
    · rw [hFault] at hPath
      rw [← fail_gap, fail_eq_error, ← Except.error.inj hPath]
      rfl

theorem reachable_of_ofValue {v : Value} {checked : Bool} {u : Touch}
    (h : ofValue v checked = .ok u) : u.Reachable ∧ ∀ p ∈ u.fingers, p.checked = checked := by
  simp only [ofValue, bind_eq_ok_iff] at h
  obtain ⟨_, _, items, _, fingers, hFingers, h⟩ := h
  cases h
  have hEach : ∀ p ∈ fingers, p.Reachable ∧ p.checked = checked := by
    intro p hp
    obtain ⟨_, _, hItem⟩ := exists_of_mem_right (mapM_eq_ok_iff.mp hFingers) hp
    exact Path.reachable_of_ofValue hItem
  exact ⟨.made fun p hp => (hEach p hp).1, fun p hp => (hEach p hp).2⟩

theorem rechecked_eq_self {t : Touch} {checked : Bool}
    (h : ∀ p ∈ t.fingers, p.checked = checked) : t.rechecked checked = t := by
  have hSame : ∀ p ∈ t.fingers, p.rechecked checked = id p := by
    intro p hp
    rw [Path.rechecked, ← h p hp]
    rfl
  exact congrArg Touch.mk ((List.map_congr_left hSame).trans (List.map_id t.fingers))

theorem ofValue_toValue_of_ofValue {v : Value} {checked : Bool} {u : Touch}
    (h : ofValue v checked = .ok u) : ofValue u.toValue checked = .ok u := by
  obtain ⟨hReachable, hChecked⟩ := reachable_of_ofValue h
  have hSound : ∀ p ∈ u.fingers, p.IsSound := fun p hp => (hReachable.fingers p hp).isSound
  have hContinuous : checked = true → ∀ p ∈ u.fingers, p.isContinuous = true := by
    intro hTrue p hp
    rw [Path.isContinuous_iff_isChain]
    exact (hSound p hp).chained ((hChecked p hp).trans hTrue)
  rw [ofValue_toValue_of_continuous hSound hContinuous, rechecked_eq_self hChecked]

/-- A touch is read back as itself, with the check only where all its fingers are continuous. -/
theorem read_back {t : Touch} (hReachable : t.Reachable) :
    ofValue t.toValue false = .ok (t.rechecked false) ∧
    ((∃ u, ofValue t.toValue true = .ok u) ↔ ∀ p ∈ t.fingers, p.isContinuous = true) ∧
    (∀ u, ofValue t.toValue true = .ok u → u = t.rechecked true) ∧
    ((∃ p ∈ t.fingers, p.isContinuous = false) → t.FailsAtFirstGap (ofValue t.toValue true)) ∧
    ∀ v checked u, ofValue v checked = .ok u → ofValue u.toValue checked = .ok u := by
  have hSound : ∀ p ∈ t.fingers, p.IsSound := fun p hp => (hReachable.fingers p hp).isSound
  have hRead (hContinuous : ∀ p ∈ t.fingers, p.isContinuous = true) :
      ofValue t.toValue true = .ok (t.rechecked true) :=
    ofValue_toValue_of_continuous hSound fun _ => hContinuous
  have hAll (u : Touch) (hu : ofValue t.toValue true = .ok u) :
      ∀ p ∈ t.fingers, p.isContinuous = true := by
    intro p hp
    rw [ofValue_toValue_eq hSound, bind_eq_ok_iff] at hu
    obtain ⟨fingers, hFingers, _⟩ := hu
    exact (hSound p hp).ofSegments_isOk_iff.mp (mapM_isOk_iff.mp ⟨fingers, hFingers⟩ p hp)
  refine ⟨ofValue_toValue_of_continuous hSound nofun, ⟨fun ⟨u, hu⟩ => hAll u hu,
    fun hContinuous => ⟨_, hRead hContinuous⟩⟩, ?_, failsAtFirstGap_ofValue_toValue hSound,
    fun v checked u => ofValue_toValue_of_ofValue⟩
  intro u hu
  rw [hRead (hAll u hu)] at hu
  cases hu
  rfl

theorem read_back_with_gap :
    ∃ first apart t, first = Segment.mk ⟨0, 0⟩ ⟨1, 1⟩ (.int 40) ∧
      apart = Segment.mk ⟨9, 9⟩ ⟨2, 2⟩ (.int 10) ∧
      t = Touch.mk [⟨.int (-7), true, [first]⟩, ⟨.int 5, false, [first, apart]⟩] ∧ t.Reachable ∧
      ofValue t.toValue false = .ok (t.rechecked false) ∧
      t.FailsAtFirstGap (ofValue t.toValue true) := by
  obtain ⟨first, hFirst⟩ : ∃ s, s = Segment.mk ⟨0, 0⟩ ⟨1, 1⟩ (.int 40) := ⟨_, rfl⟩
  obtain ⟨apart, hApart⟩ : ∃ s, s = Segment.mk ⟨9, 9⟩ ⟨2, 2⟩ (.int 10) := ⟨_, rfl⟩
  refine ⟨first, apart, _, hFirst, hApart, rfl, ?_⟩
  have hWhole : ∀ s ∈ [first, apart], s.IsWhole := by
    simp [hFirst, hApart, Segment.IsWhole, Number.isInt]
  have hShort : Path.ofSegments [first] (.int (-7)) true = .ok ⟨.int (-7), true, [first]⟩ := by
    rw [hFirst]
    rfl
  have hLong : Path.ofSegments [first, apart] (.int 5) false =
      .ok ⟨.int 5, false, [first, apart]⟩ := by
    rw [hFirst, hApart]
    rfl
  have hGap : (Path.mk (.int 5) false [first, apart]).isContinuous = false := by
    rw [hFirst, hApart]
    rfl
  have hReachable : (Touch.mk [⟨.int (-7), true, [first]⟩,
      ⟨.int 5, false, [first, apart]⟩]).Reachable := by
    apply Reachable.made
    rw [List.forall_mem_cons, List.forall_mem_singleton]
    obtain ⟨hHead, _⟩ := List.forall_mem_cons.mp hWhole
    exact ⟨.made (List.forall_mem_singleton.mpr hHead) hShort, .made hWhole hLong⟩
  obtain ⟨hRead, _, _, hFails, _⟩ := read_back hReachable
  exact ⟨hReachable, hRead, hFails ⟨_, List.mem_cons_of_mem _ List.mem_cons_self, hGap⟩⟩

/-- Behind a tap at the origin a start that cannot be written is refused without a name. -/
theorem ofValue_toValue_of_long {n : Int} (hLong : ¬ n.natAbs < unwritable) {t : Touch}
    (h : t = ⟨[⟨.int 0, false, [⟨⟨0, 0⟩, ⟨0, 0⟩, .int 1⟩, ⟨⟨n, 0⟩, ⟨0, 0⟩, .int 1⟩]⟩]⟩) :
    t.Reachable ∧ (∃ p ∈ t.fingers, p.isContinuous = false) ∧
      ofValue t.toValue true = .error .badValue := by
  subst h
  have hAway : (⟨0, 0⟩ : Point) ≠ ⟨n, 0⟩ := by
    rintro ⟨⟩
    exact hLong unwritable_pos
  have hWhole : ∀ s ∈ [Segment.mk ⟨0, 0⟩ ⟨0, 0⟩ (.int 1), ⟨⟨n, 0⟩, ⟨0, 0⟩, .int 1⟩], s.IsWhole := by
    simp [Segment.IsWhole, Number.isInt]
  have hMade : Path.ofSegments [⟨⟨0, 0⟩, ⟨0, 0⟩, .int 1⟩, ⟨⟨n, 0⟩, ⟨0, 0⟩, .int 1⟩] (.int 0) false =
      .ok ⟨.int 0, false, [⟨⟨0, 0⟩, ⟨0, 0⟩, .int 1⟩, ⟨⟨n, 0⟩, ⟨0, 0⟩, .int 1⟩]⟩ := rfl
  have hReachable : (Touch.mk
      [⟨.int 0, false, [⟨⟨0, 0⟩, ⟨0, 0⟩, .int 1⟩, ⟨⟨n, 0⟩, ⟨0, 0⟩, .int 1⟩]⟩]).Reachable :=
    .made (List.forall_mem_singleton.mpr (.made hWhole hMade))
  refine ⟨hReachable, ⟨_, List.mem_cons_self, ?_⟩, ?_⟩
  · simp [Path.isContinuous, neighbours, hAway]
  · have hStart : (Path.empty (.int 0) true).add ⟨⟨0, 0⟩, ⟨0, 0⟩, .int 1⟩ =
        .ok ⟨.int 0, true, [⟨⟨0, 0⟩, ⟨0, 0⟩, .int 1⟩]⟩ := rfl
    have hGap : Path.add ⟨.int 0, true, [⟨⟨0, 0⟩, ⟨0, 0⟩, .int 1⟩]⟩ ⟨⟨n, 0⟩, ⟨0, 0⟩, .int 1⟩ =
        .error .badValue := by
      rw [Path.add_of_gap rfl rfl rfl hAway, fail_gap, if_neg fun hShort => hLong hShort.1.1]
    rw [ofValue_toValue_eq fun p hp => (hReachable.fingers p hp).isSound, List.mapM_cons,
      Path.ofSegments, Path.addAll_cons, hStart, ok_bind, Path.addAll_cons, hGap]
    rfl

/-- A gap that starts where it cannot be written has no name. -/
theorem read_back_unwritable :
    ∃ t, t = Touch.mk [⟨.int 0, false,
        [⟨⟨0, 0⟩, ⟨0, 0⟩, .int 1⟩, ⟨⟨unwritable, 0⟩, ⟨0, 0⟩, .int 1⟩]⟩] ∧
      t.Reachable ∧ (∃ p ∈ t.fingers, p.isContinuous = false) ∧
      ofValue t.toValue true = .error .badValue := by
  have hLong : ¬ (unwritable : Int).natAbs < unwritable := by
    rw [Int.natAbs_natCast]
    exact Nat.lt_irrefl _
  exact ⟨_, rfl, ofValue_toValue_of_long hLong rfl⟩

end Touch
end TouchPath
