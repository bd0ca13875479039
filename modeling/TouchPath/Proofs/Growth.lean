import TouchPath.Proofs.Path
import TouchPath.Proofs.Writable

/-! # Growth of a path

A path that is kept is offered segments. It takes one that lasts no negative time and, where it is
checked, starts where the last segment stopped; any other it refuses, and a refusal changes nothing
(`Path.IsSound.meets`). A refusal has a name as long as its message can be written. After offers of
any kind the path is sound and holds the segments that it took, in their order.
-/
namespace TouchPath
set_option autoImplicit false

namespace Segment

def IsWhole (s : Segment) : Prop := s.time.isInt = true

def millis (s : Segment) : Int :=
  match s.time with
  | .int n => n
  | .float _ => 0

theorem IsWhole.time_eq {s : Segment} (h : s.IsWhole) : s.time = .int s.millis := by
  obtain ⟨start, stop, time⟩ := s
  cases time with
  | int n => rfl
  | float t => exact nomatch h

theorem IsWhole.lt_zero {s : Segment} (h : s.IsWhole) :
    s.time.lt (0 : Int) = decide (s.millis < 0) := by
  rw [h.time_eq, Number.lt_int]

theorem IsWhole.not_negative {s : Segment} (h : s.IsWhole) (hTime : 0 ≤ s.millis) :
    s.time.lt (0 : Int) = false := by
  rw [h.lt_zero, decide_eq_false (Int.not_lt.mpr hTime)]

theorem map_time_of_whole {segments : List Segment} (h : ∀ s ∈ segments, s.IsWhole) :
    segments.map (·.time) = (segments.map millis).map Number.int := by
  rw [List.map_map]
  exact List.map_congr_left fun s hs => (h s hs).time_eq

end Segment

namespace Path

/-- An operation on a path that is kept. What it has changed stays changed when it fails. -/
abbrev Growing := ExceptT Fault (StateM Path)

/-- Refuses a segment that leaves a gap behind a checked path. -/
def refuseGap (p : Path) (s : Segment) : Growing Unit :=
  match p.segments.getLast? with
  | some last =>
    if p.checked && last.stop != s.start then
      throw (Fault.gap p.segments.length s.start last.stop).raised
    else pure ()
  | none => pure ()

/-- Offers a segment to the path: both checks come first, and the segment is appended last. -/
def offer (s : Segment) : Growing Unit := do
  if s.time.lt (0 : Int) then throw (Fault.negativeDuration s.start s.stop s.time).raised
  let p ← get
  p.refuseGap s
  set (p.append s)

def offered (p : Path) (s : Segment) : Except Fault Unit × Path := (ExceptT.run (offer s)).run p

theorem offered_eq (p : Path) (s : Segment) :
    p.offered s =
      match p.add s with
      | .ok q => (.ok (), q)
      | .error f => (.error f, p) := by
  unfold offered offer add
  cases s.time.lt (0 : Int) with
  | true => rfl
  | false =>
    change (ExceptT.run (p.refuseGap s >>= fun _ => set (p.append s))).run p = _
    unfold refuseGap
    cases p.segments.getLast? with
    | none => rfl
    | some last =>
      dsimp only
      cases p.checked && last.stop != s.start <;> rfl

theorem add_of_gap {p : Path} {s last : Segment} (hTime : s.time.lt (0 : Int) = false)
    (hChecked : p.checked = true) (hLast : p.segments.getLast? = some last)
    (hGap : last.stop ≠ s.start) :
    p.add s = fail (.gap p.segments.length s.start last.stop) := by
  rw [add, hTime, if_neg Bool.false_ne_true, hLast]
  exact if_pos (by rw [hChecked, Bool.true_and, bne_iff_ne]; exact hGap)

inductive OfferEnds (p : Path) (s : Segment) : Except Fault Unit × Path → Prop where
  | taken (hTime : 0 ≤ s.millis) (hStops : p.checked = true → p.StopsAt s.start) :
      OfferEnds p s (.ok (), p.append s)
  | negative (hTime : s.millis < 0) :
      OfferEnds p s (fail (.negativeDuration s.start s.stop s.time), p)
  | gap {last : Segment} (hTime : 0 ≤ s.millis) (hChecked : p.checked = true)
      (hLast : p.segments.getLast? = some last) (hGap : last.stop ≠ s.start) :
      OfferEnds p s (fail (.gap p.segments.length s.start last.stop), p)

theorem offerEnds_offered (p : Path) {s : Segment} (hWhole : s.IsWhole) :
    OfferEnds p s (p.offered s) := by
  rw [offered_eq]
  by_cases hTime : s.millis < 0
  · rw [add, hWhole.lt_zero, if_pos (decide_eq_true hTime)]
    exact .negative hTime
  · have hNonneg := Int.not_lt.mp hTime
    have hLt := hWhole.not_negative hNonneg
    by_cases hStops : p.checked = true → p.StopsAt s.start
    · rw [add_of_stopsAt hLt hStops]
      exact .taken hNonneg hStops
    · obtain ⟨hChecked, hStops⟩ := Classical.not_imp.mp hStops
      obtain ⟨last, hStops⟩ := not_forall.mp hStops
      obtain ⟨hLast, hGap⟩ := Classical.not_imp.mp hStops
      rw [add_of_gap hLt hChecked hLast hGap]
      exact .gap hNonneg hChecked hLast hGap

/-- The path after offers, whether it takes or refuses them. -/
def afterOffers (p : Path) (offers : List Segment) : Path :=
  offers.foldl (fun p s => (p.offered s).2) p

def taken (p : Path) : List Segment → List Segment
  | [] => []
  | s :: offers =>
    match p.offered s with
    | (.ok (), q) => s :: q.taken offers
    | (.error _, q) => q.taken offers

@[simp] theorem afterOffers_nil (p : Path) : p.afterOffers [] = p := rfl

@[simp] theorem afterOffers_cons (p : Path) (s : Segment) (offers : List Segment) :
    p.afterOffers (s :: offers) = (p.offered s).2.afterOffers offers := rfl

structure IsSound (p : Path) : Prop where
  offset : ∃ n : Int, p.offset = .int n
  whole : ∀ s ∈ p.segments, s.IsWhole
  nonneg : ∀ s ∈ p.segments, 0 ≤ s.millis
  chained : p.checked = true → p.segments.IsChain fun s t => s.stop = t.start

theorem isSound_empty (offset : Int) (checked : Bool) : (empty (.int offset) checked).IsSound where
  offset := ⟨offset, rfl⟩
  whole := nofun
  nonneg := nofun
  chained _ := List.isChain_nil

theorem IsSound.append {p : Path} {s : Segment} (h : p.IsSound) (hWhole : s.IsWhole)
    (hTime : 0 ≤ s.millis) (hStops : p.checked = true → p.StopsAt s.start) :
    (p.append s).IsSound where
  offset := h.offset
  whole := by
    rw [append_segments, List.forall_mem_append, List.forall_mem_singleton]
    exact ⟨h.whole, hWhole⟩
  nonneg := by
    rw [append_segments, List.forall_mem_append, List.forall_mem_singleton]
    exact ⟨h.nonneg, hTime⟩
  chained := by
    intro hChecked
    rw [append_segments, List.isChain_append]
    refine ⟨h.chained hChecked, List.isChain_singleton s, ?_⟩
    intro last hLast t ht
    cases ht
    exact hStops hChecked last hLast

theorem IsSound.offered {p : Path} {s : Segment} (h : p.IsSound) (hWhole : s.IsWhole) :
    (p.offered s).2.IsSound := by
  have hEnds := offerEnds_offered p hWhole
  generalize p.offered s = r at hEnds ⊢
  cases hEnds with
  | taken hTime hStops => exact h.append hWhole hTime hStops
  | negative => exact h
  | gap => exact h

theorem IsSound.afterOffers {p : Path} {offers : List Segment} (h : p.IsSound)
    (hWhole : ∀ s ∈ offers, s.IsWhole) : (p.afterOffers offers).IsSound := by
  induction offers generalizing p with
  | nil => exact h
  | cons s offers ih =>
    obtain ⟨hHead, hTail⟩ := List.forall_mem_cons.mp hWhole
    exact ih (h.offered hHead) hTail

theorem afterOffers_eq {p : Path} {offers : List Segment} (hWhole : ∀ s ∈ offers, s.IsWhole) :
    p.afterOffers offers = { p with segments := p.segments ++ p.taken offers } := by
  induction offers generalizing p with
  | nil => simp [taken]
  | cons s offers ih =>
    obtain ⟨hHead, hTail⟩ := List.forall_mem_cons.mp hWhole
    have hEnds := offerEnds_offered p hHead
    rw [afterOffers_cons, taken, ih hTail]
    generalize p.offered s = r at hEnds ⊢
    cases hEnds <;> simp [append, fail_eq_error]

theorem taken_sublist (p : Path) (offers : List Segment) : (p.taken offers).Sublist offers := by
  induction offers generalizing p with
  | nil => exact List.Sublist.refl _
  | cons s offers ih =>
    rw [taken]
    split
    · exact (ih _).cons_cons s
    · exact (ih _).cons s

theorem addAll_cons (p : Path) (s : Segment) (segments : List Segment) :
    p.addAll (s :: segments) = p.add s >>= fun q => q.addAll segments := List.foldlM_cons

/-- Segments are appended all together when each of them is taken in its turn. -/
theorem addAll_eq_ok_iff {p q : Path} {segments : List Segment} :
    p.addAll segments = .ok q ↔ p.taken segments = segments ∧ q = p.afterOffers segments := by
  induction segments generalizing p with
  | nil => simp [addAll, taken, pure, Except.pure, eq_comm]
  | cons s segments ih =>
    rw [afterOffers_cons, taken, offered_eq, addAll_cons]
    cases p.add s with
    | ok p' =>
      rw [ok_bind, List.cons_inj_right]
      exact ih
    | error f =>
      refine ⟨nofun, fun ⟨hTaken, _⟩ => ?_⟩
      -- the first segment is refused, and the rest is too short to be all of them
      change p.taken segments = s :: segments at hTaken
      have hLength := (taken_sublist p segments).length_le
      rw [hTaken, List.length_cons] at hLength
      omega

theorem ofSegments_eq_ok_iff {offset : Value} {checked : Bool} {segments : List Segment}
    {p : Path} : ofSegments segments offset checked = .ok p ↔
      (empty offset checked).taken segments = segments ∧
        p = (empty offset checked).afterOffers segments := addAll_eq_ok_iff

theorem ofSegments_eq_ok {offset : Value} {checked : Bool} {segments : List Segment} {p : Path}
    (hWhole : ∀ s ∈ segments, s.IsWhole) (h : ofSegments segments offset checked = .ok p) :
    p = ⟨offset, checked, segments⟩ := by
  obtain ⟨hTaken, rfl⟩ := ofSegments_eq_ok_iff.mp h
  rw [afterOffers_eq hWhole, hTaken]
  rfl

theorem isSound_of_ofSegments {offset : Int} {checked : Bool} {segments : List Segment} {p : Path}
    (hWhole : ∀ s ∈ segments, s.IsWhole) (h : ofSegments segments (.int offset) checked = .ok p) :
    p.IsSound := by
  obtain ⟨_, rfl⟩ := ofSegments_eq_ok_iff.mp h
  exact (isSound_empty offset checked).afterOffers hWhole

def millis (p : Path) : Int := (p.segments.map Segment.millis).sum

theorem IsSound.duration_eq {p : Path} (h : p.IsSound) : p.duration = .ok (.int p.millis) :=
  duration_eq_sum (Segment.map_time_of_whole h.whole)

theorem millis_append (p : Path) (s : Segment) : (p.append s).millis = p.millis + s.millis := by
  rw [millis, append_segments, List.map_append, List.sum_append, List.map_singleton,
    List.sum_singleton, millis]

structure Holds (p : Path) (offset : Int) (checked : Bool) (segments : List Segment) : Prop where
  eq : p = ⟨.int offset, checked, segments⟩
  nonneg : ∀ s ∈ segments, ∃ n : Int, s.time = .int n ∧ 0 ≤ n
  duration : p.duration = .ok (.int (segments.map Segment.millis).sum)
  endTime : p.endTime = .ok (.int (offset + (segments.map Segment.millis).sum))
  continuous : checked = true → p.isContinuous = true

theorem IsSound.holds {offset : Int} {checked : Bool} {segments : List Segment}
    (h : IsSound ⟨.int offset, checked, segments⟩) :
    Holds ⟨.int offset, checked, segments⟩ offset checked segments where
  eq := rfl
  nonneg s hs := ⟨s.millis, (h.whole s hs).time_eq, h.nonneg s hs⟩
  duration := h.duration_eq
  endTime := endTime_eq_add rfl (Segment.map_time_of_whole h.whole)
  continuous hChecked := (isContinuous_iff_isChain _).mpr (h.chained hChecked)

theorem stopsAt_iff {p : Path} {q : Point} :
    p.StopsAt q ↔ p.segments = [] ∨ ∃ last, p.segments.getLast? = some last ∧ last.stop = q := by
  rw [StopsAt]
  cases hLast : p.segments.getLast? with
  | none => simp [List.getLast?_eq_none_iff.mp hLast]
  | some last =>
    have hNonempty : p.segments ≠ [] := by
      intro hNil
      rw [hNil] at hLast
      cases hLast
    simp [hNonempty]

/-- What an offer does to a path: it is taken, or refused and then changes nothing. -/
structure Meets (p : Path) (s : Segment) (r : Except Fault Unit × Path) : Prop where
  taken_iff : r.1 = .ok () ↔ 0 ≤ s.millis ∧ (p.checked = false ∨ p.segments = [] ∨
    ∃ last, p.segments.getLast? = some last ∧ last.stop = s.start)
  taken : r.1 = .ok () → r.2 = p.append s
  refused : ∀ f, r.1 = .error f → r.2 = p
  negative : s.millis < 0 → r.1 =
    if s.start.IsWritable ∧ s.stop.IsWritable ∧ s.time.IsWritable then
      .error (.negativeDuration s.start s.stop s.time)
    else .error .badValue
  gap : 0 ≤ s.millis → r.1 ≠ .ok () → ∃ last, p.segments.getLast? = some last ∧ r.1 =
    if s.start.IsWritable ∧ last.stop.IsWritable then
      .error (.gap p.segments.length s.start last.stop)
    else .error .badValue
  lasts : ∃ m n : Int, p.duration = .ok (.int m) ∧ r.2.duration = .ok (.int n) ∧ m ≤ n

theorem IsSound.meets {p : Path} {s : Segment} (h : p.IsSound) (hWhole : s.IsWhole) :
    p.Meets s (p.offered s) := by
  have hEnds := offerEnds_offered p hWhole
  have hBefore := h.duration_eq
  have hAfter := (h.offered hWhole).duration_eq
  generalize p.offered s = r at hEnds hAfter ⊢
  cases hEnds with
  | taken hTime hStops =>
    have hFits : p.checked = false ∨ p.segments = [] ∨
        ∃ last, p.segments.getLast? = some last ∧ last.stop = s.start := by
      cases hChecked : p.checked with
      | false => exact .inl rfl
      | true => exact .inr (stopsAt_iff.mp (hStops hChecked))
    refine ⟨iff_of_true rfl ⟨hTime, hFits⟩, fun _ => rfl, nofun, fun hNegative => ?_,
      fun _ hNot => absurd rfl hNot, _, _, hBefore, hAfter, ?_⟩
    · omega
    · rw [millis_append]
      omega
  | negative hTime =>
    refine ⟨iff_of_false nofun fun hTakes => ?_, nofun, fun _ _ => rfl,
      fun _ => fail_negativeDuration _ _ _, fun hNonneg => ?_, _, _, hBefore, hAfter, Int.le_refl _⟩
    · omega
    · omega
  | @gap last hTime hChecked hLast hGap =>
    refine ⟨iff_of_false nofun ?_, nofun, fun _ _ => rfl, fun hNegative => ?_,
      fun _ _ => ⟨last, hLast, fail_gap _ _ _⟩, _, _, hBefore, hAfter, Int.le_refl _⟩
    · rintro ⟨_, hUnchecked | hFits⟩
      · cases hChecked.symm.trans hUnchecked
      · exact hGap (stopsAt_iff.mpr hFits last hLast)
    · omega

/-- A path is made of segments that are taken one by one, and grows by the offers that it takes. -/
theorem offers_grow {segments offers : List Segment} (offset : Int) (checked : Bool)
    (hSegments : ∀ s ∈ segments, s.IsWhole) (hOffers : ∀ s ∈ offers, s.IsWhole) :
    ((∃ p, ofSegments segments (.int offset) checked = .ok p) ↔
      (empty (.int offset) checked).taken segments = segments) ∧
    ∀ p, ofSegments segments (.int offset) checked = .ok p →
      (p.afterOffers offers).Holds offset checked (segments ++ p.taken offers) ∧
      ∀ s, s.IsWhole → (p.afterOffers offers).Meets s ((p.afterOffers offers).offered s) := by
  constructor
  · simp only [ofSegments_eq_ok_iff, exists_and_left, exists_eq, and_true]
  · intro p hp
    have hSound : (p.afterOffers offers).IsSound :=
      (isSound_of_ofSegments hSegments hp).afterOffers hOffers
    refine ⟨?_, fun s hWhole => hSound.meets hWhole⟩
    rw [afterOffers_eq hOffers] at hSound ⊢
    cases ofSegments_eq_ok hSegments hp
    exact hSound.holds

theorem offers_grow_with_refusals :
    ∃ first negative apart next, first = Segment.mk ⟨0, 0⟩ ⟨1, 1⟩ (.int 40) ∧
      negative = Segment.mk ⟨1, 1⟩ ⟨2, 2⟩ (.int (-5)) ∧
      apart = Segment.mk ⟨9, 9⟩ ⟨2, 2⟩ (.int 10) ∧ next = Segment.mk ⟨1, 1⟩ ⟨2, 2⟩ (.int 10) ∧
      (∀ s ∈ [first], s.IsWhole) ∧ (∀ s ∈ [negative, apart, next], s.IsWhole) ∧
      ∃ p, ofSegments [first] (.int (-7)) true = .ok p ∧
        p.taken [negative, apart, next] = [next] ∧
        (p.afterOffers [negative, apart, next]).Holds (-7) true [first, next] := by
  refine ⟨_, _, _, _, rfl, rfl, rfl, rfl, ?_⟩
  have hFirst : ∀ s ∈ [Segment.mk ⟨0, 0⟩ ⟨1, 1⟩ (.int 40)], s.IsWhole := by
    simp [Segment.IsWhole, Number.isInt]
  have hOffers : ∀ s ∈ [Segment.mk ⟨1, 1⟩ ⟨2, 2⟩ (.int (-5)), ⟨⟨9, 9⟩, ⟨2, 2⟩, .int 10⟩,
      ⟨⟨1, 1⟩, ⟨2, 2⟩, .int 10⟩], s.IsWhole := by
    simp [Segment.IsWhole, Number.isInt]
  exact ⟨hFirst, hOffers, _, rfl, rfl, ((offers_grow (-7) true hFirst hOffers).2 _ rfl).1⟩

/-- A segment of negative time is refused without a name when its start cannot be written. -/
theorem offers_grow_unwritable :
    ∃ s, s = Segment.mk ⟨unwritable, 0⟩ ⟨0, 0⟩ (.int (-1)) ∧ s.IsWhole ∧
      ∀ checked,
        (empty (.int 0) checked).offered s = (.error .badValue, empty (.int 0) checked) := by
  obtain ⟨s, hs⟩ : ∃ s, s = Segment.mk ⟨unwritable, 0⟩ ⟨0, 0⟩ (.int (-1)) := ⟨_, rfl⟩
  have hLong : ¬ s.start.IsWritable := by
    rw [hs, Point.IsWritable, Int.natAbs_natCast]
    exact fun hShort => Nat.lt_irrefl _ hShort.1
  refine ⟨s, hs, by rw [hs]; rfl, fun checked => ?_⟩
  have hTime : s.time.lt (0 : Int) = true := by
    rw [hs]
    rfl
  rw [offered_eq, add, if_pos hTime, fail_negativeDuration, if_neg fun hShort => hLong hShort.1]

end Path
end TouchPath
