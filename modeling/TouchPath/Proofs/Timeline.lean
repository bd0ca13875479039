import TouchPath.Proofs.Path
import TouchPath.Timeline

/-! # Timelines of whole milliseconds

An anchor is sound when its position is finite and its time is an integer; then it has a nearest
pixel and a number of milliseconds. A timeline of sound anchors is monotonic when its milliseconds
are a chain (`Timeline.isMonotonic_iff_isChain`), and else it has a first backward step.
-/
namespace TouchPath
set_option autoImplicit false

namespace Anchor

/-- A finite position at an integer time. -/
structure IsSound (a : Anchor) : Prop where
  x : a.x.IsFinite
  y : a.y.IsFinite
  time : a.time.isInt = true

def millis (a : Anchor) : Int :=
  match a.time with
  | .int n => n
  | .float _ => 0

/-- The nearest pixel of an anchor that has one. -/
def pixel (a : Anchor) : Point := a.toPoint.toOption.getD default

theorem time_eq_of_isInt {a : Anchor} (h : a.time.isInt = true) : a.time = .int a.millis := by
  obtain ⟨x, y, time⟩ := a
  cases time with
  | int n => rfl
  | float t => cases h

theorem millis_of_time {a : Anchor} {n : Int} (h : a.time = .int n) : a.millis = n := by
  rw [millis, h]

theorem IsSound.time_eq {a : Anchor} (h : a.IsSound) : a.time = .int a.millis :=
  time_eq_of_isInt h.time

theorem IsSound.toPoint_eq {a : Anchor} (h : a.IsSound) : a.toPoint = .ok a.pixel := by
  obtain ⟨x, hx⟩ := Number.round_isOk h.x
  obtain ⟨y, hy⟩ := Number.round_isOk h.y
  have hPoint : a.toPoint = .ok ⟨x, y⟩ := by rw [toPoint, hx, hy]; rfl
  rw [pixel, hPoint]
  rfl

theorem isSound_ofPoint (p : Point) (time : Int) : (ofPoint p time).IsSound :=
  ⟨trivial, trivial, rfl⟩

@[simp] theorem millis_ofPoint (p : Point) (time : Int) : (ofPoint p time).millis = time := rfl

end Anchor

namespace Timeline

def IsSound (t : Timeline) : Prop := ∀ a ∈ t.anchors, a.IsSound

def Ascends (anchors : List Anchor) : Prop := anchors.IsChain fun a b => a.millis ≤ b.millis

theorem isMonotonic_iff_ascends {t : Timeline} (hWhole : ∀ a ∈ t.anchors, a.time.isInt = true) :
    t.isMonotonic = true ↔ Ascends t.anchors := by
  rw [isMonotonic_iff, forall_neighbours_iff (R := fun a b : Anchor => a.time.le b.time = true)]
  apply List.IsChain.iff_of_mem_imp
  intro a b ha hb
  rw [Anchor.time_eq_of_isInt (hWhole a ha), Anchor.time_eq_of_isInt (hWhole b hb), Number.le_int,
    decide_eq_true_eq]

theorem isMonotonic_iff_isChain {t : Timeline} (hSound : t.IsSound) :
    t.isMonotonic = true ↔ Ascends t.anchors :=
  isMonotonic_iff_ascends fun a ha => (hSound a ha).time

/-- The first anchor whose successor is earlier, with that successor. -/
structure FirstBackstep (t : Timeline) (i : Nat) (a b : Anchor) : Prop where
  at_index : (neighbours t.anchors)[i]? = some (a, b)
  back : b.time.lt a.time = true
  first : ∀ j < i, ∀ leg, (neighbours t.anchors)[j]? = some leg → leg.1.time.le leg.2.time = true

/-- Milliseconds from one anchor to the next add up to those from the first to the last. -/
theorem sum_elapsed (a : Anchor) (rest : List Anchor) :
    ((neighbours (a :: rest)).map fun leg => leg.2.millis - leg.1.millis).sum =
      ((a :: rest).getLast (List.cons_ne_nil a rest)).millis - a.millis := by
  induction rest generalizing a with
  | nil => simp
  | cons b rest ih =>
    rw [neighbours_cons_cons, List.map_cons, List.sum_cons, ih b, List.getLast_cons_cons]
    change b.millis - a.millis + _ = _
    omega

end Timeline
end TouchPath
