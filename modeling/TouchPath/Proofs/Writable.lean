import TouchPath.Proofs.Traversal

/-! # Faults that can be named

A message shows integers, and an integer of more than `maxDigits` digits is not written. So a fault
comes out by name when the integers of its message can be written, and as an unusable value when one
of them cannot (`fail_eq_ite`).
-/
namespace TouchPath
set_option autoImplicit false

theorem unwritable_pos : 0 < unwritable := by
  -- a literal in the exponent would be computed
  have hPow (digits : Nat) : 0 < Nat.pow 10 digits := Nat.pow_pos (by decide)
  unfold unwritable
  exact hPow maxDigits

namespace Point

/-- Both coordinates have at most `maxDigits` digits. -/
def IsWritable (p : Point) : Prop := p.x.natAbs < unwritable ∧ p.y.natAbs < unwritable

instance (p : Point) : Decidable p.IsWritable :=
  inferInstanceAs (Decidable (p.x.natAbs < unwritable ∧ p.y.natAbs < unwritable))

theorem writable_iff (p : Point) : (Value.point p).writable = true ↔ p.IsWritable := by
  simp only [Value.writable, Bool.and_eq_true, decide_eq_true_eq, IsWritable]

end Point

namespace Number

/-- A float, or an integer of at most `maxDigits` digits. -/
def IsWritable (a : Number) : Prop := ∀ n : Int, a = .int n → n.natAbs < unwritable

theorem isWritable_int (n : Int) : (int n).IsWritable ↔ n.natAbs < unwritable := by
  simp [IsWritable]

theorem writable_iff (a : Number) : (Value.ofNumber a).writable = true ↔ a.IsWritable := by
  cases a with
  | int n => simp [Value.ofNumber, Value.writable, isWritable_int]
  | float x => simp [Value.ofNumber, Value.writable, IsWritable]

instance (a : Number) : Decidable a.IsWritable := decidable_of_iff _ a.writable_iff

end Number

variable {α : Type}

theorem fail_eq_ite {f : Fault} {named : Prop} [Decidable named] (h : f.writable = true ↔ named) :
    (fail f : Except Fault α) = if named then .error f else .error .badValue := by
  rw [fail_eq_error, Fault.raised]
  simp only [h]
  split <;> rfl

/-- The message about a point outside a rectangle shows the point and two corners. -/
theorem fail_outsideBounds (r : Point) (b : Bounds) :
    (fail (.outsideBounds r b) : Except Fault α) =
      if r.IsWritable ∧ b.upperLeft.IsWritable ∧ b.lowerRight.IsWritable then
        .error (.outsideBounds r b)
      else .error .badValue := by
  apply fail_eq_ite
  simp only [Fault.writable, Fault.shown, Value.displayed, List.all_cons, List.all_nil,
    Bool.and_true, Bool.and_eq_true, Point.writable_iff]

theorem fail_negativeDuration (start stop : Point) (time : Number) :
    (fail (.negativeDuration start stop time) : Except Fault α) =
      if start.IsWritable ∧ stop.IsWritable ∧ time.IsWritable then
        .error (.negativeDuration start stop time)
      else .error .badValue := by
  apply fail_eq_ite
  simp only [Fault.writable, Fault.shown, List.all_cons, List.all_nil, Bool.and_true,
    Bool.and_eq_true, Point.writable_iff, Number.writable_iff]

theorem fail_clockBackwards (i : Nat) (time previous : Number) :
    (fail (.clockBackwards i time previous) : Except Fault α) =
      if time.IsWritable ∧ previous.IsWritable then .error (.clockBackwards i time previous)
      else .error .badValue := by
  apply fail_eq_ite
  simp only [Fault.writable, Fault.shown, List.all_cons, List.all_nil, Bool.and_true,
    Bool.and_eq_true, Number.writable_iff]

theorem fail_gap (i : Nat) (start previousStop : Point) :
    (fail (.gap i start previousStop) : Except Fault α) =
      if start.IsWritable ∧ previousStop.IsWritable then .error (.gap i start previousStop)
      else .error .badValue := by
  apply fail_eq_ite
  simp only [Fault.writable, Fault.shown, List.all_cons, List.all_nil, Bool.and_true,
    Bool.and_eq_true, Point.writable_iff]

end TouchPath
