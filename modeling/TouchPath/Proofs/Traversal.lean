import Mathlib
import TouchPath.Notice
import TouchPath.Sequence

/-! # Computations that may fail

How a chain of computations ends: with the results of all its parts, or with the first fault. A
traversal succeeds when every element does, and fails with the fault of the first one that does not.
-/
namespace TouchPath
set_option autoImplicit false

section

variable {α β ε : Type}

theorem bind_eq_ok_iff {x : Except ε α} {f : α → Except ε β} {b : β} :
    (x >>= f) = .ok b ↔ ∃ a, x = .ok a ∧ f a = .ok b := by
  cases x with
  | error e => exact ⟨nofun, fun ⟨_, h, _⟩ => nomatch h⟩
  | ok a => exact ⟨fun h => ⟨a, rfl, h⟩, fun ⟨_, h, hf⟩ => by cases h; exact hf⟩

theorem bind_eq_error_iff {x : Except ε α} {f : α → Except ε β} {e : ε} :
    (x >>= f) = .error e ↔ x = .error e ∨ ∃ a, x = .ok a ∧ f a = .error e := by
  cases x with
  | error e' =>
    constructor
    · intro h
      left
      cases h
      rfl
    · rintro (h | ⟨_, h, _⟩)
      · cases h; rfl
      · cases h
  | ok a =>
    constructor
    · exact fun h => .inr ⟨a, rfl, h⟩
    · rintro (h | ⟨_, h, hf⟩)
      · cases h
      · cases h; exact hf

theorem eq_ok_of_toOption {x : Except ε α} {a : α} (h : x.toOption = some a) : x = .ok a := by
  cases x with
  | error e => cases h
  | ok b => cases h; rfl

@[simp] theorem ok_bind (a : α) (f : α → Except ε β) : (Except.ok a >>= f) = f a := rfl

/-- A fault is raised as itself, or as an unusable value. -/
theorem Fault.raised_eq_or (f : Fault) : f.raised = f ∨ f.raised = .badValue := by
  unfold raised
  split
  · exact .inl rfl
  · exact .inr rfl

theorem fail_eq_error (f : Fault) : (fail f : Except Fault α) = .error f.raised := rfl

@[simp] theorem fail_ne_ok (f : Fault) (a : α) : (fail f = .ok a) ↔ False := ⟨nofun, nofun⟩

@[simp] theorem fail_bind (f : Fault) (g : α → Except Fault β) : (fail f >>= g) = fail f := rfl

theorem exists_of_mem_left {R : α → β → Prop} {xs : List α} {ys : List β}
    (h : List.Forall₂ R xs ys) {x : α} (hx : x ∈ xs) : ∃ y ∈ ys, R x y := by
  obtain ⟨i, hi, rfl⟩ := List.getElem_of_mem hx
  obtain ⟨hLength, hAll⟩ := List.forall₂_iff_get.mp h
  exact ⟨_, List.getElem_mem (hLength ▸ hi), hAll i hi (hLength ▸ hi)⟩

theorem exists_of_mem_right {R : α → β → Prop} {xs : List α} {ys : List β}
    (h : List.Forall₂ R xs ys) {y : β} (hy : y ∈ ys) : ∃ x ∈ xs, R x y :=
  exists_of_mem_left (R := flip R) h.flip hy

theorem mapM_eq_ok_iff {f : α → Except ε β} {xs : List α} {ys : List β} :
    xs.mapM f = .ok ys ↔ List.Forall₂ (fun x y => f x = .ok y) xs ys := by
  induction xs generalizing ys with
  | nil =>
    rw [List.mapM_nil, List.forall₂_nil_left_iff]
    constructor
    · intro h; cases h; rfl
    · intro h; rw [h]; rfl
  | cons x xs ih =>
    rw [List.mapM_cons, List.forall₂_cons_left_iff, bind_eq_ok_iff]
    constructor
    · rintro ⟨y, hy, h⟩
      obtain ⟨zs, hzs, hEq⟩ := bind_eq_ok_iff.mp h
      cases hEq
      exact ⟨y, zs, hy, ih.mp hzs, rfl⟩
    · rintro ⟨y, zs, hy, hzs, rfl⟩
      exact ⟨y, hy, bind_eq_ok_iff.mpr ⟨zs, ih.mpr hzs, rfl⟩⟩

theorem mapM_eq_error_iff {f : α → Except ε β} {xs : List α} {e : ε} :
    xs.mapM f = .error e ↔ ∃ front x rest, xs = front ++ x :: rest ∧
      (∀ y ∈ front, ∃ z, f y = .ok z) ∧ f x = .error e := by
  induction xs with
  | nil =>
    constructor
    · intro h; cases h
    · rintro ⟨front, x, rest, h, _⟩
      exact absurd (congrArg List.length h) (by simp)
  | cons x xs ih =>
    rw [List.mapM_cons, bind_eq_error_iff]
    constructor
    · rintro (h | ⟨y, hy, h⟩)
      · exact ⟨[], x, xs, rfl, by simp, h⟩
      · rcases bind_eq_error_iff.mp h with h | ⟨_, _, h⟩
        · obtain ⟨front, z, rest, rfl, hFront, hz⟩ := ih.mp h
          refine ⟨x :: front, z, rest, rfl, ?_, hz⟩
          intro w hw
          rcases List.mem_cons.mp hw with rfl | hw
          · exact ⟨y, hy⟩
          · exact hFront w hw
        · cases h
    · rintro ⟨front, z, rest, h, hFront, hz⟩
      cases front with
      | nil =>
        cases h
        exact .inl hz
      | cons w front =>
        cases h
        obtain ⟨y, hy⟩ := hFront x List.mem_cons_self
        have hRest := ih.mpr ⟨front, z, rest, rfl,
          fun v hv => hFront v (List.mem_cons_of_mem _ hv), hz⟩
        exact .inr ⟨y, hy, bind_eq_error_iff.mpr (.inl hRest)⟩

theorem mapM_ok_of_forall_exists {f : α → Except ε β} {Q : β → Prop} {xs : List α}
    (h : ∀ x ∈ xs, ∃ y, f x = .ok y ∧ Q y) :
    ∃ ys, xs.mapM f = .ok ys ∧ ys.length = xs.length ∧ ∀ y ∈ ys, Q y := by
  induction xs with
  | nil => exact ⟨[], rfl, rfl, by simp⟩
  | cons x xs ih =>
    obtain ⟨hHead, hTail⟩ := List.forall_mem_cons.mp h
    obtain ⟨y, hy, hQ⟩ := hHead
    obtain ⟨ys, hys, hLength, hAll⟩ := ih hTail
    refine ⟨y :: ys, ?_, congrArg (· + 1) hLength, List.forall_mem_cons.mpr ⟨hQ, hAll⟩⟩
    rw [List.mapM_cons, hy, ok_bind, hys]
    rfl

theorem mapM_isOk_iff {f : α → Except ε β} {xs : List α} :
    (∃ ys, xs.mapM f = .ok ys) ↔ ∀ x ∈ xs, ∃ y, f x = .ok y := by
  constructor
  · rintro ⟨ys, h⟩ x hx
    obtain ⟨y, _, hy⟩ := exists_of_mem_left (mapM_eq_ok_iff.mp h) hx
    exact ⟨y, hy⟩
  · intro h
    obtain ⟨ys, hys, _⟩ := mapM_ok_of_forall_exists (Q := fun _ => True)
      fun x hx => (h x hx).imp fun _ hy => ⟨hy, trivial⟩
    exact ⟨ys, hys⟩

theorem mapM_congr {f g : α → Except ε β} {xs : List α} (h : ∀ x ∈ xs, f x = g x) :
    xs.mapM f = xs.mapM g := by
  induction xs with
  | nil => rfl
  | cons x xs ih =>
    obtain ⟨hHead, hTail⟩ := List.forall_mem_cons.mp h
    rw [List.mapM_cons, List.mapM_cons, hHead, ih hTail]

/-- A traversal whose elements all fail alike unless they meet a condition. -/
theorem mapM_eq_ite {f : α → Except ε β} {P : α → Prop} [DecidablePred P]
    {g : α → β} {e : ε} {xs : List α}
    (h : ∀ x ∈ xs, f x = if P x then .ok (g x) else .error e) :
    xs.mapM f = if ∀ x ∈ xs, P x then .ok (xs.map g) else .error e := by
  induction xs with
  | nil => rfl
  | cons x xs ih =>
    obtain ⟨hHead, hTail⟩ := List.forall_mem_cons.mp h
    rw [List.mapM_cons, hHead, ih hTail]
    simp only [List.forall_mem_cons]
    by_cases hx : P x
    · by_cases hxs : ∀ y ∈ xs, P y
      · rw [if_pos hx, if_pos hxs, if_pos ⟨hx, hxs⟩]
        rfl
      · have hNot : ¬ (P x ∧ ∀ y ∈ xs, P y) := fun hBoth => hxs hBoth.2
        rw [if_pos hx, if_neg hxs, if_neg hNot]
        rfl
    · have hNot : ¬ (P x ∧ ∀ y ∈ xs, P y) := fun hBoth => hx hBoth.1
      rw [if_neg hx, if_neg hNot]
      rfl

/-- A computation none of whose faults has a message. -/
def Nameless (r : Except Fault α) : Prop := ∀ f, r = .error f → f.family? = none

theorem nameless_ok (a : α) : Nameless (.ok a) := nofun

theorem nameless_error {f : Fault} (h : f.family? = none) :
    Nameless (.error f : Except Fault α) := by
  intro g hg
  cases hg
  exact h

theorem Nameless.elim {r : Except Fault α} {f : Fault} (hr : Nameless r) (hf : r = .error f)
    (hNamed : f.family?.isSome = true) : False := by
  rw [hr f hf] at hNamed
  cases hNamed

theorem Nameless.bind {x : Except Fault α} {g : α → Except Fault β} (hx : Nameless x)
    (hg : ∀ a, Nameless (g a)) : Nameless (x >>= g) := by
  intro f hf
  rcases bind_eq_error_iff.mp hf with hf | ⟨a, _, hf⟩
  · exact hx f hf
  · exact hg a f hf

end

namespace Reported

variable {α β : Type}

/-- The result of an operation, and all notices after it, when some were told before. -/
def after (r : Reported α) (told : List Notice) : Except Fault α × List Notice :=
  (ExceptT.run r).run told

theorem report_eq_after (r : Reported α) : r.report = r.after [] := rfl

theorem after_bind (r : Reported α) (g : α → Reported β) (told : List Notice) :
    (r >>= g).after told =
      match r.after told with
      | (.ok a, told') => (g a).after told'
      | (.error f, told') => (.error f, told') := by
  change (ExceptT.bindCont (m := StateM (List Notice)) g (r.after told).1) (r.after told).2 = _
  rcases r.after told with ⟨_ | _, _⟩ <;> rfl

theorem after_lift (x : Except Fault α) (told : List Notice) :
    (liftM x : Reported α).after told = (x, told) := rfl

/-- What was told before has no part in the result. -/
def IsSteady (r : Reported α) : Prop := ∀ told, (r.after told).1 = r.report.1

theorem isSteady_lift (x : Except Fault α) : (liftM x : Reported α).IsSteady := fun _ => rfl

theorem isSteady_pure (a : α) : (pure a : Reported α).IsSteady := fun _ => rfl

theorem isSteady_throw (f : Fault) : (throw f : Reported α).IsSteady := fun _ => rfl

theorem isSteady_notify (n : Notice) : (notify n).IsSteady := fun _ => rfl

theorem after_bind_of_isSteady (r : Reported α) {g : α → Reported β} (hg : ∀ a, (g a).IsSteady)
    (told : List Notice) :
    ((r >>= g).after told).1 = (r.after told).1 >>= fun a => (g a).report.1 := by
  rw [after_bind]
  rcases r.after told with ⟨_ | a, told'⟩
  · rfl
  · exact hg a told'

theorem report_bind (r : Reported α) {g : α → Reported β} (hg : ∀ a, (g a).IsSteady) :
    (r >>= g).report.1 = r.report.1 >>= fun a => (g a).report.1 :=
  after_bind_of_isSteady r hg []

theorem report_lift (x : Except Fault α) : (liftM x : Reported α).report.1 = x := rfl

theorem report_attempt_bind (r : Reported α) {g : Except Fault α → Reported β}
    (hg : ∀ x, (g x).IsSteady) : (r.attempt >>= g).report.1 = (g r.report.1).report.1 :=
  report_bind r.attempt hg

theorem IsSteady.bind {r : Reported α} {g : α → Reported β} (hr : r.IsSteady)
    (hg : ∀ a, (g a).IsSteady) : (r >>= g).IsSteady := by
  intro told
  rw [after_bind_of_isSteady r hg, hr told, report_bind r hg]

end Reported
end TouchPath
