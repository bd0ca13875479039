import TouchPath.Arc
import TouchPath.Proofs.Plan

/-! # Repeated bisection

A pass of bisection keeps the ends of a list and doubles its gaps; what a midpoint hands on from its
neighbours, all points of the pass have (`Bisection.refines_refine`), and so after any number of
passes (`Bisection.refines_subdivide`). Of arcs this is used for the time: the middle of two whole
times is whole and lies between them.
-/
namespace TouchPath
set_option autoImplicit false

namespace Bisection

variable {α θ ε : Type}

theorem refine_cons_cons_eq_ok_iff {middle : α → α → Except ε α} {a b : α} {as bs : List α} :
    refine middle (a :: b :: as) = .ok bs ↔ ∃ m tail, middle a b = .ok m ∧
      refine middle (b :: as) = .ok tail ∧ bs = a :: m :: tail := by
  rw [refine, bind_eq_ok_iff]
  constructor
  · rintro ⟨m, hm, h⟩
    obtain ⟨tail, hTail, hEq⟩ := bind_eq_ok_iff.mp h
    cases hEq
    exact ⟨m, tail, hm, hTail, rfl⟩
  · rintro ⟨m, tail, hm, hTail, rfl⟩
    exact ⟨m, hm, bind_eq_ok_iff.mpr ⟨tail, hTail, rfl⟩⟩

/-- What a list keeps when it becomes a finer one: its ends, a property of its elements, and on
elements with that property a relation between neighbours. -/
structure Refines (P : α → Prop) (R : α → α → Prop) (as bs : List α) : Prop where
  head : bs.head? = as.head?
  last : bs.getLast? = as.getLast?
  mem : (∀ a ∈ as, P a) → ∀ b ∈ bs, P b
  chain : (∀ a ∈ as, P a) → as.IsChain R → bs.IsChain R

variable {P : α → Prop} {R : α → α → Prop}

theorem Refines.refl (as : List α) : Refines P R as as := ⟨rfl, rfl, fun h => h, fun _ h => h⟩

theorem Refines.trans {as bs cs : List α} (h : Refines P R as bs) (k : Refines P R bs cs) :
    Refines P R as cs where
  head := k.head.trans h.head
  last := k.last.trans h.last
  mem hAll := k.mem (h.mem hAll)
  chain hAll hChain := k.chain (h.mem hAll) (h.chain hAll hChain)

/-- A midpoint takes the property of two neighbours over and comes between them. -/
def Mediates (P : α → Prop) (R : α → α → Prop) (middle : α → α → Except ε α) : Prop :=
  ∀ a b m, middle a b = .ok m → P a → P b → P m ∧ (R a b → R a m ∧ R m b)

theorem refines_refine {middle : α → α → Except ε α} (hMiddle : Mediates P R middle)
    {as bs : List α} (h : refine middle as = .ok bs) : Refines P R as bs := by
  induction as generalizing bs with
  | nil =>
    cases h
    exact .refl []
  | cons a as ih =>
    cases as with
    | nil =>
      cases h
      exact .refl [a]
    | cons b as =>
      obtain ⟨m, tail, hm, hTail, rfl⟩ := refine_cons_cons_eq_ok_iff.mp h
      have hRefines := ih hTail
      -- the refined rest begins where the rest began, so the midpoint has its old neighbour
      obtain ⟨tail, rfl⟩ : ∃ rest, tail = b :: rest := by
        have hHead := hRefines.head
        rw [List.head?_cons, List.head?_eq_some_iff] at hHead
        exact hHead
      refine ⟨rfl, ?_, ?_, ?_⟩
      · rw [List.getLast?_cons_cons, List.getLast?_cons_cons, List.getLast?_cons_cons]
        exact hRefines.last
      · intro hAll
        obtain ⟨ha, hRest⟩ := List.forall_mem_cons.mp hAll
        have hb := hRest b List.mem_cons_self
        rw [List.forall_mem_cons, List.forall_mem_cons]
        exact ⟨ha, (hMiddle a b m hm ha hb).1, hRefines.mem hRest⟩
      · intro hAll hChain
        obtain ⟨ha, hRest⟩ := List.forall_mem_cons.mp hAll
        obtain ⟨hab, hChain⟩ := List.isChain_cons_cons.mp hChain
        have hm := (hMiddle a b m hm ha (hRest b List.mem_cons_self)).2 hab
        rw [List.isChain_cons_cons, List.isChain_cons_cons]
        exact ⟨hm.1, hm.2, hRefines.chain hRest hChain⟩

theorem length_refine {middle : α → α → Except ε α} {a : α} {as bs : List α}
    (h : refine middle (a :: as) = .ok bs) : bs.length = 2 * as.length + 1 := by
  induction as generalizing a bs with
  | nil =>
    cases h
    rfl
  | cons b as ih =>
    obtain ⟨m, tail, _, hTail, rfl⟩ := refine_cons_cons_eq_ok_iff.mp h
    rw [List.length_cons, List.length_cons, ih hTail, List.length_cons]
    omega

variable {middle : θ → α → α → Except ε α} {halve : θ → θ}

theorem refines_subdivide (hMiddle : ∀ angle, Mediates P R (middle angle)) {n : Nat} {angle : θ}
    {as bs : List α} (h : subdivide middle halve n angle as = .ok bs) : Refines P R as bs := by
  induction n generalizing angle as with
  | zero =>
    cases h
    exact .refl _
  | succ n ih =>
    rw [subdivide] at h
    obtain ⟨cs, hcs, hbs⟩ := bind_eq_ok_iff.mp h
    exact (refines_refine (hMiddle angle) hcs).trans (ih hbs)

theorem length_subdivide {n : Nat} {angle : θ} {a : α} {as bs : List α}
    (h : subdivide middle halve n angle (a :: as) = .ok bs) :
    bs.length = 2 ^ n * as.length + 1 := by
  induction n generalizing angle a as with
  | zero =>
    cases h
    rw [List.length_cons, Nat.pow_zero, Nat.one_mul]
  | succ n ih =>
    rw [subdivide] at h
    obtain ⟨cs, hcs, hbs⟩ := bind_eq_ok_iff.mp h
    have hLength := length_refine hcs
    cases cs with
    | nil => cases hLength
    | cons c cs =>
      have hcs : cs.length = 2 * as.length := by
        rw [List.length_cons] at hLength
        omega
      rw [ih hbs, hcs, Nat.pow_succ, Nat.mul_assoc]

end Bisection

namespace Arc

theorem time_midpoint {degrees : Value} {positive : Bool} {a b m : Anchor}
    (h : midpoint degrees positive a b = .ok m) :
    ∃ total, a.time.add b.time = .ok total ∧ m.time = total.half := by
  simp only [midpoint, bind_eq_ok_iff] at h
  obtain ⟨_, _, _, _, _, _, _, _, total, hTotal, h⟩ := h
  refine ⟨total, hTotal, ?_⟩
  split at h
  · simp only [bind_eq_ok_iff] at h
    obtain ⟨_, _, _, _, h⟩ := h
    cases h
    rfl
  · simp only [bind_eq_ok_iff] at h
    obtain ⟨_, _, _, _, _, _, _, _, _, _, h⟩ := h
    cases h
    rfl

theorem time_midpoint_of_int {degrees : Value} {positive : Bool} {a b m : Anchor} {n k : Int}
    (ha : a.time = .int n) (hb : b.time = .int k) (h : midpoint degrees positive a b = .ok m) :
    m.time = .int ((n + k).tdiv 2) := by
  obtain ⟨total, hTotal, hTime⟩ := time_midpoint h
  rw [ha, hb, Number.add_int] at hTotal
  cases hTotal
  rw [hTime, Number.half_int]

/-- Twice the mean of two integers, cut toward zero, is their sum up to one. -/
theorem mean_near (a b : Int) :
    a + b - 1 ≤ 2 * (a + b).tdiv 2 ∧ 2 * (a + b).tdiv 2 ≤ a + b + 1 := by
  rcases Int.le_total 0 (a + b) with hSign | hSign
  · rw [Int.tdiv_eq_ediv_of_nonneg hSign]
    omega
  · have hMean : (a + b).tdiv 2 = -(-(a + b) / 2) := by
      rw [← Int.tdiv_eq_ediv_of_nonneg (by omega), Int.neg_tdiv, Int.neg_neg]
    omega

theorem mean_between {a b : Int} (h : a ≤ b) : a ≤ (a + b).tdiv 2 ∧ (a + b).tdiv 2 ≤ b := by
  have hNear := mean_near a b
  omega

theorem mediates_midpoint (degrees : Value) (positive : Bool) :
    Bisection.Mediates (fun a : Anchor => a.time.isInt = true) (fun a b => a.millis ≤ b.millis)
      (midpoint degrees positive) := by
  intro a b m hm ha hb
  have hTime := time_midpoint_of_int (Anchor.time_eq_of_isInt ha) (Anchor.time_eq_of_isInt hb) hm
  constructor
  · change m.time.isInt = true
    rw [hTime]
    rfl
  · intro hLe
    change a.millis ≤ m.millis ∧ m.millis ≤ b.millis
    rw [Anchor.millis_of_time hTime]
    exact mean_between hLe

end Arc

theorem fits_curve {start stop : Anchor} {angle : Value} {positive : Bool} {t : Timeline}
    (hStart : start.time.isInt = true) (hStop : stop.time.isInt = true)
    (h : curve start stop angle positive = .ok t) :
    (Plan.mk 1 32 (stop.millis - start.millis) false).Fits t := by
  obtain ⟨angle', _, h⟩ := bind_eq_ok_iff.mp h
  split at h
  · obtain ⟨degrees, _, h⟩ := bind_eq_ok_iff.mp h
    obtain ⟨anchors, hAnchors, h⟩ := bind_eq_ok_iff.mp h
    cases h
    have hRefines := Bisection.refines_subdivide
      (fun d : Float => Arc.mediates_midpoint (.float d) positive) hAnchors
    have hWhole : ∀ a ∈ [start, stop], a.time.isInt = true := by
      rw [List.forall_mem_cons, List.forall_mem_singleton]
      exact ⟨hStart, hStop⟩
    refine .of_ends (hRefines.mem hWhole) (Nat.succ_pos 31) (Bisection.length_subdivide hAnchors)
      hRefines.head hRefines.last Int.sub_nonneg.symm ?_ (fun _ => rfl)
    intro hLength
    apply hRefines.chain hWhole
    rw [List.isChain_cons_cons]
    exact ⟨Int.sub_nonneg.mp hLength, List.isChain_singleton stop⟩
  · cases h

end TouchPath
