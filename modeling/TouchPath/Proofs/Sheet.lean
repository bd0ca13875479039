import TouchPath.Geometry.Sheet
import Mathlib.Data.List.DropRight

/-! # Corners of rectangles that change

A move keeps the lower-right corner and an assigned size keeps the upper-left one. So after any run
the upper-left corner is where it was last moved to, and the lower-right corner where the last
assignment of a size left it. What happens elsewhere on the sheet does not matter, and a copy stays
what the original was when it was taken (`Sheet.run_corners`).
-/
namespace TouchPath
set_option autoImplicit false

namespace Bounds

variable (b : Bounds) (e : Edit)

theorem upperLeft_edit : (b.edit e).upperLeft = e.target?.getD b.upperLeft := by
  cases e <;> rfl

theorem lowerRight_edit (h : e.isMove = true) : (b.edit e).lowerRight = b.lowerRight := by
  cases e with
  | move p => exact moveTo_lowerRight b p
  | setUpperLeft p => exact moveTo_lowerRight b p
  | setWidth width => cases h
  | setHeight height => cases h

end Bounds

namespace Sheet

variable {s : Sheet} {i : Nat} {b : Bounds}

theorem at?_update (s : Sheet) (place i : Nat) (f : Bounds → Bounds) :
    (s.update place f).at? i = if place = i then (s.at? i).map f else s.at? i := by
  rw [at?, update, List.getElem?_modify]
  split <;> simp [at?]

theorem moveTo_eq_update (s : Sheet) (place : Nat) (p : Point) :
    s.moveTo place p = s.update place (·.moveTo p) := by
  simp only [moveTo, update, List.modify_modify_eq]
  rfl

theorem edit_eq_update (s : Sheet) (place : Nat) (e : Bounds.Edit) :
    s.edit place e = s.update place (·.edit e) := by
  cases e with
  | move p => exact moveTo_eq_update s place p
  | setUpperLeft p => exact moveTo_eq_update s place p
  | setWidth width => rfl
  | setHeight height => rfl

theorem at?_copy (h : s.at? i = some b) (place : Nat) : (s.copy place).at? i = some b := by
  obtain ⟨hLt, _⟩ := List.getElem?_eq_some_iff.mp h
  rw [at?, copy, List.getElem?_append_left hLt]
  exact h

theorem at?_size_copy (h : s.at? i = some b) : (s.copy i).at? s.size = some b := by
  rw [at?, copy, size, h, List.getElem?_append_right (Nat.le_refl _), Nat.sub_self]
  rfl

namespace Action

/-- The edit that an action makes of the rectangle in a place. -/
def editOf? (i : Nat) : Action → Option Bounds.Edit
  | edit place e => if place = i then some e else none
  | copy _ => none

def target? (i : Nat) (a : Action) : Option Point := (a.editOf? i).bind (·.target?)

/-- No size of the rectangle in a place is assigned. -/
def keepsSizes (i : Nat) (a : Action) : Bool := (a.editOf? i).all (·.isMove)

end Action

def lastTarget? (i : Nat) (actions : List Action) : Option Point :=
  (actions.filterMap (Action.target? i)).getLast?

theorem at?_act (h : s.at? i = some b) (a : Action) :
    (s.act a).at? i = some (((a.editOf? i).map b.edit).getD b) := by
  cases a with
  | copy place => exact at?_copy h place
  | edit place e =>
    rw [act, edit_eq_update, at?_update, h, Action.editOf?]
    split <;> rfl

theorem at?_act_of_editOf?_eq_none (h : s.at? i = some b) {a : Action} (ha : a.editOf? i = none) :
    (s.act a).at? i = some b := by
  rw [at?_act h, ha]
  rfl

theorem corners_act (h : s.at? i = some b) (a : Action) :
    ∃ c, (s.act a).at? i = some c ∧ c.upperLeft = (a.target? i).getD b.upperLeft ∧
      (a.keepsSizes i = true → c.lowerRight = b.lowerRight) := by
  refine ⟨_, at?_act h a, ?_⟩
  rw [Action.target?, Action.keepsSizes]
  cases a.editOf? i with
  | none => exact ⟨rfl, fun _ => rfl⟩
  | some e => exact ⟨b.upperLeft_edit e, b.lowerRight_edit e⟩

theorem run_concat (s : Sheet) (actions : List Action) (a : Action) :
    s.run (actions ++ [a]) = (s.run actions).act a := by
  rw [run, List.foldl_append]
  rfl

theorem run_append (s : Sheet) (actions later : List Action) :
    s.run (actions ++ later) = (s.run actions).run later := List.foldl_append

theorem at?_run_of_unedited (h : s.at? i = some b) {actions : List Action}
    (hOther : ∀ e, Action.edit i e ∉ actions) : (s.run actions).at? i = some b := by
  induction actions using List.reverseRecOn with
  | nil => exact h
  | append_singleton actions a ih =>
    have hFirst := ih fun e he => hOther e (List.mem_append_left _ he)
    rw [run_concat]
    apply at?_act_of_editOf?_eq_none hFirst
    cases a with
    | copy place => rfl
    | edit place e =>
      rw [Action.editOf?, if_neg]
      rintro rfl
      exact hOther e (List.mem_append_right _ List.mem_cons_self)

/-- The upper-left corner comes from the last move, the lower-right corner from the run up to the
last assignment of a size. -/
theorem corners_run (h : s.at? i = some b) (actions : List Action) :
    ∃ c, (s.run actions).at? i = some c ∧
      c.upperLeft = (lastTarget? i actions).getD b.upperLeft ∧
      ∃ d, (s.run (actions.rdropWhile (Action.keepsSizes i))).at? i = some d ∧
        c.lowerRight = d.lowerRight := by
  induction actions using List.reverseRecOn with
  | nil => exact ⟨b, h, rfl, b, h, rfl⟩
  | append_singleton actions a ih =>
    obtain ⟨c, hc, hUpper, d, hd, hLower⟩ := ih
    obtain ⟨c', hc', hUpper', hLower'⟩ := corners_act hc a
    -- a last action that keeps the sizes leaves the moment that counts where it was
    refine ⟨c', by rw [run_concat]; exact hc', ?_, ?_⟩
    · rw [hUpper', hUpper, lastTarget?, lastTarget?, List.filterMap_append]
      cases hTarget : a.target? i with
      | none => simp [hTarget]
      | some p => simp [hTarget]
    · cases hKeeps : a.keepsSizes i with
      | true =>
        rw [List.rdropWhile_concat_pos _ _ _ hKeeps]
        exact ⟨d, hd, (hLower' hKeeps).trans hLower⟩
      | false =>
        rw [List.rdropWhile_concat_neg _ _ _ (by simp [hKeeps]), run_concat]
        exact ⟨c', hc', rfl⟩

/-- After moves alone a rectangle is spanned by the last target and the lower-right corner that it
had before them. -/
theorem at?_run_of_moves (h : s.at? i = some b) {moves : List Action} {p : Point}
    (hMoves : ∀ a ∈ moves, a.keepsSizes i = true) (hLast : lastTarget? i moves = some p) :
    (s.run moves).at? i = some (.ofCorners p b.lowerRight) := by
  obtain ⟨c, hc, hUpper, d, hd, hLower⟩ := corners_run h moves
  rw [List.rdropWhile_eq_nil_iff.mpr hMoves] at hd
  cases h.symm.trans hd
  rw [hc, ← Bounds.ofCorners_self c, hUpper, hLower, hLast]
  rfl

/-- A rectangle after any run. Its upper-left corner is the target of its last move, and its
lower-right corner the one that the last assignment of a size left; so of moves that follow only
the last one counts. A copy that is taken now keeps what the rectangle is now. -/
theorem run_corners (h : s.at? i = some b) (actions : List Action) :
    ∃ c, (s.run actions).at? i = some c ∧
      c.upperLeft = (lastTarget? i actions).getD b.upperLeft ∧
      (∃ d, (s.run (actions.rdropWhile (Action.keepsSizes i))).at? i = some d ∧
        c.lowerRight = d.lowerRight) ∧
      (∀ moves p, (∀ a ∈ moves, a.keepsSizes i = true) → lastTarget? i moves = some p →
        (s.run (actions ++ moves)).at? i = some (.ofCorners p c.lowerRight)) ∧
      ∀ later, (∀ e, Action.edit (s.run actions).size e ∉ later) →
        (s.run (actions ++ .copy i :: later)).at? (s.run actions).size = some c := by
  obtain ⟨c, hc, hUpper, hLower⟩ := corners_run h actions
  refine ⟨c, hc, hUpper, hLower, ?_, ?_⟩
  · intro moves p hMoves hLast
    rw [run_append]
    exact at?_run_of_moves hc hMoves hLast
  · intro later hOther
    rw [run_append]
    exact at?_run_of_unedited (at?_size_copy hc) hOther

/-- A move beyond the lower-right corner, a new width, and then moves or a copy. -/
theorem run_corners_turned :
    ((ofBounds ⟨⟨0, 0⟩, 10, 10⟩).run
        [.edit 0 (.move ⟨20, 5⟩), .edit 0 (.setWidth 3), .edit 0 (.setUpperLeft ⟨9, 9⟩)]).at? 0 =
      some ⟨⟨9, 9⟩, 14, 1⟩ ∧
    ((ofBounds ⟨⟨0, 0⟩, 10, 10⟩).run
        ([.edit 0 (.move ⟨20, 5⟩), .edit 0 (.setWidth 3), .edit 0 (.setUpperLeft ⟨9, 9⟩)] ++
          [.edit 0 (.move ⟨70, 0⟩), .edit 0 (.setUpperLeft ⟨30, 30⟩)])).at? 0 =
      some (.ofCorners ⟨30, 30⟩ ⟨23, 10⟩) ∧
    ((ofBounds ⟨⟨0, 0⟩, 10, 10⟩).run
        ([.edit 0 (.move ⟨20, 5⟩), .edit 0 (.setWidth 3), .edit 0 (.setUpperLeft ⟨9, 9⟩)] ++
          .copy 0 :: [.edit 0 (.move ⟨1, 1⟩), .edit 0 (.setHeight 8)])).at? 1 =
      some ⟨⟨9, 9⟩, 14, 1⟩ := by
  obtain ⟨c, hc, _, _, hMoves, hCopy⟩ :=
    @run_corners (ofBounds ⟨⟨0, 0⟩, 10, 10⟩) 0 ⟨⟨0, 0⟩, 10, 10⟩ rfl
      [.edit 0 (.move ⟨20, 5⟩), .edit 0 (.setWidth 3), .edit 0 (.setUpperLeft ⟨9, 9⟩)]
  have hEq : c = ⟨⟨9, 9⟩, 14, 1⟩ := Option.some.inj (hc.symm.trans rfl)
  subst hEq
  refine ⟨hc, hMoves _ _ (by decide) rfl, hCopy _ ?_⟩
  change ∀ e, Action.edit 1 e ∉ [.edit 0 (.move ⟨1, 1⟩), .edit 0 (.setHeight 8)]
  simp

end Sheet
end TouchPath
