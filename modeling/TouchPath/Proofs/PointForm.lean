import TouchPath.Proofs.Defaults

/-! # Forms of points

A parameter gives a point as a point, as a mapping with both coordinates, or as a pair. Besides
these, whatever else has two elements that are read as integers is taken for a pair: a text of two
digits, two bytes, a set of two members. Every other value is refused, and no standard shape is
built without its points (`Registry.build_points_given`).
-/
namespace TouchPath
set_option autoImplicit false

namespace Text

/-- A digit stands for nothing else in a number. -/
structure IsPlain (c : Char) : Prop where
  blank : isBlank c = false
  minus : c ≠ '-'
  plus : c ≠ '+'
  separator : c ≠ '_'

theorem isPlain_of_digit? {c : Char} {d : Nat} (h : digit? c = some d) : IsPlain c where
  blank := by
    have hNone : ∀ z ∈ digitZeros, ∀ k < 10, isBlank (Char.ofNat (z + k)) = false := by decide
    obtain ⟨z, hFind, _⟩ := Option.map_eq_some_iff.mp h
    have hRange := List.find?_some hFind
    rw [Bool.and_eq_true, decide_eq_true_eq, decide_eq_true_eq] at hRange
    have hCode : z + (c.toNat - z) = c.toNat := by omega
    have hHere := hNone z (List.mem_of_find?_eq_some hFind) (c.toNat - z) (by omega)
    rwa [hCode, Char.ofNat_toNat] at hHere
  minus := by rintro rfl; exact nomatch h.symm.trans (show digit? '-' = none by decide)
  plus := by rintro rfl; exact nomatch h.symm.trans (show digit? '+' = none by decide)
  separator := by rintro rfl; exact nomatch h.symm.trans (show digit? '_' = none by decide)

theorem takeSign_singleton (c : Char) :
    takeSign [c] =
      if c = '-' then (true, []) else if c = '+' then (false, []) else (false, [c]) := by
  unfold takeSign
  split
  · rename_i cs hEq
    cases hEq
    rfl
  · rename_i cs hEq
    cases hEq
    rfl
  · rename_i hMinus hPlus
    rw [if_neg, if_neg]
    · rintro rfl
      exact hPlus [] rfl
    · rintro rfl
      exact hMinus [] rfl

theorem digitRun?_singleton (c : Char) :
    digitRun? [c] = if c = '_' then none else (digit? c).map ([·]) := by
  by_cases hSep : c = '_'
  · subst hSep
    rfl
  · have hSplit : splitAtChar '_' [c] = [[c]] := by simp [splitAtChar, hSep]
    rw [digitRun?, hSplit, if_neg hSep]
    cases hDigit : digit? c <;> simp [digits?, hDigit]

theorem strip_singleton (c : Char) : strip [c] = if isBlank c then [] else [c] := by
  cases hBlank : isBlank c <;> simp [strip, hBlank]

theorem readInt?_singleton (c : Char) :
    readInt? (String.singleton c) = (digit? c).map Int.ofNat := by
  rw [readInt?, String.toList_singleton, strip_singleton]
  cases hDigit : digit? c with
  | some d =>
    have hPlain := isPlain_of_digit? hDigit
    rw [hPlain.blank, if_neg Bool.false_ne_true, takeSign_singleton, if_neg hPlain.minus,
      if_neg hPlain.plus]
    dsimp only
    rw [digitRun?_singleton, if_neg hPlain.separator, hDigit]
    simp [ofDigits, applySign, maxDigits]
  | none =>
    -- a blank or a sign leaves nothing to read, and any other character is read as a digit
    have hRun : digitRun? (takeSign (if isBlank c then [] else [c])).2 = none := by
      split
      · rfl
      · rw [takeSign_singleton]
        split
        · rfl
        · split
          · rfl
          · simp [digitRun?_singleton, hDigit]
    dsimp only
    rw [hRun]
    rfl

end Text

namespace Value

theorem toInt_character_eq_ok_iff {c : Char} {n : Int} :
    (text (String.singleton c)).toInt = .ok n ↔
      ∃ d : Nat, Text.digit? c = some d ∧ n = d := by
  have hRead : (text (String.singleton c)).toInt =
      readAs readInt? (some (String.singleton c)) := rfl
  rw [hRead, readAs, Option.bind_some, Text.readInt?_singleton]
  cases Text.digit? c with
  | none => simp
  | some d => simp [eq_comm]

/-- The forms in which a value gives a point. -/
inductive GivesPoint (v : Value) : Point → Prop where
  | point {p : Point} (form : v.opened = .point p) : GivesPoint v p
  | mapping {es : Entries} {a b : Value} {x y : Int} (form : v.opened = .dict es)
      (hasX : es.get? "x" = some a) (hasY : es.get? "y" = some b)
      (readX : a.toInt = .ok x) (readY : b.toInt = .ok y) : GivesPoint v ⟨x, y⟩
  | list {a b : Value} {x y : Int} (form : v.opened = .list [a, b])
      (readX : a.toInt = .ok x) (readY : b.toInt = .ok y) : GivesPoint v ⟨x, y⟩
  | pair {a b : Value} {x y : Int} (form : v.opened = .pair a b)
      (readX : a.toInt = .ok x) (readY : b.toInt = .ok y) : GivesPoint v ⟨x, y⟩

/-- Values of no such form that are read as points all the same. -/
inductive PassesForPoint (v : Value) : Point → Prop where
  | digits {s : String} {c d : Char} {x y : Nat} (form : v.opened = .text s)
      (characters : s.toList = [c, d]) (readX : Text.digit? c = some x)
      (readY : Text.digit? d = some y) : PassesForPoint v ⟨x, y⟩
  | bytes {a b : UInt8} (form : v.opened = .bytes [a, b]) : PassesForPoint v ⟨a.toNat, b.toNat⟩
  | set {a b : Value} {x y : Int} (form : v.opened = .set [a, b])
      (readX : a.toInt = .ok x) (readY : b.toInt = .ok y) : PassesForPoint v ⟨x, y⟩

variable {v : Value} {p q : Point}

theorem PassesForPoint.not_givesPoint (h : v.PassesForPoint p) : ¬ v.GivesPoint q := by
  intro hGives
  have hForm : (∃ s, v.opened = .text s) ∨ (∃ bs, v.opened = .bytes bs) ∨
      ∃ items, v.opened = .set items := by
    cases h with
    | digits form => exact .inl ⟨_, form⟩
    | bytes form => exact .inr (.inl ⟨_, form⟩)
    | set form => exact .inr (.inr ⟨_, form⟩)
  cases hGives with
  | point form => simp [form] at hForm
  | mapping form => simp [form] at hForm
  | list form => simp [form] at hForm
  | pair form => simp [form] at hForm

end Value

namespace Param

open Value

variable {v : Value} {p : Point}

theorem readEntry_eq_ok_iff {entry : Option Value} {n : Int} :
    readEntry entry = .ok n ↔ ∃ a, entry = some a ∧ a.toInt = .ok n := by
  cases entry <;> simp [readEntry]

theorem fieldPoint_eq_ok_iff {es : Entries} (h : v.opened = .dict es) :
    fieldPoint v = .ok p ↔ ∃ a b, es.get? "x" = some a ∧ es.get? "y" = some b ∧
      a.toInt = .ok p.x ∧ b.toInt = .ok p.y := by
  rw [fieldPoint, intField_eq h, intField_eq h, bind_eq_ok_iff]
  constructor
  · rintro ⟨x, hx, hRest⟩
    obtain ⟨y, hy, hEq⟩ := bind_eq_ok_iff.mp hRest
    cases hEq
    obtain ⟨a, ha, readX⟩ := readEntry_eq_ok_iff.mp hx
    obtain ⟨b, hb, readY⟩ := readEntry_eq_ok_iff.mp hy
    exact ⟨a, b, ha, hb, readX, readY⟩
  · rintro ⟨a, b, ha, hb, readX, readY⟩
    exact ⟨p.x, readEntry_eq_ok_iff.mpr ⟨a, ha, readX⟩,
      bind_eq_ok_iff.mpr ⟨p.y, readEntry_eq_ok_iff.mpr ⟨b, hb, readY⟩, rfl⟩⟩

theorem pairPoint_eq_ok_iff :
    pairPoint v = .ok p ↔ ∃ a b, v.elements = .ok [a, b] ∧
      a.toInt = .ok p.x ∧ b.toInt = .ok p.y := by
  rw [pairPoint, bind_eq_ok_iff]
  constructor
  · rintro ⟨items, hItems, hRead⟩
    split at hRead
    · rename_i a b
      obtain ⟨x, readX, hRest⟩ := bind_eq_ok_iff.mp hRead
      obtain ⟨y, readY, hEq⟩ := bind_eq_ok_iff.mp hRest
      cases hEq
      exact ⟨a, b, hItems, readX, readY⟩
    · cases hRead
  · rintro ⟨a, b, hItems, readX, readY⟩
    exact ⟨_, hItems, bind_eq_ok_iff.mpr ⟨p.x, readX, bind_eq_ok_iff.mpr ⟨p.y, readY, rfl⟩⟩⟩

theorem eq_pair_of_map {α β : Type} {f : α → β} {xs : List α} {a b : β} (h : xs.map f = [a, b]) :
    ∃ c d, xs = [c, d] ∧ f c = a ∧ f d = b := by
  obtain ⟨c, tail, rfl, hHead, hTail⟩ := List.map_eq_cons_iff.mp h
  obtain ⟨d, _, rfl, hSecond, hNil⟩ := List.map_eq_cons_iff.mp hTail
  cases List.map_eq_nil_iff.mp hNil
  exact ⟨c, d, rfl, hHead, hSecond⟩

theorem form_of_elements {a b : Value} {x y : Int} (hItems : v.elements = .ok [a, b])
    (hMapping : ∀ es, v.opened ≠ .dict es) (readX : a.toInt = .ok x) (readY : b.toInt = .ok y) :
    v.GivesPoint ⟨x, y⟩ ∨ v.PassesForPoint ⟨x, y⟩ := by
  unfold elements at hItems
  split at hItems
  · rename_i items form
    cases hItems
    exact .inl (.list form readX readY)
  · rename_i items form
    cases hItems
    exact .inr (.set form readX readY)
  · rename_i first second form
    cases hItems
    exact .inl (.pair form readX readY)
  · rename_i es form
    exact absurd form (hMapping es)
  · rename_i s form
    obtain ⟨c, d, hChars, rfl, rfl⟩ := eq_pair_of_map (Except.ok.inj hItems)
    obtain ⟨m, digitX, rfl⟩ := toInt_character_eq_ok_iff.mp readX
    obtain ⟨n, digitY, rfl⟩ := toInt_character_eq_ok_iff.mp readY
    exact .inr (.digits form hChars digitX digitY)
  · rename_i bs form
    obtain ⟨c, d, rfl, rfl, rfl⟩ := eq_pair_of_map (Except.ok.inj hItems)
    cases readX
    cases readY
    exact .inr (.bytes form)
  · cases hItems

theorem readPoint_of_elements {a b : Value} {x y : Int} (hPoint : ∀ q, v.opened ≠ .point q)
    (hMapping : ∀ es, v.opened ≠ .dict es) (hItems : v.elements = .ok [a, b])
    (readX : a.toInt = .ok x) (readY : b.toInt = .ok y) : readPoint v = .ok ⟨x, y⟩ := by
  unfold readPoint
  split
  · rename_i q form
    exact absurd form (hPoint q)
  · rename_i es form
    exact absurd form (hMapping es)
  · exact pairPoint_eq_ok_iff.mpr ⟨a, b, hItems, readX, readY⟩

theorem readPoint_of_givesPoint (h : v.GivesPoint p) : readPoint v = .ok p := by
  cases h with
  | point form => rw [readPoint, form]
  | mapping form hasX hasY readX readY =>
    rw [readPoint, form]
    exact (fieldPoint_eq_ok_iff form).mpr ⟨_, _, hasX, hasY, readX, readY⟩
  | list form readX readY =>
    exact readPoint_of_elements (by simp [form]) (by simp [form]) (by rw [elements, form])
      readX readY
  | pair form readX readY =>
    exact readPoint_of_elements (by simp [form]) (by simp [form]) (by rw [elements, form])
      readX readY

theorem readPoint_of_passesForPoint (h : v.PassesForPoint p) : readPoint v = .ok p := by
  cases h with
  | digits form characters readX readY =>
    refine readPoint_of_elements (by simp [form]) (by simp [form]) ?_
      (toInt_character_eq_ok_iff.mpr ⟨_, readX, rfl⟩)
      (toInt_character_eq_ok_iff.mpr ⟨_, readY, rfl⟩)
    rw [elements, form]
    dsimp only
    rw [characters]
    rfl
  | bytes form =>
    exact readPoint_of_elements (by simp [form]) (by simp [form]) (by rw [elements, form]; rfl)
      rfl rfl
  | set form readX readY =>
    exact readPoint_of_elements (by simp [form]) (by simp [form]) (by rw [elements, form])
      readX readY

theorem readPoint_eq_ok_iff : readPoint v = .ok p ↔ v.GivesPoint p ∨ v.PassesForPoint p := by
  constructor
  · intro hRead
    unfold readPoint at hRead
    split at hRead
    · rename_i q form
      cases hRead
      exact .inl (.point form)
    · rename_i es form
      obtain ⟨a, b, ha, hb, readX, readY⟩ := (fieldPoint_eq_ok_iff form).mp hRead
      exact .inl (.mapping form ha hb readX readY)
    · rename_i hPoint hMapping
      obtain ⟨a, b, hItems, readX, readY⟩ := pairPoint_eq_ok_iff.mp hRead
      exact form_of_elements hItems hMapping readX readY
  · rintro (hGives | hPasses)
    · exact readPoint_of_givesPoint hGives
    · exact readPoint_of_passesForPoint hPasses

theorem orFaultInRange_eq_ok_iff {α : Type} {f : Fault} {r : Except Fault α} {a : α} :
    orFaultInRange f r = .ok a ↔ r = .ok a := by
  cases r with
  | ok b => exact Iff.rfl
  | error e => cases e <;> simp [orFaultInRange]

theorem point_eq_ok_iff {params : Value} {es : Entries} (h : params.opened = .dict es)
    (key : String) : point params key = .ok p ↔
      ∃ v, es.get? key = some v ∧ (v.GivesPoint p ∨ v.PassesForPoint p) := by
  rw [point, require_of_opened h, require_dict]
  cases hGet : es.get? key with
  | none => simp
  | some v => simp [asPoint_eq, orFaultInRange_eq_ok_iff, readPoint_eq_ok_iff]

end Param

namespace Builder

/-- The parameters of each standard shape that are points. -/
def pointKeys : List (String × List String) :=
  [("circle", ["center"]), ("curve", ["start", "end"]), ("tap", ["point"]),
    ("long_press", ["point"]), ("double_tap", ["point"]), ("drag", ["start", "end"]),
    ("swipe", ["resolution", "point"]), ("pinch_in", []), ("pinch_out", [])]

def Needs (b : Builder) (keys : List String) : Prop :=
  ∀ params settings timelines, b params settings = .ok timelines →
    ∀ key ∈ keys, ∃ p, Param.point params key = .ok p

variable {keys : List String}

theorem needs_ofTimeline {build : Value → Settings → Except Fault Timeline}
    (h : ∀ params settings t, build params settings = .ok t →
      ∀ key ∈ keys, ∃ p, Param.point params key = .ok p) : (ofTimeline build).Needs keys := by
  intro params settings ts hts
  obtain ⟨t, ht, _⟩ := bind_eq_ok_iff.mp hts
  exact h params settings t ht

theorem needs_circle : circle.Needs ["center"] := by
  apply needs_ofTimeline
  intro params settings t h
  obtain ⟨center, hCenter, _⟩ := bind_eq_ok_iff.mp h
  exact List.forall_mem_singleton.mpr ⟨center, hCenter⟩

theorem needs_curve : curve.Needs ["start", "end"] := by
  apply needs_ofTimeline
  intro params settings t h
  simp only [bind_eq_ok_iff] at h
  obtain ⟨_, _, _, _, start, hStart, stop, hStop, _⟩ := h
  rw [List.forall_mem_cons, List.forall_mem_singleton]
  exact ⟨⟨start, hStart⟩, stop, hStop⟩

theorem needs_tapHolding (hold : Settings → Value) : (tapHolding hold).Needs ["point"] := by
  apply needs_ofTimeline
  intro params settings t h
  obtain ⟨p, hPoint, _⟩ := bind_eq_ok_iff.mp h
  exact List.forall_mem_singleton.mpr ⟨p, hPoint⟩

theorem needs_doubleTap : doubleTap.Needs ["point"] := by
  intro params settings ts h
  obtain ⟨p, hPoint, _⟩ := bind_eq_ok_iff.mp h
  exact List.forall_mem_singleton.mpr ⟨p, hPoint⟩

theorem needs_drag : drag.Needs ["start", "end"] := by
  apply needs_ofTimeline
  intro params settings t h
  simp only [bind_eq_ok_iff] at h
  obtain ⟨start, hStart, stop, hStop, _⟩ := h
  rw [List.forall_mem_cons, List.forall_mem_singleton]
  exact ⟨⟨start, hStart⟩, stop, hStop⟩

theorem needs_swipe : swipe.Needs ["resolution", "point"] := by
  apply needs_ofTimeline
  intro params settings t h
  simp only [bind_eq_ok_iff] at h
  obtain ⟨resolution, hResolution, p, hPoint, _⟩ := h
  rw [List.forall_mem_cons, List.forall_mem_singleton]
  exact ⟨⟨resolution, hResolution⟩, p, hPoint⟩

theorem needs_nothing (b : Builder) : b.Needs [] := by
  intro params settings timelines _ key hKey
  cases hKey

theorem standard_need :
    List.Forall₂ (fun b keys => b.1 = keys.1 ∧ b.2.Needs keys.2) standard pointKeys := by
  unfold standard pointKeys
  refine .cons ⟨rfl, needs_circle⟩ <| .cons ⟨rfl, needs_curve⟩ <| .cons ⟨rfl, needs_tapHolding _⟩ <|
    .cons ⟨rfl, needs_tapHolding _⟩ <| .cons ⟨rfl, needs_doubleTap⟩ <| .cons ⟨rfl, needs_drag⟩ <|
    .cons ⟨rfl, needs_swipe⟩ <| .cons ⟨rfl, needs_nothing _⟩ <| .cons ⟨rfl, needs_nothing _⟩ .nil

end Builder

namespace Registry

variable {params : Value} {es : Entries}

theorem needs_of_build (h : params.opened = .dict es) {settings : Settings} {shape : String}
    {timelines : List Timeline} (hBuild : (standard settings).build shape params = .ok timelines) :
    ∃ keys, Builder.pointKeys.lookup shape = some keys ∧
      ∀ key ∈ keys, ∃ p, Param.point params key = .ok p := by
  cases hb : Builder.standard.lookup shape with
  | none =>
    have hLookup : (standard settings).builders.lookup shape = none := hb
    rw [build, hLookup] at hBuild
    cases hBuild
  | some b =>
    obtain ⟨keys, hKeys, hNeeds⟩ := lookup_of_forall₂ Builder.standard_need hb
    rw [build_of_lookup h hb] at hBuild
    exact ⟨keys, hKeys, hNeeds _ _ _ hBuild⟩

/-- A parameter is read as a point exactly when its value has one of the forms or passes for one of
them, and then with the coordinates in this order. A standard shape that is built has such a value
for each of its points. -/
theorem build_points_given (h : params.opened = .dict es) :
    (∀ key p, Param.point params key = .ok p ↔
      ∃ v, es.get? key = some v ∧ (v.GivesPoint p ∨ v.PassesForPoint p)) ∧
    (∀ (v : Value) p q, v.PassesForPoint p → ¬ v.GivesPoint q) ∧
    ∀ settings shape timelines, (standard settings).build shape params = .ok timelines →
      ∃ keys, Builder.pointKeys.lookup shape = some keys ∧
        ∀ key ∈ keys, ∃ v p, es.get? key = some v ∧ (v.GivesPoint p ∨ v.PassesForPoint p) := by
  refine ⟨fun key p => Param.point_eq_ok_iff h key, fun v p q hPasses => hPasses.not_givesPoint, ?_⟩
  intro settings shape timelines hBuild
  obtain ⟨keys, hKeys, hPoints⟩ := needs_of_build h hBuild
  refine ⟨keys, hKeys, ?_⟩
  intro key hKey
  obtain ⟨p, hp⟩ := hPoints key hKey
  obtain ⟨v, hv, hForm⟩ := (Param.point_eq_ok_iff h key).mp hp
  exact ⟨v, p, hv, hForm⟩

theorem build_points_given_drag :
    (∃ v, Entries.get? [(.text "start", .dict [(.text "y", .int 2), (.text "x", .int 1)]),
        (.text "end", .list [.text "4", .bool true])] "end" = some v ∧
      (v.GivesPoint ⟨4, 1⟩ ∨ v.PassesForPoint ⟨4, 1⟩)) ∧
    ∃ v p, Entries.get? [(.text "start", .dict [(.text "y", .int 2), (.text "x", .int 1)]),
        (.text "end", .list [.text "4", .bool true])] "start" = some v ∧
      (v.GivesPoint p ∨ v.PassesForPoint p) := by
  let es : Entries := [(.text "start", .dict [(.text "y", .int 2), (.text "x", .int 1)]),
    (.text "end", .list [.text "4", .bool true])]
  obtain ⟨hRead, _, hShapes⟩ := @build_points_given (.dict es) es rfl
  have hStop : Param.point (.dict es) "end" = .ok ⟨4, 1⟩ := rfl
  refine ⟨(hRead "end" ⟨4, 1⟩).mp hStop, ?_⟩
  obtain ⟨keys, hKeys, hPoints⟩ := hShapes .standard "drag"
    [⟨[⟨.int 1, .int 2, .int 0⟩, ⟨.int 4, .int 1, .int 500⟩]⟩] rfl
  cases hKeys
  exact hPoints "start" List.mem_cons_self

/-- A text of two digits is taken for a point. -/
theorem build_text_taken_for_point :
    (standard .standard).build "tap" (.dict [(.text "point", .text "12")]) =
      .ok [⟨[⟨.int 1, .int 2, .int 0⟩, ⟨.int 1, .int 2, .int 0⟩]⟩] ∧
    ∀ p, ¬ (Value.text "12").GivesPoint p := by
  refine ⟨rfl, fun p => ?_⟩
  have hPasses : (Value.text "12").PassesForPoint ⟨1, 2⟩ :=
    @Value.PassesForPoint.digits _ _ _ _ 1 2 rfl rfl (by decide) (by decide)
  exact hPasses.not_givesPoint

end Registry
end TouchPath
