import TouchPath.Param
import TouchPath.Proofs.Traversal

/-! # How the readers of parameters end

A reader gives a value or a fault about the argument, with two exceptions. An infinite coordinate
of a point, or an infinite field of a rectangle, is a number out of range when everything before it
is an integer. And a fault whose message would show an integer of more than `maxDigits` digits, like
a rectangle whose text has such a number, is an unusable value.
-/
namespace TouchPath
set_option autoImplicit false

namespace Number

theorem trunc_float (x : Float) :
    (float x).trunc =
      match Dyadic.ofFloat? x with
      | some d => .ok d.trunc
      | none => .error (noInteger x) := rfl

theorem trunc_eq_overflow_iff (x : Float) :
    (float x).trunc = .error .overflow ↔ x.isInf = true := by
  change _ ↔ x.toModel.unpack.isInf = true
  have hNaN : x.isNaN = x.toModel.unpack.isNaN := rfl
  rw [trunc_float, noInteger, hNaN]
  unfold Dyadic.ofFloat?
  cases x.toModel.unpack <;>
    simp [Float.Model.UnpackedFloat.isInf, Float.Model.UnpackedFloat.isNaN]

end Number

namespace Value

theorem readAs_ne_overflow {α : Type} (read : String → Option α) (s : Option String) :
    readAs read s ≠ .error .overflow := by
  unfold readAs
  split <;> exact nofun

theorem toInt_eq_overflow_iff {v : Value} :
    v.toInt = .error .overflow ↔ ∃ x, v = .float x ∧ x.isInf = true := by
  constructor
  · intro h
    cases v with
    | float x => exact ⟨x, rfl, (Number.trunc_eq_overflow_iff x).mp h⟩
    | text s => exact absurd h (readAs_ne_overflow _ _)
    | bytes bs => exact absurd h (readAs_ne_overflow _ _)
    | _ => cases h
  · rintro ⟨x, rfl, hx⟩
    exact (Number.trunc_eq_overflow_iff x).mpr hx

theorem require_dict (es : Entries) (key : String) :
    (dict es).require key =
      match es.get? key with
      | some v => .ok v
      | none => fail (.missingParameter key) := by
  have hHolds : (dict es).holds key = .ok (es.get? key).isSome := rfl
  have hField : (dict es).field key =
      match es.get? key with
      | some w => .ok w
      | none => .error .missingKey := rfl
  rw [require, hHolds, hField, ok_bind]
  cases es.get? key <;> rfl

end Value

namespace Param

/-- A value, or a fault about the argument. -/
def Answers {α : Type} (r : Except Fault α) : Prop :=
  (∃ a, r = .ok a) ∨ ∃ f, r = .error f ∧ f.family? = some .argument

/-- The reader answers unless one of two other faults leaves it, each under its own condition. -/
structure Ends {α : Type} (r : Except Fault α) (overflows unusable : Prop) : Prop where
  answers : Answers r ↔ ¬overflows ∧ ¬unusable
  overflow : r = .error .overflow ↔ overflows
  unusable : r = .error .badValue ↔ unusable

section

variable {α : Type}

theorem Ends.congr {r : Except Fault α} {overflows unusable overflows' unusable' : Prop}
    (h : Ends r overflows unusable) (hOverflow : overflows ↔ overflows')
    (hUnusable : unusable ↔ unusable') : Ends r overflows' unusable' := by
  rwa [← propext hOverflow, ← propext hUnusable]

theorem ends_ok (a : α) : Ends (.ok a : Except Fault α) False False where
  answers := by simp [Answers]
  overflow := by simp
  unusable := by simp

theorem ends_fail {f : Fault} (hFamily : f.family? = some .argument) :
    Ends (fail f : Except Fault α) False (f.writable = false) := by
  rw [fail_eq_error, Fault.raised]
  cases hWritable : f.writable with
  | true =>
    have hOverflow : f ≠ .overflow := by rintro rfl; cases hFamily
    have hBad : f ≠ .badValue := by rintro rfl; cases hFamily
    exact ⟨by simp [Answers, hFamily], by simp [hOverflow], by simp [hBad]⟩
  | false => exact ⟨by simp [Answers, Fault.family?], by simp, by simp⟩

theorem ends_orFault {f : Fault} (hFamily : f.family? = some .argument) (r : Except Fault α) :
    Ends (orFault f r) False ((∃ e, r = .error e) ∧ f.writable = false) := by
  cases r with
  | ok a => exact (ends_ok a).congr Iff.rfl (by simp)
  | error e => exact (ends_fail hFamily).congr Iff.rfl (by simp)

theorem ends_orFaultInRange {f : Fault} (hFamily : f.family? = some .argument)
    (r : Except Fault α) :
    Ends (orFaultInRange f r) (r = .error .overflow)
      ((∃ e, r = .error e ∧ e ≠ .overflow) ∧ f.writable = false) := by
  cases r with
  | ok a => exact (ends_ok a).congr (by simp) (by simp)
  | error e =>
    by_cases hOverflow : e = .overflow
    · subst hOverflow
      exact ⟨by simp [Answers, orFaultInRange, Fault.family?], by simp [orFaultInRange],
        by simp [orFaultInRange]⟩
    · have hFail : orFaultInRange f (.error e : Except Fault α) = fail f := by
        cases e <;> first | rfl | exact absurd rfl hOverflow
      rw [hFail]
      exact (ends_fail hFamily).congr (by simp [hOverflow]) (by simp [hOverflow])

theorem ends_require (es : Entries) (key : String) {read : Value → Except Fault α}
    {overflows unusable : Value → Prop} (h : ∀ v, Ends (read v) (overflows v) (unusable v)) :
    Ends ((Value.dict es).require key >>= read) (∃ v, es.get? key = some v ∧ overflows v)
      (∃ v, es.get? key = some v ∧ unusable v) := by
  rw [Value.require_dict]
  cases hGet : es.get? key with
  | some v => exact (h v).congr (by simp) (by simp)
  | none =>
    rw [fail_bind]
    exact (ends_fail rfl).congr (by simp) (by simp [Fault.writable, Fault.shown])

end

/-- An infinite float with nothing but integers before it. -/
inductive InfiniteFirst : List (Option Value) → Prop where
  | here {x : Float} {rest : List (Option Value)} (hInf : x.isInf = true) :
      InfiniteFirst (some (.float x) :: rest)
  | later {v : Value} {n : Int} {rest : List (Option Value)} (hInt : v.toInt = .ok n)
      (h : InfiniteFirst rest) : InfiniteFirst (some v :: rest)

def readEntry : Option Value → Except Fault Int
  | some v => v.toInt
  | none => .error .missingKey

theorem readEntry_bind_overflow_iff {α : Type} (entry : Option Value) {rest : List (Option Value)}
    {read : Int → Except Fault α} (h : ∀ n, read n = .error .overflow ↔ InfiniteFirst rest) :
    (readEntry entry >>= read) = .error .overflow ↔ InfiniteFirst (entry :: rest) := by
  rw [bind_eq_error_iff]
  constructor
  · rintro (hEntry | ⟨n, hEntry, hRead⟩)
    · cases entry with
      | none => cases hEntry
      | some v =>
        obtain ⟨x, rfl, hx⟩ := Value.toInt_eq_overflow_iff.mp hEntry
        exact .here hx
    · cases entry with
      | none => cases hEntry
      | some v => exact .later hEntry ((h n).mp hRead)
  · intro hFirst
    cases hFirst with
    | here hInf => exact .inl (Value.toInt_eq_overflow_iff.mpr ⟨_, rfl, hInf⟩)
    | later hInt hRest => exact .inr ⟨_, hInt, (h _).mpr hRest⟩

theorem pure_overflow_iff {α : Type} (a : α) :
    (pure a : Except Fault α) = .error .overflow ↔ InfiniteFirst [] :=
  ⟨nofun, nofun⟩

theorem intField_eq {v : Value} {es : Entries} (h : v.opened = .dict es) (key : String) :
    v.intField key = readEntry (es.get? key) := by
  rw [Value.intField, Value.field, h]
  dsimp only
  cases es.get? key <;> rfl

theorem fieldPoint_overflow_iff {v : Value} {es : Entries} (h : v.opened = .dict es) :
    fieldPoint v = .error .overflow ↔ InfiniteFirst (["x", "y"].map es.get?) := by
  rw [fieldPoint, intField_eq h, intField_eq h]
  exact readEntry_bind_overflow_iff _ fun x => readEntry_bind_overflow_iff _ fun y =>
    pure_overflow_iff _

theorem ofValue_overflow_iff {v : Value} {es : Entries} (h : v.opened = .dict es) :
    Bounds.ofValue v = .error .overflow ↔
      InfiniteFirst (["x", "y", "width", "height"].map es.get?) := by
  rw [Bounds.ofValue, intField_eq h, intField_eq h, intField_eq h, intField_eq h]
  exact readEntry_bind_overflow_iff _ fun x => readEntry_bind_overflow_iff _ fun y =>
    readEntry_bind_overflow_iff _ fun w => readEntry_bind_overflow_iff _ fun h =>
      pure_overflow_iff _

theorem elements_ne_overflow (v : Value) : v.elements ≠ .error .overflow := by
  unfold Value.elements
  split <;> exact nofun

theorem pairPoint_overflow_iff (v : Value) :
    pairPoint v = .error .overflow ↔
      ∃ x y, v.elements = .ok [x, y] ∧ InfiniteFirst [some x, some y] := by
  have hPair (x y : Value) : (do return (⟨← x.toInt, ← y.toInt⟩ : Point)) =
      Except.error Fault.overflow ↔ InfiniteFirst [some x, some y] :=
    readEntry_bind_overflow_iff (some x) fun _ =>
      readEntry_bind_overflow_iff (some y) fun _ => pure_overflow_iff _
  rw [pairPoint, bind_eq_error_iff]
  constructor
  · rintro (hItems | ⟨items, hItems, hRead⟩)
    · exact absurd hItems (elements_ne_overflow v)
    · split at hRead
      · rename_i x y
        exact ⟨x, y, hItems, (hPair x y).mp hRead⟩
      · cases hRead
  · rintro ⟨x, y, hItems, hFirst⟩
    exact .inr ⟨_, hItems, (hPair x y).mpr hFirst⟩

/-- How a point is read from a value of each kind. -/
def readPoint (v : Value) : Except Fault Point :=
  match v.opened with
  | .point p => .ok p
  | .dict _ => fieldPoint v
  | _ => pairPoint v

theorem asPoint_eq (key : String) (v : Value) :
    asPoint key v = orFaultInRange (.notPoint key v) (readPoint v) := by
  unfold asPoint readPoint
  generalize v.opened = w
  cases w <;> rfl

/-- The coordinates of a value that may be read as a point. -/
def coordinates (v : Value) : List (Option Value) :=
  match v.opened with
  | .point _ => []
  | .dict es => ["x", "y"].map (Entries.get? es)
  | _ =>
    match v.elements with
    | .ok [x, y] => [some x, some y]
    | _ => []

theorem readPoint_overflow_iff (v : Value) :
    readPoint v = .error .overflow ↔ InfiniteFirst (coordinates v) := by
  unfold readPoint coordinates
  split
  · exact ⟨nofun, nofun⟩
  · rename_i es hOpened
    exact fieldPoint_overflow_iff hOpened
  · rw [pairPoint_overflow_iff]
    split
    · rename_i x y hItems
      rw [hItems]
      constructor
      · rintro ⟨_, _, hEq, hFirst⟩
        cases hEq
        exact hFirst
      · exact fun hFirst => ⟨x, y, rfl, hFirst⟩
    · rename_i hNone
      exact ⟨fun ⟨x, y, hItems, _⟩ => absurd hItems (hNone x y), nofun⟩

/-- A rectangle in a text with a number of too many digits. -/
def HasLongNumeral (s : String) : Prop :=
  ∃ ns, Bounds.numerals? s.toList = some ns ∧ ∃ n ∈ ns, maxDigits < n.digits.length

theorem length_numerals {cs : List Char} {ns : List Numeral} (h : Bounds.numerals? cs = some ns) :
    ∃ x1 y1 x2 y2, ns = [x1, y1, x2, y2] := by
  obtain ⟨⟨x1, y1, rest⟩, _, h⟩ := Option.bind_eq_some_iff.mp h
  obtain ⟨⟨x2, y2, rest⟩, _, h⟩ := Option.bind_eq_some_iff.mp h
  change (if rest.isEmpty then some [x1, y1, x2, y2] else none) = some ns at h
  split at h
  · cases h
    exact ⟨x1, y1, x2, y2, rfl⟩
  · cases h

theorem ends_parse (s : String) : Ends (Bounds.parse s) False (HasLongNumeral s) := by
  cases hNumerals : Bounds.numerals? s.toList with
  | none =>
    have hFail : Bounds.parse s = fail (.boundsText (.text s)) := by rw [Bounds.parse, hNumerals]
    rw [hFail]
    exact (ends_fail rfl).congr Iff.rfl
      (by simp [HasLongNumeral, hNumerals, Fault.writable, Fault.shown, Value.writable])
  | some ns =>
    obtain ⟨x1, y1, x2, y2, rfl⟩ := length_numerals hNumerals
    rw [Bounds.parse, hNumerals]
    dsimp only
    by_cases hShort : [x1, y1, x2, y2].all (·.digits.length ≤ maxDigits) = true
    · rw [if_pos hShort]
      refine (ends_ok _).congr Iff.rfl ⟨False.elim, ?_⟩
      rintro ⟨ns, hSome, n, hn, hLong⟩
      cases hNumerals.symm.trans hSome
      have hLe := List.all_eq_true.mp hShort n hn
      rw [decide_eq_true_eq] at hLe
      omega
    · rw [if_neg hShort]
      have hLong : HasLongNumeral s := by
        rw [Bool.not_eq_true, List.all_eq_false] at hShort
        obtain ⟨n, hn, hLong⟩ := hShort
        rw [decide_eq_true_eq, Nat.not_le] at hLong
        exact ⟨_, hNumerals, n, hn, hLong⟩
      exact ⟨by simp [Answers, Fault.family?, hLong], by simp, by simp [hLong]⟩

/-- The fields of a value that may be read as a rectangle. -/
def sides (v : Value) : List (Option Value) :=
  match v.opened with
  | .dict es => ["x", "y", "width", "height"].map (Entries.get? es)
  | _ => []

/-- The rectangle's text has a number of too many digits, or the value is no rectangle and its own
text has one. -/
def UnusableBounds (v : Value) : Prop :=
  match v.opened with
  | .bounds _ => False
  | .text s => HasLongNumeral s
  | .dict _ => (∃ e, Bounds.ofValue v = .error e ∧ e ≠ .overflow) ∧ v.writable = false
  | _ => v.writable = false

theorem writable_single {f : Fault} {v : Value} (h : f.shown = [v]) : f.writable = v.writable := by
  rw [Fault.writable, h, List.all_cons, List.all_nil, Bool.and_true]

theorem ends_asPoint (key : String) (v : Value) :
    Ends (asPoint key v) (InfiniteFirst (coordinates v))
      ((∃ e, readPoint v = .error e ∧ e ≠ .overflow) ∧ v.writable = false) := by
  rw [asPoint_eq]
  refine (ends_orFaultInRange rfl _).congr (readPoint_overflow_iff v) ?_
  rw [writable_single (v := v) rfl]

theorem ends_asBounds (key : String) (v : Value) :
    Ends (asBounds key v) (InfiniteFirst (sides v)) (UnusableBounds v) := by
  have hNone : InfiniteFirst [] ↔ False := ⟨nofun, False.elim⟩
  have hUnusable : Ends (fail (.notBounds key v) : Except Fault Bounds) (InfiniteFirst [])
      (v.writable = false) :=
    (ends_fail rfl).congr hNone.symm (by rw [writable_single (v := v) rfl])
  cases hOpened : v.opened with
  | bounds b =>
    simp only [asBounds, sides, UnusableBounds, hOpened]
    exact (ends_ok b).congr hNone.symm Iff.rfl
  | text s =>
    simp only [asBounds, sides, UnusableBounds, hOpened]
    exact (ends_parse s).congr hNone.symm Iff.rfl
  | dict es =>
    simp only [asBounds, sides, UnusableBounds, hOpened]
    refine (ends_orFaultInRange rfl _).congr (ofValue_overflow_iff hOpened) ?_
    rw [writable_single (v := v) rfl]
  | _ =>
    simp only [asBounds, sides, UnusableBounds, hOpened]
    exact hUnusable

theorem ends_int (es : Entries) (key : String) (default : Value) :
    Ends (int (.dict es) key default) False
      (∃ v, valueOr (.dict es) key default = .ok v ∧
        (∃ e, v.toInt = .error e) ∧ v.writable = false) := by
  have hRead (v : Value) : Ends (orFault (.notNumber key v) v.toInt) False
      ((∃ e, v.toInt = .error e) ∧ v.writable = false) := by
    refine (ends_orFault rfl _).congr Iff.rfl ?_
    rw [writable_single (v := v) rfl]
  have hValue : (∃ v, valueOr (.dict es) key default = .ok v) ∨
      valueOr (.dict es) key default = fail (.missingParameter key) := by
    cases default with
    | null =>
      change (∃ v, (Value.dict es).require key = .ok v) ∨
        (Value.dict es).require key = fail (.missingParameter key)
      rw [Value.require_dict]
      cases Entries.get? es key with
      | some v => exact .inl ⟨v, rfl⟩
      | none => exact .inr rfl
    | _ => exact .inl ⟨_, rfl⟩
  unfold int
  rcases hValue with ⟨v, hv⟩ | hMissing
  · rw [hv, ok_bind]
    exact (hRead v).congr Iff.rfl (by simp)
  · rw [hMissing, fail_bind]
    exact (ends_fail rfl).congr Iff.rfl (by simp [Fault.writable, Fault.shown])

/-- A reader of numbers, points or rectangles answers unless an infinite coordinate comes first, or
a number with too many digits stands where it would be read or shown. -/
theorem readers_end (es : Entries) (key : String) :
    (∀ default, Ends (int (.dict es) key default) False
      (∃ v, valueOr (.dict es) key default = .ok v ∧
        (∃ e, v.toInt = .error e) ∧ v.writable = false)) ∧
    Ends (float (.dict es) key) False
      (∃ v, es.get? key = some v ∧ (∃ e, v.toFloat = .error e) ∧ v.writable = false) ∧
    Ends (point (.dict es) key) (∃ v, es.get? key = some v ∧ InfiniteFirst (coordinates v))
      (∃ v, es.get? key = some v ∧
        (∃ e, readPoint v = .error e ∧ e ≠ .overflow) ∧ v.writable = false) ∧
    Ends (bounds (.dict es) key) (∃ v, es.get? key = some v ∧ InfiniteFirst (sides v))
      (∃ v, es.get? key = some v ∧ UnusableBounds v) := by
  refine ⟨ends_int es key, ?_, ends_require es key (ends_asPoint key),
    ends_require es key (ends_asBounds key)⟩
  have hRead (v : Value) : Ends (orFault (.notNumber key v) v.toFloat) False
      ((∃ e, v.toFloat = .error e) ∧ v.writable = false) := by
    refine (ends_orFault rfl _).congr Iff.rfl ?_
    rw [writable_single (v := v) rfl]
  exact (ends_require es key hRead).congr (by simp) Iff.rfl

/-- An infinite coordinate leaves the reader of points as a number out of range. -/
theorem point_infinite_not_answers :
    ¬ Answers (point (.dict [(.text "point", .list [.float (1.0 / 0.0), .int 0])]) "point") := by
  have hInf : (1.0 / 0.0 : Float).isInf = true := by decide +kernel
  have hEnds := ends_require [(.text "point", .list [.float (1.0 / 0.0), .int 0])] "point"
    (ends_asPoint "point")
  exact fun h => (hEnds.answers.mp h).1 ⟨_, rfl, .here hInf⟩

end Param
end TouchPath
