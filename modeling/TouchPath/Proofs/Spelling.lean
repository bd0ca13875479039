import Mathlib.Data.List.Induction
import Mathlib.Data.List.TakeWhile
import TouchPath.Geometry.Text

/-! # Spellings of numbers

A number is spelled by at most one sign and ASCII digits, at least one. The reader takes exactly
these spellings, as far as digits go (`Spelling.take?_eq_some_iff`). Among the spellings of one
value the canonical one is what the value is written as: it has no plus sign, no zeros in front,
and no sign at all for zero (`Spelling.canonical_eq_ofInt`).
-/
namespace TouchPath
set_option autoImplicit false

theorem toNat_of_isDigit {c : Char} (h : c.isDigit = true) : 48 ≤ c.toNat ∧ c.toNat < 58 := by
  obtain ⟨hLow, hHigh⟩ := Char.isDigit_iff_toNat.mp h
  exact ⟨hLow, Nat.lt_succ_of_le hHigh⟩

theorem digitChar_of_isDigit {c : Char} (h : c.isDigit = true) :
    Nat.digitChar (c.toNat - 48) = c := by
  obtain ⟨hLow, hHigh⟩ := toNat_of_isDigit h
  rw [← Char.toNat_inj, Nat.toNat_digitChar_of_lt_ten (by omega)]
  omega

inductive Sign where
  | none
  | plus
  | minus
  deriving DecidableEq

def Sign.chars : Sign → List Char
  | none => []
  | plus => ['+']
  | minus => ['-']

structure Spelling where
  sign : Sign
  digits : List Char
  digits_ne_nil : digits ≠ []
  isDigit : ∀ c ∈ digits, c.isDigit = true

namespace Spelling

def chars (n : Spelling) : List Char := n.sign.chars ++ n.digits

def magnitude (n : Spelling) : Nat := Nat.ofDigitChars 10 n.digits 0

def value (n : Spelling) : Int :=
  match n.sign with
  | .minus => -(n.magnitude : Int)
  | _ => n.magnitude

/-- How the reader takes a spelling. -/
def numeral (n : Spelling) : Numeral := ⟨n.sign = .minus, n.digits.map (·.toNat - 48)⟩

theorem ofDigits_map (cs : List Char) :
    ofDigits 10 (cs.map (·.toNat - 48)) = Nat.ofDigitChars 10 cs 0 := by
  rw [ofDigits, List.foldl_map, Nat.ofDigitChars_eq_foldl]
  simp only [Nat.mul_comm]
  rfl

theorem value_numeral (n : Spelling) : n.numeral.value = n.value := by
  rw [Numeral.value, numeral, ofDigits_map, applySign, value, magnitude]
  cases n.sign <;> rfl

theorem length_digits_numeral (n : Spelling) : n.numeral.digits.length = n.digits.length :=
  List.length_map _

theorem takeSign_chars (n : Spelling) (rest : List Char) :
    takeSign (n.chars ++ rest) = (decide (n.sign = .minus), n.digits ++ rest) := by
  obtain ⟨sign, digits, hNonempty, hDigits⟩ := n
  cases sign with
  | plus => rfl
  | minus => rfl
  | none =>
    obtain ⟨c, cs, rfl⟩ := List.exists_cons_of_ne_nil hNonempty
    have hDigit := hDigits c List.mem_cons_self
    change takeSign (c :: (cs ++ rest)) = (false, c :: (cs ++ rest))
    unfold takeSign
    split
    · rename_i hMinus
      cases hMinus
      exact absurd hDigit (by decide)
    · rename_i hPlus
      cases hPlus
      exact absurd hDigit (by decide)
    · rfl

theorem exists_sign (cs : List Char) : ∃ sign : Sign,
    cs = sign.chars ++ (takeSign cs).2 ∧ (takeSign cs).1 = decide (sign = .minus) := by
  unfold takeSign
  split
  · exact ⟨.minus, rfl, rfl⟩
  · exact ⟨.plus, rfl, rfl⟩
  · exact ⟨.none, rfl, rfl⟩

def Stops (rest : List Char) : Prop := ∀ c ∈ rest.head?, c.isDigit = false

theorem stops_cons {c : Char} {rest : List Char} (h : c.isDigit = false) : Stops (c :: rest) := by
  intro d hd
  cases hd
  exact h

theorem takeWhile_of_stops {rest : List Char} (h : Stops rest) :
    rest.takeWhile Char.isDigit = [] ∧ rest.dropWhile Char.isDigit = rest := by
  cases rest with
  | nil => exact ⟨rfl, rfl⟩
  | cons c rest =>
    have hNot : ¬ c.isDigit = true := by
      rw [h c rfl]
      exact Bool.false_ne_true
    exact ⟨List.takeWhile_cons_of_neg hNot, List.dropWhile_cons_of_neg hNot⟩

theorem stops_dropWhile (cs : List Char) : Stops (cs.dropWhile Char.isDigit) := by
  intro c hc
  have hHead := List.head?_dropWhile_not Char.isDigit cs
  rw [Option.mem_def.mp hc] at hHead
  exact hHead

theorem take?_eq (cs : List Char) : Numeral.take? cs =
    if ((takeSign cs).2.takeWhile Char.isDigit).isEmpty then none
    else some (⟨(takeSign cs).1, ((takeSign cs).2.takeWhile Char.isDigit).map (·.toNat - 48)⟩,
      (takeSign cs).2.dropWhile Char.isDigit) := rfl

/-- The reader takes a spelling with as many digits as there are. -/
theorem take?_eq_some_iff {cs rest : List Char} {m : Numeral} :
    Numeral.take? cs = some (m, rest) ↔
      ∃ n : Spelling, cs = n.chars ++ rest ∧ Stops rest ∧ m = n.numeral := by
  constructor
  · intro h
    rw [take?_eq] at h
    split at h
    · cases h
    · rename_i hNonempty
      rw [List.isEmpty_iff] at hNonempty
      obtain ⟨sign, hSign, hMinus⟩ := exists_sign cs
      cases h
      refine ⟨⟨sign, _, hNonempty, fun c hc => List.mem_takeWhile_imp hc⟩, ?_,
        stops_dropWhile _, ?_⟩
      · rw [chars, List.append_assoc, List.takeWhile_append_dropWhile]
        exact hSign
      · rw [numeral, ← hMinus]
  · -- what follows has no digit in front, so the digits taken end where the spelling does
    rintro ⟨n, rfl, hStops, rfl⟩
    obtain ⟨hTake, hDrop⟩ := takeWhile_of_stops hStops
    have hNonempty : ¬ n.digits.isEmpty = true := by
      rw [List.isEmpty_iff]
      exact n.digits_ne_nil
    rw [take?_eq, takeSign_chars]
    dsimp only
    rw [List.takeWhile_append_of_pos n.isDigit, List.dropWhile_append_of_pos n.isDigit, hTake,
      hDrop, List.append_nil, if_neg hNonempty, numeral]

/-- Digits without the zeros in front, or a single zero. -/
def significant (ds : List Char) : List Char :=
  match ds.dropWhile (· == '0') with
  | [] => ['0']
  | c :: cs => c :: cs

theorem significant_ne_nil (ds : List Char) : significant ds ≠ [] := by
  unfold significant
  split <;> exact List.cons_ne_nil _ _

theorem isDigit_significant {ds : List Char} (h : ∀ c ∈ ds, c.isDigit = true) :
    ∀ c ∈ significant ds, c.isDigit = true := by
  intro c hc
  unfold significant at hc
  split at hc
  · rw [List.mem_singleton.mp hc]
    rfl
  · rename_i hDrop
    rw [← hDrop] at hc
    exact h c ((List.dropWhile_sublist _).subset hc)

theorem length_significant_le {ds : List Char} (h : ds ≠ []) :
    (significant ds).length ≤ ds.length := by
  unfold significant
  split
  · exact List.length_pos_iff.mpr h
  · rename_i hDrop
    rw [← hDrop]
    exact (List.dropWhile_sublist _).length_le

/-- The canonical spelling of the same value: no plus sign, no zeros in front of another digit, and
no sign of a zero. -/
def canonical (n : Spelling) : Spelling where
  sign := if n.sign = .minus ∧ significant n.digits ≠ ['0'] then .minus else .none
  digits := significant n.digits
  digits_ne_nil := significant_ne_nil n.digits
  isDigit := isDigit_significant n.isDigit

def ofInt (z : Int) : Spelling where
  sign := if z < 0 then .minus else .none
  digits := Nat.toDigits 10 z.natAbs
  digits_ne_nil := Nat.toDigits_ne_nil
  isDigit _ hc := Nat.isDigit_of_mem_toDigits (by decide) (by decide) hc

theorem magnitude_ofInt (z : Int) : (ofInt z).magnitude = z.natAbs := Nat.ofDigitChars_ten_toDigits

theorem value_ofInt (z : Int) : (ofInt z).value = z := by
  rw [value, magnitude_ofInt, ofInt]
  by_cases h : z < 0
  · rw [if_pos h]
    dsimp only
    omega
  · rw [if_neg h]
    dsimp only
    omega

theorem chars_ofInt (z : Int) : (ofInt z).chars = (toString z).toList := by
  rw [chars, ofInt, Int.toString_eq_repr, Int.repr_eq_if]
  by_cases h : z < 0
  · have hMagnitude : (-z).toNat = z.natAbs := by omega
    rw [if_pos h, if_neg (Int.not_le.mpr h), hMagnitude, String.toList_append, Nat.toList_repr]
    rfl
  · have hMagnitude : z.toNat = z.natAbs := by omega
    rw [if_neg h, if_pos (Int.not_lt.mp h), hMagnitude, Nat.toList_repr]
    rfl

theorem ofDigitChars_significant (ds : List Char) :
    Nat.ofDigitChars 10 (significant ds) 0 = Nat.ofDigitChars 10 ds 0 := by
  induction ds with
  | nil => rfl
  | cons c ds ih =>
    by_cases h : c = '0'
    · subst h
      have hSame : significant ('0' :: ds) = significant ds := rfl
      rw [hSame, ih, Nat.ofDigitChars_cons]
      rfl
    · have hSame : significant (c :: ds) = c :: ds := by
        rw [significant, List.dropWhile_cons_of_neg (by rwa [beq_iff_eq])]
      rw [hSame]

theorem toDigits_ofDigitChars {ds : List Char} (hNonempty : ds ≠ [])
    (hDigits : ∀ c ∈ ds, c.isDigit = true) (hLead : ds.head? ≠ some '0') :
    Nat.toDigits 10 (Nat.ofDigitChars 10 ds 0) = ds := by
  -- the last digit is taken off; what is left has no zero in front either, and so is positive
  induction ds using List.reverseRecOn with
  | nil => exact absurd rfl hNonempty
  | append_singleton ds c ih =>
    rw [List.forall_mem_append, List.forall_mem_singleton] at hDigits
    obtain ⟨hFront, hc⟩ := hDigits
    obtain ⟨hLow, hHigh⟩ := toNat_of_isDigit hc
    rw [Nat.ofDigitChars_append, Nat.ofDigitChars_cons, Nat.ofDigitChars_nil]
    change Nat.toDigits 10 (10 * Nat.ofDigitChars 10 ds 0 + (c.toNat - 48)) = ds ++ [c]
    have hLast : Nat.toDigits 10 (c.toNat - 48) = [c] := by
      rw [Nat.toDigits_of_lt_base (by omega), digitChar_of_isDigit hc]
    cases ds with
    | nil => rwa [Nat.ofDigitChars_nil, Nat.mul_zero, Nat.zero_add]
    | cons d ds =>
      have hFrontDigits := ih (List.cons_ne_nil d ds) hFront hLead
      have hPos : 0 < Nat.ofDigitChars 10 (d :: ds) 0 := by
        apply Nat.pos_of_ne_zero
        intro hZero
        rw [hZero, Nat.toDigits_zero] at hFrontDigits
        cases hFrontDigits
        exact hLead rfl
      rw [← Nat.toDigits_append_toDigits (by decide) hPos (by omega), hFrontDigits, hLast]

/-- The digits of a number are those of its value, but for zeros in front. -/
theorem toDigits_magnitude (n : Spelling) : Nat.toDigits 10 n.magnitude = significant n.digits := by
  rw [magnitude, ← ofDigitChars_significant]
  have hDigits := isDigit_significant n.isDigit
  revert hDigits
  unfold significant
  split
  · exact fun _ => Nat.toDigits_zero 10
  · rename_i c cs hDrop
    intro hDigits
    apply toDigits_ofDigitChars (List.cons_ne_nil c cs) hDigits
    intro hLead
    have hNot := List.head?_dropWhile_not (· == '0') n.digits
    rw [hDrop, hLead] at hNot
    cases hNot

theorem magnitude_eq_zero_iff (n : Spelling) :
    n.magnitude = 0 ↔ significant n.digits = ['0'] := by
  rw [← toDigits_magnitude]
  constructor
  · intro h
    rw [h, Nat.toDigits_zero]
  · intro h
    have hValue := congrArg (Nat.ofDigitChars 10 · 0) h
    rwa [Nat.ofDigitChars_ten_toDigits] at hValue

theorem canonical_eq_ofInt (n : Spelling) : n.canonical = ofInt n.value := by
  have hMagnitude : n.value.natAbs = n.magnitude := by
    rw [value]
    cases n.sign <;> simp only [Int.natAbs_neg, Int.natAbs_natCast]
  have hNegative : n.value < 0 ↔ n.sign = .minus ∧ significant n.digits ≠ ['0'] := by
    rw [ne_eq, ← magnitude_eq_zero_iff, value]
    cases n.sign <;> simp only [reduceCtorEq, true_and, false_and, iff_false] <;> omega
  simp only [canonical, ofInt, hMagnitude, toDigits_magnitude, hNegative]

theorem length_ofInt_le_iff (z : Int) :
    (ofInt z).digits.length ≤ maxDigits ↔ z.natAbs < unwritable := by
  have hPos : 0 < maxDigits := by decide
  unfold unwritable
  generalize maxDigits = most at hPos ⊢
  exact Nat.length_toDigits_le_iff (by decide) hPos

end Spelling
end TouchPath
