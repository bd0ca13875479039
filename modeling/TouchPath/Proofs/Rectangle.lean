import TouchPath.Proofs.Spelling
import TouchPath.Value.Access

/-! # Texts of rectangles read and written

The reader accepts a text exactly when it spells four numbers corner by corner, with nothing around
them (`Bounds.parse_eq_ok_iff`). A rectangle is written by the canonical spellings of its corners,
so it is read back as it is, and an accepted text is written again in its canonical form
(`Bounds.write_parse`).
-/
namespace TouchPath
set_option autoImplicit false

theorem after?_eq_some_iff {c : Char} {cs rest : List Char} :
    after? c cs = some rest ↔ cs = c :: rest := by
  cases cs with
  | nil => simp [after?]
  | cons d cs => simp [after?]

theorem forall_mem_four {α : Type} {P : α → Prop} {a b c d : α} :
    (∀ x ∈ [a, b, c, d], P x) ↔ P a ∧ P b ∧ P c ∧ P d := by
  simp

/-- Four numbers as a rectangle's text spells them. -/
structure SpelledBounds where
  x1 : Spelling
  y1 : Spelling
  x2 : Spelling
  y2 : Spelling

namespace SpelledBounds

/-- A corner, and what comes behind it. -/
def cornerChars (x y : Spelling) (rest : List Char) : List Char :=
  '[' :: (x.chars ++ ',' :: (y.chars ++ ']' :: rest))

def chars (r : SpelledBounds) : List Char := cornerChars r.x1 r.y1 (cornerChars r.x2 r.y2 [])

def spellings (r : SpelledBounds) : List Spelling := [r.x1, r.y1, r.x2, r.y2]

def bounds (r : SpelledBounds) : Bounds :=
  ⟨⟨r.x1.value, r.y1.value⟩, r.x2.value - r.x1.value, r.y2.value - r.y1.value⟩

def canonical (r : SpelledBounds) : SpelledBounds :=
  ⟨r.x1.canonical, r.y1.canonical, r.x2.canonical, r.y2.canonical⟩

def IsShort (r : SpelledBounds) : Prop := ∀ n ∈ r.spellings, n.digits.length ≤ maxDigits

/-- The corners of a rectangle as they are written. -/
def ofBounds (b : Bounds) : SpelledBounds :=
  ⟨.ofInt b.upperLeft.x, .ofInt b.upperLeft.y, .ofInt b.lowerRight.x, .ofInt b.lowerRight.y⟩

theorem bounds_eq (r : SpelledBounds) :
    r.bounds = .ofCorners ⟨r.x1.value, r.y1.value⟩ ⟨r.x2.value, r.y2.value⟩ := rfl

theorem bounds_ofBounds (b : Bounds) : (ofBounds b).bounds = b := by
  rw [bounds_eq, ofBounds]
  simp only [Spelling.value_ofInt]
  exact Bounds.ofCorners_self b

theorem canonical_eq_ofBounds (r : SpelledBounds) : r.canonical = ofBounds r.bounds := by
  rw [ofBounds, bounds_eq, Bounds.ofCorners_upperLeft, Bounds.ofCorners_lowerRight, canonical]
  simp only [Spelling.canonical_eq_ofInt]

theorem chars_ofBounds (b : Bounds) : (ofBounds b).chars = b.text.toList := by
  rw [Bounds.text, String.toList_ofList, Bounds.textChars, chars]
  simp only [ofBounds, cornerChars, Spelling.chars_ofInt, List.cons_append, List.append_assoc,
    List.nil_append]

end SpelledBounds

namespace Bounds

open SpelledBounds

theorem takeCorner?_eq_some_iff {cs rest : List Char} {m n : Numeral} :
    takeCorner? cs = some (m, n, rest) ↔
      ∃ x y : Spelling, cs = cornerChars x y rest ∧ m = x.numeral ∧ n = y.numeral := by
  constructor
  · intro h
    obtain ⟨afterOpening, hOpening, h⟩ := Option.bind_eq_some_iff.mp h
    obtain ⟨⟨_, afterX⟩, hFirst, h⟩ := Option.bind_eq_some_iff.mp h
    obtain ⟨afterComma, hComma, h⟩ := Option.bind_eq_some_iff.mp h
    obtain ⟨⟨_, afterY⟩, hSecond, h⟩ := Option.bind_eq_some_iff.mp h
    obtain ⟨afterClosing, hClosing, h⟩ := Option.bind_eq_some_iff.mp h
    cases h
    obtain ⟨x, hX, _, rfl⟩ := Spelling.take?_eq_some_iff.mp hFirst
    obtain ⟨y, hY, _, rfl⟩ := Spelling.take?_eq_some_iff.mp hSecond
    refine ⟨x, y, ?_, rfl, rfl⟩
    rw [after?_eq_some_iff.mp hOpening, hX, after?_eq_some_iff.mp hComma, hY,
      after?_eq_some_iff.mp hClosing, cornerChars]
  · rintro ⟨x, y, rfl, rfl, rfl⟩
    have hAfter (c : Char) (rest : List Char) : after? c (c :: rest) = some rest :=
      after?_eq_some_iff.mpr rfl
    have hTake {c : Char} (hc : c.isDigit = false) (n : Spelling) (rest : List Char) :
        Numeral.take? (n.chars ++ c :: rest) = some (n.numeral, c :: rest) :=
      Spelling.take?_eq_some_iff.mpr ⟨n, rfl, Spelling.stops_cons hc, rfl⟩
    have hComma := @hTake ',' (by decide)
    have hClosing := @hTake ']' (by decide)
    simp only [takeCorner?, cornerChars, hAfter, hComma, hClosing, Option.bind_eq_bind,
      Option.bind_some, Option.pure_def]

theorem numerals?_eq_some_iff {cs : List Char} {ns : List Numeral} :
    numerals? cs = some ns ↔
      ∃ r : SpelledBounds, cs = r.chars ∧ ns = r.spellings.map Spelling.numeral := by
  constructor
  · intro h
    obtain ⟨⟨_, _, behind⟩, hFirst, h⟩ := Option.bind_eq_some_iff.mp h
    obtain ⟨⟨_, _, rest⟩, hSecond, h⟩ := Option.bind_eq_some_iff.mp h
    obtain ⟨x1, y1, hCs, rfl, rfl⟩ := takeCorner?_eq_some_iff.mp hFirst
    obtain ⟨x2, y2, hBehind, rfl, rfl⟩ := takeCorner?_eq_some_iff.mp hSecond
    obtain ⟨hEmpty, hNumerals⟩ := Option.ite_none_right_eq_some.mp h
    rw [List.isEmpty_iff.mp hEmpty] at hBehind
    cases hNumerals
    refine ⟨⟨x1, y1, x2, y2⟩, ?_, rfl⟩
    rw [hCs, hBehind, chars]
  · rintro ⟨r, rfl, rfl⟩
    exact Option.bind_eq_some_iff.mpr ⟨_, takeCorner?_eq_some_iff.mpr ⟨r.x1, r.y1, rfl, rfl, rfl⟩,
      Option.bind_eq_some_iff.mpr ⟨_, takeCorner?_eq_some_iff.mpr ⟨r.x2, r.y2, rfl, rfl, rfl⟩, rfl⟩⟩

theorem parse_of_chars {s : String} {r : SpelledBounds} (h : s.toList = r.chars) :
    (r.IsShort → parse s = .ok r.bounds) ∧ (¬ r.IsShort → parse s = .error .badValue) := by
  have hNumerals := numerals?_eq_some_iff.mpr ⟨r, h, rfl⟩
  have hShort : (r.spellings.map Spelling.numeral).all (·.digits.length ≤ maxDigits) = true ↔
      r.IsShort := by
    simp only [List.all_map, List.all_eq_true, Function.comp_apply, decide_eq_true_eq,
      Spelling.length_digits_numeral, IsShort]
  have hValues : ofCorners ⟨r.x1.numeral.value, r.y1.numeral.value⟩
      ⟨r.x2.numeral.value, r.y2.numeral.value⟩ = r.bounds := by
    simp only [Spelling.value_numeral, bounds_eq]
  constructor
  · intro hr
    rw [parse, hNumerals, ← hValues]
    exact if_pos (hShort.mpr hr)
  · intro hr
    rw [parse, hNumerals]
    exact if_neg (mt hShort.mp hr)

theorem parse_of_not_chars {s : String} (h : ¬ ∃ r : SpelledBounds, s.toList = r.chars) :
    parse s = .error (.boundsText (.text s)) := by
  cases hNumerals : numerals? s.toList with
  | none => rw [parse, hNumerals]; rfl
  | some ns =>
    obtain ⟨r, hChars, _⟩ := numerals?_eq_some_iff.mp hNumerals
    exact absurd ⟨r, hChars⟩ h

theorem parse_eq_ok_iff {s : String} {b : Bounds} :
    parse s = .ok b ↔ ∃ r : SpelledBounds, s.toList = r.chars ∧ r.IsShort ∧ b = r.bounds := by
  constructor
  · intro h
    by_cases hChars : ∃ r : SpelledBounds, s.toList = r.chars
    · obtain ⟨r, hChars⟩ := hChars
      obtain ⟨hOk, hLong⟩ := parse_of_chars hChars
      by_cases hShort : r.IsShort
      · cases h.symm.trans (hOk hShort)
        exact ⟨r, hChars, hShort, rfl⟩
      · cases h.symm.trans (hLong hShort)
    · cases h.symm.trans (parse_of_not_chars hChars)
  · rintro ⟨r, hChars, hShort, rfl⟩
    exact (parse_of_chars hChars).1 hShort

/-- Digits that stand next to each other are at most as many as can be read. -/
def ShortRuns (cs : List Char) : Prop :=
  ∀ run, run <:+: cs → (∀ c ∈ run, c.isDigit = true) → run.length ≤ maxDigits

theorem isShort_of_shortRuns {r : SpelledBounds} (h : ShortRuns r.chars) : r.IsShort := by
  have hCorner (x y : Spelling) (rest : List Char) :
      x.digits <:+: cornerChars x y rest ∧ y.digits <:+: cornerChars x y rest ∧
        rest <:+ cornerChars x y rest := by
    refine ⟨⟨'[' :: x.sign.chars, ',' :: (y.chars ++ ']' :: rest), ?_⟩,
      ⟨'[' :: (x.chars ++ ',' :: y.sign.chars), ']' :: rest, ?_⟩,
      ⟨'[' :: (x.chars ++ ',' :: (y.chars ++ [']'])), ?_⟩⟩ <;>
      simp only [cornerChars, Spelling.chars, List.cons_append, List.append_assoc, List.nil_append]
  obtain ⟨hX1, hY1, hRest⟩ := hCorner r.x1 r.y1 (cornerChars r.x2 r.y2 [])
  obtain ⟨hX2, hY2, _⟩ := hCorner r.x2 r.y2 []
  have hEach : ∀ n ∈ r.spellings, n.digits <:+: r.chars := by
    rw [spellings, forall_mem_four]
    exact ⟨hX1, hY1, hX2.trans hRest.isInfix, hY2.trans hRest.isInfix⟩
  exact fun n hn => h n.digits (hEach n hn) n.isDigit

theorem parseValue_recognises :
    (∀ s : String, ShortRuns s.toList →
      ((∃ b, parseValue (.text s) = .ok b) ↔ ∃ r : SpelledBounds, s.toList = r.chars) ∧
      (∀ r : SpelledBounds, s.toList = r.chars → parseValue (.text s) =
        .ok ⟨⟨r.x1.value, r.y1.value⟩, r.x2.value - r.x1.value, r.y2.value - r.y1.value⟩) ∧
      ((¬ ∃ r : SpelledBounds, s.toList = r.chars) →
        parseValue (.text s) = .error (.boundsText (.text s)))) ∧
    (∀ v : Value, (∀ s, v ≠ .text s) → v.displayed.all Value.writable = true →
      parseValue v = .error (.boundsText v)) ∧
    ∀ v, (Fault.boundsText v).family? = some .argument := by
  refine ⟨fun s hRuns => ?_, fun v hText hWritable => ?_, fun _ => rfl⟩
  · have hRead : ∀ r : SpelledBounds, s.toList = r.chars → parseValue (.text s) = .ok r.bounds := by
      intro r hChars
      rw [hChars] at hRuns
      exact (parse_of_chars hChars).1 (isShort_of_shortRuns hRuns)
    refine ⟨⟨?_, fun ⟨r, hChars⟩ => ⟨_, hRead r hChars⟩⟩, hRead, parse_of_not_chars⟩
    rintro ⟨b, hb⟩
    obtain ⟨r, hChars, _⟩ := parse_eq_ok_iff.mp hb
    exact ⟨r, hChars⟩
  · have hFault : parseValue v = fail (.boundsText v) := by
      cases v with
      | text s => exact absurd rfl (hText s)
      | _ => rfl
    have hShown : (Fault.boundsText v).writable = true := hWritable
    rw [hFault, fail, Fault.raised_eq_self hShown]

theorem parseValue_recognises_swapped :
    ∃ r : SpelledBounds, "[+01,-2][-0,30]".toList = r.chars ∧
      parseValue (.text "[+01,-2][-0,30]") = .ok ⟨⟨1, -2⟩, -1, 32⟩ ∧
      parseValue (.text "[1,2][3,4]\n") = .error (.boundsText (.text "[1,2][3,4]\n")) ∧
      parseValue (.list [.text "[1,2][3,4]"]) =
        .error (.boundsText (.list [.text "[1,2][3,4]"])) := by
  obtain ⟨hTexts, hOthers, _⟩ := parseValue_recognises
  have hRuns (s : String) (h : s.toList.length ≤ maxDigits) : ShortRuns s.toList :=
    fun _ hRun _ => hRun.length_le.trans h
  have hBehind : ¬ ∃ r : SpelledBounds, "[1,2][3,4]\n".toList = r.chars := by
    rintro ⟨r, hChars⟩
    have hNone : numerals? "[1,2][3,4]\n".toList = none := by decide
    cases hNone.symm.trans (numerals?_eq_some_iff.mpr ⟨r, hChars, rfl⟩)
  have hChars : "[+01,-2][-0,30]".toList = SpelledBounds.chars
      ⟨⟨.plus, ['0', '1'], List.cons_ne_nil _ _, List.all_eq_true.mp rfl⟩,
        ⟨.minus, ['2'], List.cons_ne_nil _ _, List.all_eq_true.mp rfl⟩,
        ⟨.minus, ['0'], List.cons_ne_nil _ _, List.all_eq_true.mp rfl⟩,
        ⟨.none, ['3', '0'], List.cons_ne_nil _ _, List.all_eq_true.mp rfl⟩⟩ := rfl
  refine ⟨_, hChars, ?_, ?_, hOthers _ nofun rfl⟩
  · exact (hTexts _ (hRuns "[+01,-2][-0,30]" (by decide))).2.1 _ hChars
  · exact (hTexts _ (hRuns "[1,2][3,4]\n" (by decide))).2.2 hBehind

def HasShortCorners (b : Bounds) : Prop :=
  ∀ z ∈ [b.upperLeft.x, b.upperLeft.y, b.lowerRight.x, b.lowerRight.y],
    (Nat.toDigits 10 z.natAbs).length ≤ maxDigits

theorem isShort_ofBounds {b : Bounds} : (ofBounds b).IsShort ↔ b.HasShortCorners := by
  rw [IsShort, HasShortCorners, spellings, forall_mem_four, forall_mem_four]
  rfl

theorem write_eq_ok {b : Bounds} (h : b.HasShortCorners) : b.write = .ok b.text := by
  have hWritable : (Value.bounds b).displayed.all Value.writable = true := by
    obtain ⟨hX1, hY1, hX2, hY2⟩ := forall_mem_four.mp h
    simp only [Value.displayed, Value.writable, List.all_cons, List.all_nil, Bool.and_true,
      Bool.and_eq_true, decide_eq_true_eq, ← Spelling.length_ofInt_le_iff]
    exact ⟨⟨hX1, hY1⟩, hX2, hY2⟩
  rw [write, writeValue, if_pos hWritable]
  rfl

theorem hasShortCorners_of_isShort {r : SpelledBounds} (h : r.IsShort) :
    r.bounds.HasShortCorners := by
  rw [← isShort_ofBounds, ← canonical_eq_ofBounds]
  have hLe (n : Spelling) : n.canonical.digits.length ≤ n.digits.length :=
    Spelling.length_significant_le n.digits_ne_nil
  obtain ⟨hX1, hY1, hX2, hY2⟩ := forall_mem_four.mp h
  exact forall_mem_four.mpr
    ⟨(hLe _).trans hX1, (hLe _).trans hY1, (hLe _).trans hX2, (hLe _).trans hY2⟩

theorem parse_text {b : Bounds} (h : b.HasShortCorners) : parse b.text = .ok b :=
  parse_eq_ok_iff.mpr
    ⟨ofBounds b, (chars_ofBounds b).symm, isShort_ofBounds.mpr h, (bounds_ofBounds b).symm⟩

/-- A rectangle is read back from both its forms, and a text from which one is read is written again
in its canonical form. -/
theorem write_parse :
    (∀ b : Bounds, b.HasShortCorners →
      (∃ s, b.write = .ok s ∧ parse s = .ok b) ∧ ofValue b.toValue = .ok b) ∧
    (∀ b c : Bounds, b.HasShortCorners → c.HasShortCorners → b.write = c.write → b = c) ∧
    ∀ (s : String) (b : Bounds), parse s = .ok b → ∃ r : SpelledBounds, s.toList = r.chars ∧
      b.write = .ok (String.ofList r.canonical.chars) ∧
      parse (String.ofList r.canonical.chars) = .ok b := by
  refine ⟨fun b h => ⟨⟨b.text, write_eq_ok h, parse_text h⟩, rfl⟩, ?_, ?_⟩
  · intro b c hb hc hWrite
    rw [write_eq_ok hb, write_eq_ok hc] at hWrite
    have hText := Except.ok.inj hWrite
    have hParse := parse_text hb
    rw [hText, parse_text hc] at hParse
    exact (Except.ok.inj hParse).symm
  · intro s b h
    obtain ⟨r, hChars, hShort, rfl⟩ := parse_eq_ok_iff.mp h
    have hCorners := hasShortCorners_of_isShort hShort
    have hCanonical : String.ofList r.canonical.chars = r.bounds.text := by
      rw [canonical_eq_ofBounds, chars_ofBounds, String.ofList_toList]
    refine ⟨r, hChars, ?_, ?_⟩
    · rw [hCanonical]
      exact write_eq_ok hCorners
    · rw [hCanonical]
      exact parse_text hCorners

theorem write_parse_swapped :
    ∃ b s r, b = Bounds.mk ⟨5, -3⟩ (-7) 10 ∧ b.HasShortCorners ∧ b.write = .ok s ∧
      parse s = .ok b ∧ parse "[+05,-03][-2,7]" = .ok b ∧
      "[+05,-03][-2,7]".toList = SpelledBounds.chars r ∧
      s = String.ofList r.canonical.chars := by
  have hShort : (Bounds.mk ⟨5, -3⟩ (-7) 10).HasShortCorners := by
    rw [HasShortCorners, forall_mem_four]
    decide
  have hParse : parse "[+05,-03][-2,7]" = .ok ⟨⟨5, -3⟩, -7, 10⟩ := rfl
  obtain ⟨hBack, _, hCanonical⟩ := write_parse
  obtain ⟨⟨s, hWrite, hRead⟩, _⟩ := hBack _ hShort
  obtain ⟨r, hChars, hWritten, _⟩ := hCanonical _ _ hParse
  exact ⟨_, s, r, rfl, hShort, hWrite, hRead, hParse, hChars,
    Except.ok.inj (hWrite.symm.trans hWritten)⟩

end Bounds
end TouchPath
