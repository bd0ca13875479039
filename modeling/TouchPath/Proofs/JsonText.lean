import Mathlib.Data.List.Basic
import Mathlib.Data.List.Forall2
import TouchPath.Json
import TouchPath.Proofs.Spelling

/-! # JSON read back

A value is plain when it is made of integers, texts without anything to escape, lists, mappings
with distinct keys, and floats of some kind. Plain values whose floats are read back from their
texts are read back from what they are written as (`Json.read?_write`): blanks do not matter to the
reader, and a number ends where a blank or a mark of a container follows.
-/
namespace TouchPath
set_option autoImplicit false

namespace Json

/-- A text of characters that are written as they are. -/
def IsPlainText (s : String) : Prop := ∀ c ∈ s.toList, escapeChar c = [c]

instance (s : String) : Decidable (IsPlainText s) :=
  List.decidableBAll (fun c => escapeChar c = [c]) s.toList

end Json

inductive Value.IsPlain (ofKind : Float → Prop) : Value → Prop where
  | int (n : Int) : IsPlain ofKind (.int n)
  | float {x : Float} (h : ofKind x) : IsPlain ofKind (.float x)
  | text {s : String} (h : Json.IsPlainText s) : IsPlain ofKind (.text s)
  | list {items : List Value} (h : ∀ v ∈ items, IsPlain ofKind v) :
      IsPlain ofKind (.list items)
  | dict {fields : List (String × Value)}
      (hKeys : ∀ key ∈ fields.map Prod.fst, Json.IsPlainText key)
      (hDistinct : (fields.map Prod.fst).Nodup) (h : ∀ f ∈ fields, IsPlain ofKind f.2) :
      IsPlain ofKind (.dict (fields.map fun f => (.text f.1, f.2)))

theorem Value.isPlain_dict {ofKind : Float → Prop} (fields : List (String × Value))
    (keys : List String) (hKeys : fields.map Prod.fst = keys)
    (hPlain : ∀ key ∈ keys, Json.IsPlainText key) (hDistinct : keys.Nodup)
    (h : ∀ f ∈ fields, f.2.IsPlain ofKind) :
    IsPlain ofKind (.dict (fields.map fun f => (.text f.1, f.2))) := by
  subst hKeys
  exact .dict hPlain hDistinct h

theorem Value.IsPlain.mono {P Q : Float → Prop} (h : ∀ x, P x → Q x) {v : Value}
    (hPlain : v.IsPlain P) : v.IsPlain Q := by
  induction hPlain with
  | int n => exact .int n
  | float hFloat => exact .float (h _ hFloat)
  | text hText => exact .text hText
  | list _ ih => exact .list ih
  | dict hKeys hDistinct _ ih => exact .dict hKeys hDistinct ih

namespace Json

/-- A reader gives every plain value without floats back from the text that it is written as. -/
def ReadsBack (real : Float → String) (read : String → Option Value) : Prop :=
  ∀ v text, v.IsPlain (fun _ => False) → write real v = .ok text → read text = some v

def isBlank (c : Char) : Bool := c == ' ' || c == '\n' || c == '\r' || c == '\t'

def skip (cs : List Char) : List Char := cs.dropWhile isBlank

/-- A mark that holds a container or a text together. -/
def isMark (c : Char) : Bool := "[]\x7b\x7d,:\"".toList.contains c

/-- A character that a number may have, as far as its end goes. -/
def isInNumber (c : Char) : Bool := !(isBlank c || isMark c)

/-- A number without a plus sign: an integer if it is all digits, and else a float. -/
def readNumber? (token : List Char) : Option Value :=
  if token.head? = some '+' then none
  else
    match Numeral.take? token with
    | some (n, []) => some (.int n.value)
    | _ => (readFloat? (String.ofList token)).map .float

/-- A float is read back from its text, which is a number as a whole. -/
structure ReadsFloat (real : Float → String) (x : Float) : Prop where
  inNumber : ∀ c ∈ (real x).toList, isInNumber c = true
  reads : readNumber? (real x).toList = some (.float x)

example : ReadsFloat (fun _ => "-Infinity") (-(1.0 / 0.0)) :=
  ⟨List.all_eq_true.mp rfl, by rfl⟩

def isUnquoted (c : Char) : Bool := !(c == '"' || c == '\\')

/-- A text behind its opening quote. Escapes are not read. -/
def readText? (cs : List Char) : Option (String × List Char) := do
  let rest ← after? '"' (cs.dropWhile isUnquoted)
  return (String.ofList (cs.takeWhile isUnquoted), rest)

section

variable {α : Type} (one : List Char → Option (α × List Char)) (closing : Char)

/-- At least one part, with commas between them. -/
def readAll? : Nat → List Char → Option (List α × List Char)
  | 0, _ => none
  | n + 1, cs => do
    let (a, cs) ← one (skip cs)
    match skip cs with
    | [] => none
    | c :: cs =>
      if c == ',' then do
        let (as, cs) ← readAll? n cs
        return (a :: as, cs)
      else if c == closing then return ([a], cs)
      else none

def readContainer? (cs : List Char) : Option (List α × List Char) :=
  match skip cs with
  | [] => none
  | c :: rest => if c == closing then some ([], rest) else readAll? one closing cs.length cs

end

def readField? (one : List Char → Option (Value × List Char)) (cs : List Char) :
    Option ((String × Value) × List Char) := do
  let cs ← after? '"' cs
  let (key, cs) ← readText? cs
  let cs ← after? ':' (skip cs)
  let (v, cs) ← one (skip cs)
  return ((key, v), cs)

/-- A value that starts at once, of containers no deeper than the bound. -/
def readValue? : Nat → List Char → Option (Value × List Char)
  | 0, _ => none
  | _ + 1, [] => none
  | n + 1, c :: cs =>
    if c == '"' then (readText? cs).map fun (s, cs) => (.text s, cs)
    else if c == '[' then
      (readContainer? (readValue? n) ']' cs).map fun (items, cs) => (.list items, cs)
    else if c == '\x7b' then
      (readContainer? (readField? (readValue? n)) '\x7d' cs).map fun (fields, cs) =>
        (.dict (fields.map fun f => (.text f.1, f.2)), cs)
    else do
      let v ← readNumber? ((c :: cs).takeWhile isInNumber)
      return (v, (c :: cs).dropWhile isInNumber)

def read? (text : String) : Option Value := do
  let (v, rest) ← readValue? (text.length + 1) (skip text.toList)
  if (skip rest).isEmpty then return v else none

/-- Neither a blank nor the end of a container. -/
def isStart (c : Char) : Bool := !(isBlank c || c == ']' || c == '\x7d')

theorem skip_blanks {blanks : List Char} (h : ∀ c ∈ blanks, isBlank c = true) {c : Char}
    (hc : isBlank c = false) (rest : List Char) : skip (blanks ++ c :: rest) = c :: rest := by
  rw [skip, List.dropWhile_append_of_pos h, List.dropWhile_cons_of_neg]
  rw [hc]
  exact Bool.false_ne_true

theorem skip_cons {c : Char} (hc : isBlank c = false) (rest : List Char) :
    skip (c :: rest) = c :: rest :=
  skip_blanks (List.forall_mem_nil _) hc rest

theorem isBlank_of_isStart {c : Char} (h : isStart c = true) : isBlank c = false := by
  rw [isStart, Bool.not_eq_true', Bool.or_eq_false_iff, Bool.or_eq_false_iff] at h
  exact h.1.1

/-- No number goes on here. -/
def Ends (rest : List Char) : Prop := ∀ c ∈ rest.head?, isInNumber c = false

theorem ends_cons {c : Char} {rest : List Char} (h : isInNumber c = false) : Ends (c :: rest) := by
  intro d hd
  cases hd
  exact h

theorem span_of_ends {token rest : List Char} (hToken : ∀ c ∈ token, isInNumber c = true)
    (hRest : Ends rest) : (token ++ rest).takeWhile isInNumber = token ∧
      (token ++ rest).dropWhile isInNumber = rest := by
  rw [List.takeWhile_append_of_pos hToken, List.dropWhile_append_of_pos hToken]
  cases rest with
  | nil => exact ⟨List.append_nil token, rfl⟩
  | cons c rest =>
    have hNot : ¬ isInNumber c = true := by
      rw [hRest c rfl]
      exact Bool.false_ne_true
    rw [List.takeWhile_cons_of_neg hNot, List.dropWhile_cons_of_neg hNot, List.append_nil]
    exact ⟨rfl, rfl⟩

/-- What is read of a part, whatever comes behind it that cannot belong to a number. -/
structure Reads {α : Type} (one : List Char → Option (α × List Char)) (part : List Char) (a : α) :
    Prop where
  starts : ∃ c cs, part = c :: cs ∧ isStart c = true
  reads : ∀ rest, Ends rest → one (part ++ rest) = some (a, rest)

theorem Reads.after_blanks {α : Type} {one : List Char → Option (α × List Char)}
    {part : List Char} {a : α} (h : Reads one part a) {blanks : List Char}
    (hBlanks : ∀ c ∈ blanks, isBlank c = true) {rest : List Char} (hRest : Ends rest) :
    one (skip (blanks ++ (part ++ rest))) = some (a, rest) := by
  obtain ⟨c, cs, hPart, hStart⟩ := h.starts
  have hSkip : skip (blanks ++ (part ++ rest)) = part ++ rest := by
    rw [hPart]
    exact skip_blanks hBlanks (isBlank_of_isStart hStart) (cs ++ rest)
  rw [hSkip, h.reads rest hRest]

theorem length_le_intercalate {part : List Char} {parts : List (List Char)} (h : part ∈ parts)
    (between : List Char) : part.length ≤ (between.intercalate parts).length := by
  induction parts with
  | nil => cases h
  | cons p parts ih =>
    cases parts with
    | nil => rw [List.mem_singleton.mp h, List.intercalate_singleton]
    | cons q parts =>
      rw [List.intercalate_cons_cons, List.length_append, List.length_append]
      rcases List.mem_cons.mp h with rfl | h
      · omega
      · have hLe := ih h
        omega

section

variable {α : Type} {one : List Char → Option (α × List Char)} {closing : Char}

theorem readAll?_last {cs rest behind : List Char} {a : α} (hOne : one (skip cs) = some (a, rest))
    (hEnd : skip rest = closing :: behind) (hComma : closing ≠ ',') (n : Nat) :
    readAll? one closing (n + 1) cs = some ([a], behind) := by
  simp [readAll?, hOne, hEnd, hComma]

theorem readAll?_more {n : Nat} {cs rest behind behind' : List Char} {a : α} {as : List α}
    (hOne : one (skip cs) = some (a, rest)) (hMore : skip rest = ',' :: behind)
    (hRest : readAll? one closing n behind = some (as, behind')) :
    readAll? one closing (n + 1) cs = some (a :: as, behind') := by
  simp [readAll?, hOne, hMore, hRest]

theorem starts_intercalate {part : List Char} {c : Char} {cs : List Char} (h : part = c :: cs)
    (between : List Char) (parts : List (List Char)) :
    ∃ cs', between.intercalate (part :: parts) = c :: cs' := by
  cases parts with
  | nil => exact ⟨cs, by rw [List.intercalate_singleton, h]⟩
  | cons next parts => exact ⟨_, by rw [List.intercalate_cons_cons, h]; rfl⟩

theorem readContainer?_parts {cs : List Char} {c : Char} {r : List α × List Char}
    (hFirst : (skip cs).head? = some c) (hc : c ≠ closing)
    (hAll : readAll? one closing cs.length cs = some r) :
    readContainer? one closing cs = some r := by
  obtain ⟨rest, hRest⟩ := List.head?_eq_some_iff.mp hFirst
  simp [readContainer?, hRest, hc, hAll]

theorem readAll?_lines (hClosing : isBlank closing = false) (hComma : closing ≠ ',')
    {inner outer : List Char} (hInner : ∀ c ∈ inner, isBlank c = true)
    (hOuter : ∀ c ∈ outer, isBlank c = true) (hEnds : ∀ rest, Ends (outer ++ rest))
    {parts : List (List Char)} {as : List α} (h : List.Forall₂ (Reads one) parts as)
    (hParts : parts ≠ []) {n : Nat} (hn : ((',' :: inner).intercalate parts).length ≤ n)
    (rest : List Char) :
    readAll? one closing n
      (inner ++ ((',' :: inner).intercalate parts ++ (outer ++ closing :: rest))) =
        some (as, rest) := by
  induction h generalizing n with
  | nil => exact absurd rfl hParts
  | @cons part a parts as hPart hRest ih =>
    obtain ⟨c, cs, hCons, _⟩ := hPart.starts
    cases hRest with
    | nil =>
      rw [List.intercalate_singleton] at hn ⊢
      obtain ⟨m, rfl⟩ : ∃ m, n = m + 1 := by
        rw [hCons, List.length_cons] at hn
        exact ⟨n - 1, by omega⟩
      exact readAll?_last (hPart.after_blanks hInner (hEnds _)) (skip_blanks hOuter hClosing rest)
        hComma m
    | @cons next b parts as hNext hRest =>
      rw [List.intercalate_cons_cons] at hn ⊢
      rw [List.length_append, List.length_append, List.length_cons] at hn
      obtain ⟨m, rfl⟩ : ∃ m, n = m + 1 := ⟨n - 1, by omega⟩
      have hTail := ih (List.cons_ne_nil next parts) (n := m) (by omega)
      rw [List.append_assoc, List.append_assoc]
      exact readAll?_more (hPart.after_blanks hInner (ends_cons rfl))
        (skip_cons (by decide) _) hTail

end

theorem toList_newLine (depth : Nat) :
    (newLine depth).toList = '\n' :: List.replicate (2 * depth) ' ' := by
  simp only [newLine, String.toList_append, String.toList_ofList]
  rfl

theorem newLine_blank (depth : Nat) : ∀ c ∈ (newLine depth).toList, isBlank c = true := by
  intro c hc
  rw [toList_newLine] at hc
  rcases List.mem_cons.mp hc with rfl | hc
  · rfl
  · rw [List.eq_of_mem_replicate hc]
    rfl

theorem newLine_ends (depth : Nat) (rest : List Char) :
    Ends ((newLine depth).toList ++ rest) := by
  rw [toList_newLine]
  exact ends_cons rfl

theorem toList_enclosed {opening closing : String} {depth : Nat} {parts : List String}
    (h : parts ≠ []) : (enclosed opening closing depth parts).toList =
      opening.toList ++ ((newLine (depth + 1)).toList ++
        ((',' :: (newLine (depth + 1)).toList).intercalate (parts.map String.toList) ++
          ((newLine depth).toList ++ closing.toList))) := by
  rw [enclosed, if_neg (by rwa [List.isEmpty_iff])]
  simp only [String.toList_append, String.toList_intercalate, List.append_assoc]
  rfl

theorem length_lt_enclosed {closing : String} {depth : Nat} {parts : List String}
    {part : String} (h : part ∈ parts) {opening : String} {c : Char} (hc : opening.toList = [c]) :
    part.toList.length < (enclosed opening closing depth parts).toList.length := by
  have hLe := length_le_intercalate (List.mem_map_of_mem (f := String.toList) h)
    (',' :: (newLine (depth + 1)).toList)
  rw [toList_enclosed (List.ne_nil_of_mem h), hc]
  simp only [List.length_append, List.length_singleton]
  omega

theorem readContainer?_enclosed {α : Type} {one : List Char → Option (α × List Char)}
    {opening closing : String} {o c : Char} (ho : opening.toList = [o]) (hc : closing.toList = [c])
    (hEnds : c = ']' ∨ c = '\x7d') (depth : Nat) {parts : List String} {as : List α}
    (h : List.Forall₂ (Reads one) (parts.map String.toList) as) :
    ∃ body, (enclosed opening closing depth parts).toList = o :: body ∧
      ∀ rest, readContainer? one c (body ++ rest) = some (as, rest) := by
  have hBlank : isBlank c = false := by rcases hEnds with rfl | rfl <;> rfl
  have hComma : c ≠ ',' := by rcases hEnds with rfl | rfl <;> decide
  cases parts with
  | nil =>
    cases h
    refine ⟨[c], ?_, ?_⟩
    · rw [enclosed, List.isEmpty_nil, if_pos rfl, String.toList_append, ho, hc]
      rfl
    · intro rest
      have hSkip : skip ([c] ++ rest) = c :: rest := skip_cons hBlank rest
      rw [readContainer?, hSkip]
      exact if_pos (beq_self_eq_true c)
  | cons part parts =>
    refine ⟨(newLine (depth + 1)).toList ++
      ((',' :: (newLine (depth + 1)).toList).intercalate ((part :: parts).map String.toList) ++
        ((newLine depth).toList ++ [c])), ?_, ?_⟩
    · rw [toList_enclosed (List.cons_ne_nil part parts), ho, hc]
      rfl
    intro rest
    cases h with
    | cons hPart hParts =>
      obtain ⟨d, ds, hCons, hStart⟩ := hPart.starts
      obtain ⟨ds', hFirst⟩ := starts_intercalate hCons (',' :: (newLine (depth + 1)).toList)
        (parts.map String.toList)
      have hd : d ≠ c := by
        rintro rfl
        rcases hEnds with rfl | rfl <;> cases hStart
      have hRead (n : Nat) (hn : _ ≤ n) :=
        readAll?_lines hBlank hComma (newLine_blank (depth + 1)) (newLine_blank depth)
          (newLine_ends depth) (.cons hPart hParts) (List.cons_ne_nil _ _) hn rest
      simp only [List.append_assoc, List.singleton_append]
      rw [List.map_cons]
      refine readContainer?_parts ?_ hd (hRead _ ?_)
      · rw [hFirst, List.cons_append,
          skip_blanks (newLine_blank (depth + 1)) (isBlank_of_isStart hStart), List.head?_cons]
      · simp only [List.length_append]
        omega

theorem isUnquoted_of_plain {s : String} (h : IsPlainText s) :
    ∀ c ∈ s.toList, isUnquoted c = true := by
  intro c hc
  have hPlain := h c hc
  rw [isUnquoted, Bool.not_eq_true', Bool.or_eq_false_iff, beq_eq_false_iff_ne, beq_eq_false_iff_ne]
  constructor
  · rintro rfl
    exact absurd hPlain (by decide)
  · rintro rfl
    exact absurd hPlain (by decide)

theorem toList_quoted {s : String} (h : IsPlainText s) :
    (quoted s).toList = '"' :: (s.toList ++ ['"']) := by
  rw [quoted, String.toList_ofList, List.flatMap_congr h, List.flatMap_singleton']

theorem readText?_plain {s : String} (h : IsPlainText s) (rest : List Char) :
    readText? (s.toList ++ '"' :: rest) = some (s, rest) := by
  have hText := isUnquoted_of_plain h
  have hQuote : ¬ isUnquoted '"' = true := by decide
  rw [readText?, List.dropWhile_append_of_pos hText, List.takeWhile_append_of_pos hText,
    List.dropWhile_cons_of_neg hQuote, List.takeWhile_cons_of_neg hQuote, List.append_nil,
    String.ofList_toList]
  rfl

theorem renderItems_eq_map (real : Float → String) (depth : Nat) (items : List Value) :
    renderItems real depth items = items.map (render real depth) := by
  induction items with
  | nil => rfl
  | cons v items ih => rw [renderItems, ih, List.map_cons]

def fieldText (real : Float → String) (depth : Nat) (f : String × Value) : String :=
  quoted f.1 ++ ": " ++ render real depth f.2

theorem renderEntries_eq_map (real : Float → String) (depth : Nat)
    (fields : List (String × Value)) :
    renderEntries real depth (fields.map fun f => (.text f.1, f.2)) =
      fields.map (fieldText real depth) := by
  induction fields with
  | nil => rfl
  | cons f fields ih =>
    rw [List.map_cons, renderEntries, ih, List.map_cons]
    rfl

theorem starts_ofInt (n : Int) :
    ∃ c cs, (Spelling.ofInt n).chars = c :: cs ∧ (c = '-' ∨ c.isDigit = true) := by
  have hDigits := (Spelling.ofInt n).isDigit
  obtain ⟨c, cs, hCons⟩ := List.exists_cons_of_ne_nil (Spelling.ofInt n).digits_ne_nil
  rw [hCons] at hDigits
  by_cases hNegative : n < 0
  · refine ⟨'-', c :: cs, ?_, .inl rfl⟩
    rw [Spelling.chars, hCons, Spelling.ofInt, if_pos hNegative]
    rfl
  · refine ⟨c, cs, ?_, .inr (hDigits c List.mem_cons_self)⟩
    rw [Spelling.chars, hCons, Spelling.ofInt, if_neg hNegative]
    rfl

theorem reads_number {token : List Char} (hToken : ∀ c ∈ token, isInNumber c = true) {v : Value}
    (h : readNumber? token = some v) (bound : Nat) : Reads (readValue? (bound + 1)) token v := by
  cases token with
  | nil => cases h
  | cons c cs =>
    have hFirst := hToken c List.mem_cons_self
    rw [isInNumber, Bool.not_eq_true', Bool.or_eq_false_iff] at hFirst
    obtain ⟨hBlank, hMark⟩ := hFirst
    have hNot {d : Char} (hd : isMark d = true) : c ≠ d := by
      rintro rfl
      cases hMark.symm.trans hd
    have hStart : isStart c = true := by
      simp [isStart, hBlank, hNot (d := ']') rfl, hNot (d := '\x7d') rfl]
    refine ⟨⟨c, cs, rfl, hStart⟩, fun rest hRest => ?_⟩
    obtain ⟨hTake, hDrop⟩ := span_of_ends hToken hRest
    rw [List.cons_append] at hTake hDrop ⊢
    simp [readValue?, hNot (d := '"') rfl, hNot (d := '[') rfl, hNot (d := '\x7b') rfl, hTake,
      hDrop, h]

theorem isInNumber_of_isDigit {c : Char} (h : c.isDigit = true) : isInNumber c = true := by
  have hNot {d : Char} (hd : d.isDigit = false) : c ≠ d := by
    rintro rfl
    cases hd.symm.trans h
  simp [isInNumber, isBlank, isMark, hNot]

theorem reads_int (n : Int) (bound : Nat) :
    Reads (readValue? (bound + 1)) (toString n).toList (.int n) := by
  obtain ⟨c, cs, hCons, hFirst⟩ := starts_ofInt n
  rw [← Spelling.chars_ofInt]
  apply reads_number
  · rw [Spelling.chars, Spelling.ofInt, List.forall_mem_append]
    refine ⟨?_, fun d hd => isInNumber_of_isDigit ((Spelling.ofInt n).isDigit d hd)⟩
    split
    · exact List.forall_mem_singleton.mpr rfl
    · exact List.forall_mem_nil _
  · have hPlus : (Spelling.ofInt n).chars.head? ≠ some '+' := by
      rw [hCons, List.head?_cons]
      rintro ⟨rfl⟩
      rcases hFirst with hMinus | hDigit
      · cases hMinus
      · cases hDigit
    have hTake := Spelling.take?_eq_some_iff.mpr
      ⟨Spelling.ofInt n, (List.append_nil _).symm, Spelling.stops_dropWhile [], rfl⟩
    rw [readNumber?, if_neg hPlus, hTake]
    dsimp only
    rw [Spelling.value_numeral, Spelling.value_ofInt]

theorem reads_text {s : String} (h : IsPlainText s) (bound : Nat) :
    Reads (readValue? (bound + 1)) (quoted s).toList (.text s) := by
  rw [toList_quoted h]
  refine ⟨⟨'"', _, rfl, rfl⟩, fun rest _ => ?_⟩
  have hRead := readText?_plain h rest
  simp [readValue?, hRead]

theorem reads_field {real : Float → String} {depth bound : Nat} {f : String × Value}
    (hKey : IsPlainText f.1)
    (h : Reads (readValue? bound) (render real depth f.2).toList f.2) :
    Reads (readField? (readValue? bound)) (fieldText real depth f).toList f := by
  rw [fieldText, String.toList_append, String.toList_append, toList_quoted hKey]
  refine ⟨⟨'"', _, rfl, rfl⟩, fun rest hRest => ?_⟩
  have hRead := readText?_plain hKey (':' :: ' ' :: ((render real depth f.2).toList ++ rest))
  have hColon := skip_cons (c := ':') (by decide) (' ' :: ((render real depth f.2).toList ++ rest))
  have hSpace : ∀ c ∈ [' '], isBlank c = true := by simp [isBlank]
  have hValue := h.after_blanks hSpace hRest
  rw [List.singleton_append] at hValue
  simp [readField?, after?, hRead, hColon, hValue]

/-- Every plain value is read from what it is written as, within any bound above its length. -/
theorem reads_render {real : Float → String} {v : Value} (h : v.IsPlain (ReadsFloat real))
    (depth : Nat) {bound : Nat} (hBound : (render real depth v).toList.length < bound) :
    Reads (readValue? bound) (render real depth v).toList v := by
  -- parts are shorter than what encloses them, so what is left of the bound is above them
  induction h generalizing depth bound with
  | int n =>
    obtain ⟨m, rfl⟩ := Nat.exists_eq_add_one.mpr (Nat.zero_lt_of_lt hBound)
    exact reads_int n m
  | float hFloat =>
    obtain ⟨m, rfl⟩ := Nat.exists_eq_add_one.mpr (Nat.zero_lt_of_lt hBound)
    exact reads_number hFloat.inNumber hFloat.reads m
  | text hText =>
    obtain ⟨m, rfl⟩ := Nat.exists_eq_add_one.mpr (Nat.zero_lt_of_lt hBound)
    exact reads_text hText m
  | @list items hItems ih =>
    obtain ⟨m, rfl⟩ := Nat.exists_eq_add_one.mpr (Nat.zero_lt_of_lt hBound)
    have hOpening : "[".toList = ['['] := rfl
    have hClosing : "]".toList = [']'] := rfl
    rw [render, renderItems_eq_map] at hBound ⊢
    have hParts : List.Forall₂ (Reads (readValue? m))
        ((items.map (render real (depth + 1))).map String.toList) items := by
      rw [List.map_map, List.forall₂_map_left_iff, List.forall₂_same]
      intro v hv
      have hLt := (length_lt_enclosed (List.mem_map_of_mem hv) hOpening).trans_le
        (Nat.le_of_lt_succ hBound)
      exact ih v hv (depth + 1) hLt
    obtain ⟨body, hBody, hRead⟩ :=
      readContainer?_enclosed hOpening hClosing (.inl rfl) depth hParts
    rw [hBody]
    refine ⟨⟨'[', body, rfl, rfl⟩, fun rest _ => ?_⟩
    simp [readValue?, hRead rest]
  | @dict fields hKeys _ hValues ih =>
    obtain ⟨m, rfl⟩ := Nat.exists_eq_add_one.mpr (Nat.zero_lt_of_lt hBound)
    have hOpening : "\x7b".toList = ['\x7b'] := rfl
    have hClosing : "\x7d".toList = ['\x7d'] := rfl
    rw [render, renderEntries_eq_map] at hBound ⊢
    have hParts : List.Forall₂ (Reads (readField? (readValue? m)))
        ((fields.map (fieldText real (depth + 1))).map String.toList) fields := by
      rw [List.map_map, List.forall₂_map_left_iff, List.forall₂_same]
      intro f hf
      have hLt := (length_lt_enclosed (List.mem_map_of_mem hf) hOpening).trans_le
        (Nat.le_of_lt_succ hBound)
      have hLe : (render real (depth + 1) f.2).toList.length ≤
          (fieldText real (depth + 1) f).toList.length := by
        rw [fieldText, String.toList_append, List.length_append]
        omega
      exact reads_field (hKeys _ (List.mem_map_of_mem hf)) (ih f hf (depth + 1) (hLe.trans_lt hLt))
    obtain ⟨body, hBody, hRead⟩ :=
      readContainer?_enclosed hOpening hClosing (.inr rfl) depth hParts
    rw [hBody]
    refine ⟨⟨'\x7b', body, rfl, rfl⟩, fun rest _ => ?_⟩
    simp [readValue?, hRead rest]

/-- Plain values are read back when their floats are. -/
theorem read?_write {real : Float → String} {v : Value} {text : String}
    (hPlain : v.IsPlain (ReadsFloat real)) (hWrite : write real v = .ok text) :
    read? text = some v := by
  have hText : text = render real 0 v := by
    unfold write at hWrite
    split at hWrite
    · exact (Except.ok.inj hWrite).symm
    · cases hWrite
  subst hText
  have hEnd : Ends [] := nofun
  have hReads := @reads_render real v hPlain 0 _ (Nat.lt_succ_self _)
  have hValue := hReads.after_blanks (List.forall_mem_nil _) hEnd
  rw [List.nil_append, List.append_nil] at hValue
  rw [read?, ← String.length_toList, hValue]
  rfl

theorem readsBack (real : Float → String) : ReadsBack real read? :=
  fun _ _ hPlain => read?_write (hPlain.mono fun _ => False.elim)

end Json
end TouchPath
