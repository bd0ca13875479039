import TouchPath.Proofs.Start
import TouchPath.Proofs.Steps

/-! # Entries of scripts

A script is read from a mapping that lists entries, each of them a mapping that names a shape. It is
written as mappings with the same entries, only with the shape in front, and since no step keeps a
shape among its parameters it is read back as it was (`Script.entries_kept`).
-/
namespace TouchPath
set_option autoImplicit false

namespace Value

theorem text?_eq_some_iff {v : Value} {s : String} : v.text? = some s ↔ v = .text s := by
  cases v <;> simp [text?]

/-- A mapping with a text under its shape. -/
def NamesShape (v : Value) : Prop :=
  ∃ (es : Entries) (shape : String), v.opened = .dict es ∧ es.get? "shape" = some (.text shape)

/-- The step of an entry: the shape that it names, and its other entries as parameters. -/
def Gives (v : Value) (step : Step) : Prop :=
  ∃ es : Entries, v.opened = .dict es ∧ es.get? "shape" = some (.text step.shape) ∧
    step.params = es.erase "shape"

end Value

namespace Entries

variable {es fs : Entries} {key : String} {v : Value} {items : List Value}

def KeysDistinct (es : Entries) : Prop := es.Pairwise fun e f => e.1.same f.1 = false

/-- One mapping, its entries in whatever order. -/
structure SameMapping (es fs : Entries) : Prop where
  entry : ∀ key, es.get? key = fs.get? key
  perm : es.KeysDistinct → es.Perm fs

/-- What a mapping lists under a key; without the key it lists nothing. -/
def Lists (es : Entries) (key : String) (items : List Value) : Prop :=
  es.get? key = none ∧ items = [] ∨ ∃ v, es.get? key = some v ∧ v.opened = .list items

theorem lists_iff : es.Lists key items ↔ ((es.get? key).getD (.list [])).opened = .list items := by
  unfold Lists
  cases es.get? key with
  | none => simp [Value.opened, eq_comm]
  | some v => simp

theorem erase_cons (e : Value × Value) (es : Entries) (key : String) :
    erase (e :: es) key = if e.1.text? = some key then es.erase key else e :: es.erase key := by
  by_cases hKey : e.1.text? = some key
  · rw [if_pos hKey, erase, List.filter_cons_of_neg (by simp [hKey]), erase]
  · rw [if_neg hKey, erase, List.filter_cons_of_pos (by simp [hKey]), erase]

theorem get?_erase_of_ne {other : String} (h : other ≠ key) :
    (es.erase key).get? other = es.get? other := by
  induction es with
  | nil => rfl
  | cons e es ih =>
    rw [erase_cons, get?_cons]
    split
    · rename_i hKey
      rw [ih, hKey, if_neg fun hEq => h (Option.some.inj hEq).symm]
    · rw [get?_cons, ih]

theorem erase_eq_self (h : ∀ e ∈ es, e.1.text? ≠ some key) : es.erase key = es := by
  rw [erase, List.filter_eq_self]
  intro e he
  exact bne_iff_ne.mpr (h e he)

theorem erase_erase (es : Entries) (key : String) : (es.erase key).erase key = es.erase key := by
  apply erase_eq_self
  intro e he
  exact bne_iff_ne.mp (List.mem_filter.mp he).2

theorem perm_cons_erase (hDistinct : es.KeysDistinct) (h : es.get? key = some v) :
    es.Perm ((.text key, v) :: es.erase key) := by
  induction es with
  | nil => cases h
  | cons e es ih =>
    obtain ⟨hHead, hTail⟩ := List.pairwise_cons.mp hDistinct
    rw [get?_cons] at h
    rw [erase_cons]
    split at h
    · -- the first entry has the key, so no other has
      rename_i hKey
      have hFirst : e = (.text key, v) :=
        Prod.ext (Value.text?_eq_some_iff.mp hKey) (Option.some.inj h)
      have hOthers : ∀ f ∈ es, f.1.text? ≠ some key := by
        intro f hf hEq
        have hSame := hHead f hf
        rw [hFirst, Value.text?_eq_some_iff.mp hEq, Value.same_text] at hSame
        simp [Value.text?] at hSame
      rw [if_pos hKey, erase_eq_self hOthers, hFirst]
    · rename_i hKey
      rw [if_neg hKey]
      exact ((ih hTail h).cons e).trans (List.Perm.swap _ _ _)

theorem sameMapping_cons_erase (h : es.get? key = some v) :
    es.SameMapping ((.text key, v) :: es.erase key) where
  entry other := by
    have hText : (Value.text key).text? = some other ↔ key = other := Option.some_inj
    rw [get?_cons]
    by_cases hKey : key = other
    · rw [if_pos (hText.mpr hKey), ← hKey, h]
    · rw [if_neg fun hEq => hKey (hText.mp hEq), get?_erase_of_ne (Ne.symm hKey)]
  perm hDistinct := perm_cons_erase hDistinct h

end Entries

namespace Step

variable {v : Value} {step : Step}

theorem ofValue_eq_ok_iff : ofValue v = .ok step ↔ v.Gives step := by
  unfold ofValue Value.Gives
  split
  · rename_i es hMapping
    constructor
    · intro h
      split at h
      · rename_i shape hShape
        cases h
        exact ⟨es, hMapping, hShape, rfl⟩
      · cases h
    · rintro ⟨fs, hOpened, hShape, hParams⟩
      cases hMapping.symm.trans hOpened
      rw [hShape]
      obtain ⟨shape, params⟩ := step
      cases hParams
      rfl
  · rename_i hNot
    constructor
    · intro h
      cases h
    · rintro ⟨es, hOpened, _⟩
      exact absurd hOpened (hNot es)

theorem exists_ofValue_iff : (∃ step, ofValue v = .ok step) ↔ v.NamesShape := by
  simp only [ofValue_eq_ok_iff]
  constructor
  · rintro ⟨step, es, hOpened, hShape, _⟩
    exact ⟨es, step.shape, hOpened, hShape⟩
  · rintro ⟨es, shape, hOpened, hShape⟩
    exact ⟨⟨shape, es.erase "shape"⟩, es, hOpened, hShape, rfl⟩

theorem ofValue_eq_error_iff {f : Fault} : ofValue v = .error f ↔
    ¬ v.NamesShape ∧ f = if v.writable then .badEntry v else .badValue := by
  have hRaised : (Fault.badEntry v).raised = if v.writable then .badEntry v else .badValue := by
    rw [Fault.raised, Fault.writable, Fault.shown, List.all_cons, List.all_nil, Bool.and_true]
  by_cases hNames : v.NamesShape
  · obtain ⟨step, hStep⟩ := exists_ofValue_iff.mpr hNames
    constructor
    · intro h
      cases hStep.symm.trans h
    · rintro ⟨hNot, _⟩
      exact absurd hNames hNot
  · have hFail : ofValue v = fail (.badEntry v) := by
      unfold ofValue
      split
      · rename_i es hMapping
        split
        · rename_i shape hShape
          exact absurd ⟨es, shape, hMapping, hShape⟩ hNames
        · rfl
      · rfl
    rw [hFail, fail_eq_error, hRaised, Except.error.injEq]
    exact ⟨fun h => ⟨hNames, h.symm⟩, fun h => h.2.symm⟩

theorem sameMapping_of_gives (h : v.Gives step) :
    ∃ es fs : Entries, v.opened = .dict es ∧ step.toValue = .dict fs ∧ es.SameMapping fs := by
  obtain ⟨es, hOpened, hShape, hParams⟩ := h
  refine ⟨es, _, hOpened, rfl, ?_⟩
  rw [hParams]
  exact Entries.sameMapping_cons_erase hShape

def IsClean (step : Step) : Prop := step.params.erase "shape" = step.params

theorem isClean_of_gives (h : v.Gives step) : step.IsClean := by
  obtain ⟨es, _, _, hParams⟩ := h
  rw [IsClean, hParams, Entries.erase_erase]

theorem IsClean.ofValue_toValue (h : step.IsClean) : ofValue step.toValue = .ok step := by
  have hFirst : Entries.erase ((.text "shape", .text step.shape) :: step.params) "shape" =
      step.params.erase "shape" := (Entries.erase_cons _ _ _).trans (if_pos rfl)
  exact ofValue_eq_ok_iff.mpr ⟨_, rfl, rfl, (hFirst.trans h).symm⟩

end Step

namespace Script

variable {v : Value} {es : Entries} {items : List Value} {registry : Option Registry}
  {s s' : Script}

theorem ofValue_eq (hMapping : v.opened = .dict es) (registry : Option Registry) :
    ofValue v registry =
      match ((es.get? "fingers").getD (.list [])).opened with
      | .list items => do return make (← items.mapM Step.ofValue) registry
      | _ => .error .fingersNotList := by
  have hData : (if v.truthy then v else Value.dict []).opened = .dict es := by
    split
    · exact hMapping
    · rename_i hFalse
      rw [Settings.isDict_of_not_truthy hMapping (eq_false_of_ne_true hFalse)] at hMapping
      exact hMapping
  unfold ofValue
  dsimp only
  rw [Value.fieldD_of_opened hData, ok_bind]
  rfl

theorem ofValue_of_lists (hMapping : v.opened = .dict es) (h : es.Lists "fingers" items) :
    ofValue v registry = do return make (← items.mapM Step.ofValue) registry := by
  rw [ofValue_eq hMapping, Entries.lists_iff.mp h]

theorem ofValue_of_not_lists (hMapping : v.opened = .dict es)
    (h : ∀ items, ¬ es.Lists "fingers" items) : ofValue v registry = .error .fingersNotList := by
  rw [ofValue_eq hMapping]
  split
  · rename_i items hItems
    exact absurd (Entries.lists_iff.mpr hItems) (h items)
  · rfl

/-- Why a mapping is no script: it has something else than a list of entries, or a first entry that
names no shape. The fault shows such an entry, and is an unusable value where it cannot be shown. -/
inductive RefusedWith (es : Entries) (f : Fault) : Prop where
  | notListed (hNone : ∀ items, ¬ es.Lists "fingers" items) (hFault : f = .fingersNotList)
  | badEntry {front rest : List Value} {e : Value} (hList : es.Lists "fingers" (front ++ e :: rest))
      (hFront : ∀ x ∈ front, x.NamesShape) (hBad : ¬ e.NamesShape)
      (hFault : f = if e.writable then .badEntry e else .badValue)

theorem RefusedWith.family {f : Fault} (h : RefusedWith es f) :
    f.family? = some .argument ∨ f = .badValue := by
  rcases h with ⟨_, rfl⟩ | ⟨_, _, _, rfl⟩
  · exact .inl rfl
  · split
    · exact .inl rfl
    · exact .inr rfl

theorem ofValue_eq_ok_iff (hMapping : v.opened = .dict es) :
    ofValue v registry = .ok s ↔ ∃ items steps, es.Lists "fingers" items ∧
      List.Forall₂ Value.Gives items steps ∧ s = make steps registry := by
  have hSteps {items : List Value} {steps : List Step} :
      items.mapM Step.ofValue = .ok steps ↔ List.Forall₂ Value.Gives items steps := by
    simp only [mapM_eq_ok_iff, Step.ofValue_eq_ok_iff]
  constructor
  · intro h
    by_cases hLists : ∃ items, es.Lists "fingers" items
    · obtain ⟨items, hItems⟩ := hLists
      rw [ofValue_of_lists hMapping hItems] at h
      obtain ⟨steps, hRead, hMake⟩ := bind_eq_ok_iff.mp h
      cases hMake
      exact ⟨items, steps, hItems, hSteps.mp hRead, rfl⟩
    · rw [ofValue_of_not_lists hMapping (not_exists.mp hLists)] at h
      cases h
  · rintro ⟨items, steps, hItems, hGives, rfl⟩
    rw [ofValue_of_lists hMapping hItems, hSteps.mpr hGives]
    rfl

theorem ofValue_eq_error_iff {f : Fault} (hMapping : v.opened = .dict es) :
    ofValue v registry = .error f ↔ RefusedWith es f := by
  constructor
  · intro h
    by_cases hLists : ∃ items, es.Lists "fingers" items
    · obtain ⟨items, hItems⟩ := hLists
      rw [ofValue_of_lists hMapping hItems] at h
      rcases bind_eq_error_iff.mp h with hRead | ⟨_, _, hMake⟩
      · obtain ⟨front, e, rest, rfl, hFront, hBad⟩ := mapM_eq_error_iff.mp hRead
        obtain ⟨hNames, hFault⟩ := Step.ofValue_eq_error_iff.mp hBad
        exact .badEntry hItems (fun x hx => Step.exists_ofValue_iff.mp (hFront x hx)) hNames hFault
      · cases hMake
    · rw [ofValue_of_not_lists hMapping (not_exists.mp hLists)] at h
      exact .notListed (not_exists.mp hLists) (Except.error.inj h).symm
  · rintro (⟨hNone, hFault⟩ | ⟨hList, hFront, hBad, hFault⟩)
    · rw [ofValue_of_not_lists hMapping hNone, hFault]
    · rw [ofValue_of_lists hMapping hList, bind_eq_error_iff]
      left
      exact mapM_eq_error_iff.mpr ⟨_, _, _, rfl,
        fun x hx => Step.exists_ofValue_iff.mpr (hFront x hx),
        Step.ofValue_eq_error_iff.mpr ⟨hBad, hFault⟩⟩

theorem exists_ofValue_iff (hMapping : v.opened = .dict es) :
    (∃ s, ofValue v registry = .ok s) ↔
      ∃ items, es.Lists "fingers" items ∧ ∀ e ∈ items, e.NamesShape := by
  simp only [ofValue_eq_ok_iff hMapping]
  constructor
  · rintro ⟨_, items, steps, hItems, hGives, _⟩
    refine ⟨items, hItems, fun e he => ?_⟩
    obtain ⟨step, _, hStep⟩ := exists_of_mem_left hGives he
    exact Step.exists_ofValue_iff.mp ⟨step, Step.ofValue_eq_ok_iff.mpr hStep⟩
  · rintro ⟨items, hItems, hNames⟩
    obtain ⟨steps, hSteps⟩ :=
      mapM_isOk_iff.mpr fun e he => Step.exists_ofValue_iff.mpr (hNames e he)
    rw [mapM_eq_ok_iff] at hSteps
    exact ⟨_, items, steps, hItems, hSteps.imp fun _ _ => Step.ofValue_eq_ok_iff.mp, rfl⟩

/-- Read from a value, and given further steps by name. -/
inductive Reachable : Script → Prop where
  | read {v : Value} {registry : Option Registry} {s : Script} (h : ofValue v registry = .ok s) :
      Reachable s
  | added {s s' : Script} {shape : String} {params : Entries} (h : Reachable s)
      (hAdd : s.add shape params = .ok s') : Reachable s'

theorem steps_make (steps : List Step) (registry : Option Registry) :
    (make steps registry).steps = steps := by
  cases registry <;> rfl

theorem builders_make (steps : List Step) (registry : Option Registry) :
    (make steps registry).registry.builders ≠ [] := by
  have hStandard : (Registry.standard .standard).builders ≠ [] := List.cons_ne_nil _ _
  cases registry with
  | none => exact hStandard
  | some r =>
    by_cases hNone : r.builders = []
    · rw [make_of_no_builders hNone]
      exact hStandard
    · rw [make_of_builders hNone]
      exact hNone

theorem erase_of_isParameterName {params : Entries}
    (h : params.all (isParameterName ·.1) = true) : params.erase "shape" = params := by
  apply Entries.erase_eq_self
  intro e he hShape
  have hName := List.all_eq_true.mp h e he
  rw [Value.text?_eq_some_iff.mp hShape] at hName
  exact absurd hName (by decide)

/-- No step keeps a shape among its parameters, and there are builders to ask. -/
structure IsClean (s : Script) : Prop where
  steps : ∀ step ∈ s.steps, step.IsClean
  builders : s.registry.builders ≠ []

theorem isClean_of_ofValue (h : ofValue v registry = .ok s) : s.IsClean := by
  simp only [ofValue, bind_eq_ok_iff] at h
  obtain ⟨field, _, h⟩ := h
  split at h
  · obtain ⟨steps, hSteps, hMake⟩ := bind_eq_ok_iff.mp h
    cases hMake
    refine ⟨?_, builders_make steps registry⟩
    rw [steps_make]
    intro step hStep
    obtain ⟨e, _, hRead⟩ := exists_of_mem_right (mapM_eq_ok_iff.mp hSteps) hStep
    exact Step.isClean_of_gives (Step.ofValue_eq_ok_iff.mp hRead)
  · cases h

theorem IsClean.added {shape : String} {params : Entries} (h : s.IsClean)
    (hAdd : s.add shape params = .ok s') : s'.IsClean := by
  rw [add] at hAdd
  split at hAdd
  · rename_i hNames
    cases hAdd
    refine ⟨?_, h.builders⟩
    rw [List.forall_mem_append, List.forall_mem_singleton]
    exact ⟨h.steps, erase_of_isParameterName hNames⟩
  · cases hAdd

theorem Reachable.isClean (h : s.Reachable) : s.IsClean := by
  induction h with
  | read h => exact isClean_of_ofValue h
  | added _ hAdd ih => exact ih.added hAdd

theorem IsClean.ofValue_toValue (h : s.IsClean) (registry : Option Registry) :
    ofValue s.toValue registry = .ok (make s.steps registry) := by
  refine (ofValue_eq_ok_iff rfl).mpr ⟨_, s.steps, .inr ⟨_, rfl, rfl⟩, ?_, rfl⟩
  rw [List.forall₂_map_left_iff, List.forall₂_same]
  exact fun step hStep => Step.ofValue_eq_ok_iff.mp (h.steps step hStep).ofValue_toValue

theorem IsClean.make_registry (h : s.IsClean) : make s.steps (some s.registry) = s :=
  make_of_builders h.builders s.steps

/-- A mapping is read as a script exactly when it lists entries that each name a shape, or has no
list at all; otherwise the first fault in it is told. A script that was read has a step for each
entry and is written as the same entries. A script that was read and added to is read back as it
was, so it compiles to the same, or fails in the same way. -/
theorem entries_kept :
    (∀ (v : Value) (es : Entries) (registry : Option Registry), v.opened = .dict es →
      ((∃ s, ofValue v registry = .ok s) ↔
        ∃ items, es.Lists "fingers" items ∧ ∀ e ∈ items, e.NamesShape) ∧
      (∀ f, ofValue v registry = .error f ↔ RefusedWith es f) ∧
      (∀ f, RefusedWith es f → f.family? = some .argument ∨ f = .badValue) ∧
      ∀ s, ofValue v registry = .ok s → ∃ items written, es.Lists "fingers" items ∧
        List.Forall₂ Value.Gives items s.steps ∧
        s.toValue = .dict [(.text "fingers", .list written)] ∧
        List.Forall₂ (fun e w => ∃ es fs : Entries, e.opened = .dict es ∧ w = .dict fs ∧
          es.SameMapping fs) items written) ∧
    ∀ s : Script, s.Reachable →
      (∀ registry, ofValue s.toValue registry = .ok (make s.steps registry)) ∧
      ofValue s.toValue (some s.registry) = .ok s := by
  refine ⟨fun v es registry hMapping => ⟨exists_ofValue_iff hMapping,
    fun f => ofValue_eq_error_iff hMapping, fun f hRefused => hRefused.family, ?_⟩, ?_⟩
  · intro s hRead
    obtain ⟨items, steps, hItems, hGives, rfl⟩ := (ofValue_eq_ok_iff hMapping).mp hRead
    rw [toValue, entries, steps_make]
    refine ⟨items, steps.map Step.toValue, hItems, hGives, rfl, ?_⟩
    rw [List.forall₂_map_right_iff]
    exact hGives.imp fun e step => Step.sameMapping_of_gives
  · intro s hReachable
    have hClean := hReachable.isClean
    refine ⟨hClean.ofValue_toValue, ?_⟩
    rw [hClean.ofValue_toValue, hClean.make_registry]

/-- An entry that is an integer of more than `maxDigits` digits is refused, but not by name. -/
theorem entries_kept_unwritable :
    ∃ v f, v = .dict [(.text "fingers", .list [.int (16 ^ 3572)])] ∧ f.family? = none ∧
      ∀ registry, ofValue v registry = .error f := by
  refine ⟨_, .badValue, rfl, rfl, fun registry => ?_⟩
  have hLong : (Value.int (16 ^ 3572)).writable = false := by decide +kernel
  have hLists : Entries.Lists [(.text "fingers", .list [.int (16 ^ 3572)])] "fingers"
      ([] ++ .int (16 ^ 3572) :: []) := .inr ⟨_, rfl, rfl⟩
  rw [ofValue_eq_error_iff rfl]
  refine .badEntry hLists nofun ?_ ?_
  · rintro ⟨es, shape, hOpened, _⟩
    cases hOpened
  · rw [hLong]
    rfl

/-- Entries with their shapes behind and in front, and a step that is added by name. -/
theorem entries_kept_shape_last :
    ∃ first s, first = .dict [(.text "point", .text "12"), (.text "shape", .text "tap")] ∧
      ofValue (.dict [(.text "fingers", .list [first, .dict [(.text "shape", .text "")]])]) none =
        .ok s ∧
      ofValue (Script.toValue ⟨s.steps ++ [⟨"drag", [(.text "end", .null)]⟩], s.registry⟩)
        (some s.registry) = .ok ⟨s.steps ++ [⟨"drag", [(.text "end", .null)]⟩], s.registry⟩ := by
  obtain ⟨first, hFirst⟩ : ∃ v : Value, v =
    .dict [(.text "point", .text "12"), (.text "shape", .text "tap")] := ⟨_, rfl⟩
  obtain ⟨hReads, hRereads⟩ := entries_kept
  obtain ⟨hOk, _⟩ := hReads
    (.dict [(.text "fingers", .list [first, .dict [(.text "shape", .text "")]])]) _ none rfl
  have hNames : ∀ e ∈ [first, .dict [(.text "shape", .text "")]], e.NamesShape := by
    rw [List.forall_mem_cons, List.forall_mem_singleton, hFirst]
    exact ⟨⟨_, "tap", rfl, rfl⟩, ⟨_, "", rfl, rfl⟩⟩
  obtain ⟨s, hs⟩ := hOk.mpr ⟨_, .inr ⟨_, rfl, rfl⟩, hNames⟩
  have hAdd : s.add "drag" [(.text "end", .null)] =
      .ok ⟨s.steps ++ [⟨"drag", [(.text "end", .null)]⟩], s.registry⟩ := rfl
  exact ⟨first, s, hFirst, hs, (hRereads _ (.added (.read hs) hAdd)).2⟩

end Script
end TouchPath
