import TouchPath.Proofs.Drawing

/-! # Settings of mappings

Settings read from a mapping take its known keys and leave the others out, as long as every key is a
text: a single key of another kind makes the reading fail, known keys or not
(`Settings.ofValue_takes_known`). A file whose document is a mapping is read as the mapping is, and
settings of whole numbers are read back from what they are written as.
-/
namespace TouchPath
set_option autoImplicit false

/-- All keys are texts. -/
def Entries.IsNamed (es : Entries) : Prop := ∀ e ∈ es, ∃ name, e.1 = .text name

theorem Entries.IsNamed.keys_eq {es : Entries} (h : es.IsNamed) :
    ∃ names : List String, es.map Prod.fst = names.map Value.text := by
  induction es with
  | nil => exact ⟨[], rfl⟩
  | cons e es ih =>
    obtain ⟨⟨name, hName⟩, hRest⟩ := List.forall_mem_cons.mp h
    obtain ⟨names, hNames⟩ := ih hRest
    exact ⟨name :: names, by rw [List.map_cons, List.map_cons, hName, hNames]⟩

theorem Value.mapM_text? (names : List String) : (names.map text).mapM text? = some names := by
  induction names with
  | nil => rfl
  | cons name names ih =>
    rw [List.map_cons, List.mapM_cons, ih]
    rfl

theorem Value.mapM_text?_eq_none {vs : List Value} {v : Value} (hv : v ∈ vs)
    (h : v.text? = none) : vs.mapM text? = none := by
  induction vs with
  | nil => cases hv
  | cons w vs ih =>
    rw [List.mapM_cons]
    rcases List.mem_cons.mp hv with rfl | hv
    · rw [h]
      rfl
    · rw [ih hv]
      cases w.text? <;> rfl

namespace Files

variable {files : Files} {path text : String}

theorem read_eq_ok_iff :
    files.read path = .ok text ↔ hasNull path = false ∧ files path = some (.file text) := by
  unfold read
  split
  · rename_i hNull
    simp [hNull]
  · rename_i hNull
    rw [Bool.not_eq_true] at hNull
    cases files path with
    | none => simp
    | some entry => cases entry <;> simp [hNull]

theorem has_of_read (h : files.read path = .ok text) : files.has path = .ok true := by
  obtain ⟨hNull, hFile⟩ := read_eq_ok_iff.mp h
  rw [has, hNull, hFile]
  rfl

end Files

namespace Settings

theorem nodup_eraseDups (names : List String) : names.eraseDups.Nodup := by
  -- the rest of the list loses the first name, so it is the length that decreases
  induction hLength : names.length using Nat.strong_induction_on generalizing names with
  | _ n ih =>
    cases names with
    | nil => exact List.nodup_nil
    | cons name names =>
      rw [List.eraseDups_cons, List.nodup_cons]
      constructor
      · rw [List.mem_eraseDups, List.mem_filter]
        simp
      · have hFilter := List.length_filter_le (fun b => !b == name) names
        rw [List.length_cons] at hLength
        exact ih _ (by omega) _ rfl

theorem mem_sortedNames {names : List String} {name : String} :
    name ∈ sortedNames names ↔ name ∈ names := by
  rw [sortedNames, List.mem_mergeSort, List.mem_eraseDups]

theorem sortedNames_ascend (names : List String) : (sortedNames names).Pairwise (· < ·) := by
  have hSorted : (sortedNames names).Pairwise (· ≤ ·) :=
    List.pairwise_mergeSort' (· ≤ ·) names.eraseDups
  have hNodup : (sortedNames names).Nodup :=
    (List.mergeSort_perm _ _).nodup_iff.mpr (nodup_eraseDups names)
  exact (hSorted.sortedLE.sortedLT_of_nodup hNodup).pairwise

variable {s t : Settings} {es fs : Entries} {v w : Value}

theorem eq_of_fields (h : s.fields = t.fields) : s = t := by
  cases s
  cases t
  simpa [fields] using h

/-- Every field has the value that the mapping gives for its key, or else keeps its own. -/
theorem fields_override (s : Settings) (es : Entries) :
    (s.override es).fields = s.fields.map fun f => (f.1, (es.get? f.1).getD f.2) := rfl

theorem override_congr (h : ∀ key ∈ keys, es.get? key = fs.get? key) :
    standard.override es = standard.override fs := by
  apply eq_of_fields
  rw [fields_override, fields_override]
  apply List.map_congr_left
  intro f hf
  rw [h f.1 (List.mem_map_of_mem hf)]

/-- The notices about a mapping: none when all its keys are known, or else one that names each
unknown key once, in ascending order. -/
inductive Tells (es : Entries) : List Notice → Prop where
  | nothing (hKnown : ∀ e ∈ es, isKnown e.1 = true) : Tells es []
  | unknown {names : List String} (hSome : names ≠ []) (hAscend : names.Pairwise (· < ·))
      (hNames : ∀ name, name ∈ names ↔ name ∉ keys ∧ ∃ v, (Value.text name, v) ∈ es) :
      Tells es [.unknownKeys names]

theorem reportUnknown_names {names : List String} (hSome : names ≠ []) (told : List Notice) :
    (reportUnknown (names.map .text)).after told =
      (.ok (), told ++ [.unknownKeys (sortedNames names)]) := by
  rw [reportUnknown, Value.mapM_text?]
  cases names with
  | nil => exact absurd rfl hSome
  | cons name names => rfl

theorem reportUnknown_of_not_text {unknown : List Value} (hv : v ∈ unknown) (h : v.text? = none)
    (told : List Notice) : (reportUnknown unknown).after told = (.error .wrongType, told) := by
  rw [reportUnknown, Value.mapM_text?_eq_none hv h]
  rfl

theorem elements_of_opened (h : v.opened = .dict es) : v.elements = .ok (es.map Prod.fst) := by
  rw [Value.elements, h]

theorem ofValue_report (hMapping : v.opened = .dict es)
    (hKeys : (es.map Prod.fst).all Value.isKey = true) :
    (ofValue v).report =
      match (reportUnknown ((es.map Prod.fst).filter (!isKnown ·))).after [] with
      | (.ok _, told) => (.ok (standard.override es), told)
      | (.error f, told) => (.error f, told) := by
  rw [Reported.report_eq_after, ofValue, Reported.after_bind, Reported.after_lift,
    elements_of_opened hMapping]
  dsimp only
  rw [hKeys, Bool.not_true, if_neg Bool.false_ne_true, Reported.after_bind, hMapping]
  rcases (reportUnknown ((es.map Prod.fst).filter (!isKnown ·))).after [] with ⟨_ | _, told⟩ <;> rfl

theorem ofValue_of_isNamed (hMapping : v.opened = .dict es) (h : es.IsNamed) :
    ∃ told, Tells es told ∧ (ofValue v).report = (.ok (standard.override es), told) := by
  obtain ⟨names, hNames⟩ := h.keys_eq
  have hKeys : (es.map Prod.fst).all Value.isKey = true := by
    rw [hNames, List.all_map, List.all_eq_true]
    intro name _
    rfl
  have hUnknown : (es.map Prod.fst).filter (!isKnown ·) =
      (names.filter (!keys.contains ·)).map .text := by
    rw [hNames, List.filter_map]
    rfl
  have hMem : ∀ name, name ∈ names ↔ ∃ v, (Value.text name, v) ∈ es := by
    intro name
    have hText : Value.text name ∈ names.map Value.text ↔ name ∈ names :=
      List.mem_map_of_injective fun _ _ => Value.text.inj
    rw [← hText, ← hNames]
    simp
  rw [ofValue_report hMapping hKeys, hUnknown]
  by_cases hSome : names.filter (!keys.contains ·) = []
  · have hNone : (es.map Prod.fst).filter (!isKnown ·) = [] := by rw [hUnknown, hSome, List.map_nil]
    rw [hSome]
    refine ⟨[], .nothing ?_, rfl⟩
    intro e he
    simpa using List.filter_eq_nil_iff.mp hNone e.1 (List.mem_map_of_mem he)
  · rw [reportUnknown_names hSome]
    refine ⟨_, .unknown ?_ (sortedNames_ascend _) ?_, rfl⟩
    · obtain ⟨name, hName⟩ := List.exists_mem_of_ne_nil _ hSome
      exact List.ne_nil_of_mem (mem_sortedNames.mpr hName)
    · intro name
      rw [mem_sortedNames, List.mem_filter, hMem, and_comm]
      simp

theorem ofValue_of_not_isNamed (hMapping : v.opened = .dict es) (h : ¬es.IsNamed) :
    (ofValue v).report = (.error .wrongType, []) := by
  rw [Entries.IsNamed] at h
  push Not at h
  obtain ⟨e, he, hOther⟩ := h
  have hMem : e.1 ∈ es.map Prod.fst := List.mem_map_of_mem he
  have hText : e.1.text? = none ∧ isKnown e.1 = false := by
    cases hKey : e.1 with
    | text name => exact absurd hKey (hOther name)
    | _ => exact ⟨rfl, rfl⟩
  by_cases hKeys : (es.map Prod.fst).all Value.isKey = true
  · have hUnknown : e.1 ∈ (es.map Prod.fst).filter (!isKnown ·) := by
      rw [List.mem_filter, hText.2]
      exact ⟨hMem, rfl⟩
    rw [ofValue_report hMapping hKeys, reportUnknown_of_not_text hUnknown hText.1]
  · rw [Reported.report_eq_after, ofValue, Reported.after_bind, Reported.after_lift,
      elements_of_opened hMapping]
    dsimp only
    rw [Bool.eq_false_iff.mpr hKeys]
    rfl

theorem plainEntries_eq {es : Entries} (h : ∀ e ∈ es, e.2.plain = .ok e.2) :
    Value.plainEntries es = .ok es := by
  induction es with
  | nil => rfl
  | cons e es ih =>
    obtain ⟨hHead, hRest⟩ := List.forall_mem_cons.mp h
    rw [Value.plainEntries, hHead, ih hRest]
    rfl

theorem toValue_of_isWhole (h : s.isWhole = true) : s.toValue = .ok (.dict s.entries) := by
  have hPlain : s.plainEntries = .ok s.entries := by
    apply plainEntries_eq
    intro e he
    obtain ⟨f, hf, rfl⟩ := List.mem_map.mp he
    obtain ⟨n, hn⟩ := s.number?_of_isWhole h hf
    dsimp only
    cases hValue : f.2 with
    | bool b => rfl
    | int m => rfl
    | float x => rfl
    | _ => rw [hValue] at hn; cases hn
  rw [toValue, hPlain]
  rfl

/-- Settings of whole numbers are what is read from the mapping that they are written as. -/
theorem ofValue_entries (s : Settings) : (ofValue (.dict s.entries)).report = (.ok s, []) := rfl

theorem isDict_of_not_truthy (h : v.opened = .dict es) (hFalse : v.truthy = false) :
    v = .dict [] := by
  cases v with
  | dict fs =>
    cases fs with
    | nil => rfl
    | cons f fs => cases hFalse
  | ring cells i => cases hFalse
  | _ => cases h

theorem ofText_of_mapping {words : Yaml.Wording} {path text : String}
    (hYaml : Yaml.load text = .ok v)
    (hMapping : v.opened = .dict es) : ofText words path text = ofValue v := by
  rw [ofText, hYaml]
  dsimp only
  cases hTruthy : v.truthy with
  | true =>
    rw [Bool.not_true, if_neg Bool.false_ne_true, hMapping]
  | false =>
    rw [Bool.not_false, if_pos rfl, isDict_of_not_truthy hMapping hTruthy]

theorem load_of_read {words : Yaml.Wording} {files : Files} {given text : String}
    (h : files.read (Files.normalName given) = .ok text) :
    (load words files (some given)).report =
      (ofText words (Files.normalName given) text).report := by
  simp only [Reported.report_eq_after, load, Reported.after_bind, Reported.after_lift,
    Files.has_of_read h, if_true, h]

theorem load_of_mapping {words : Yaml.Wording} {files : Files} {given text : String}
    (hName : Files.hasNull (Files.normalName given) = false)
    (hFile : files (Files.normalName given) = some (.file text)) (hYaml : Yaml.load text = .ok v)
    (hMapping : v.opened = .dict es) :
    (load words files (some given)).report = (ofValue v).report := by
  rw [load_of_read (Files.read_eq_ok_iff.mpr ⟨hName, hFile⟩), ofText_of_mapping hYaml hMapping]

/-- A mapping whose keys are all texts gives settings: each field has the value under its key or
else the standard one, and the other keys count for nothing but a notice. A mapping with another key
gives none. A file with such a document is read as the mapping, and settings of whole numbers are
read back from what they are written as. -/
theorem ofValue_takes_known (hMapping : v.opened = .dict es) :
    (es.IsNamed → ∃ s told, (ofValue v).report = (.ok s, told) ∧ Tells es told ∧
      (s.fields = standard.fields.map fun f => (f.1, (es.get? f.1).getD f.2)) ∧
      ∀ (w : Value) (fs : Entries), w.opened = .dict fs → fs.IsNamed →
        (∀ key ∈ keys, fs.get? key = es.get? key) → (ofValue w).report.1 = .ok s) ∧
    (¬es.IsNamed → (ofValue v).report = (.error .wrongType, [])) ∧
    (∀ words files given text, Files.hasNull (Files.normalName given) = false →
      files (Files.normalName given) = some (.file text) → Yaml.load text = .ok v →
      (load words files (some given)).report = (ofValue v).report) ∧
    ∀ s, s.isWhole = true → ∃ w, s.toValue = .ok w ∧ (ofValue w).report = (.ok s, []) := by
  refine ⟨?_, ofValue_of_not_isNamed hMapping, ?_, ?_⟩
  · intro hNamed
    obtain ⟨told, hTells, hReport⟩ := ofValue_of_isNamed hMapping hNamed
    refine ⟨_, told, hReport, hTells, fields_override _ _, ?_⟩
    intro w fs hOther hOtherNamed hAgree
    obtain ⟨_, _, hOtherReport⟩ := ofValue_of_isNamed hOther hOtherNamed
    rw [hOtherReport, override_congr hAgree]
  · intro words files given text hName hFile hYaml
    exact load_of_mapping hName hFile hYaml hMapping
  · intro s hWhole
    exact ⟨_, toValue_of_isWhole hWhole, ofValue_entries s⟩

def intEntries? : Value → Option ((String × Int) × (String × Int))
  | .dict [(.text a, .int m), (.text b, .int n)] => some ((a, m), (b, n))
  | _ => none

theorem eq_of_intEntries? {e f : String × Int} (h : intEntries? v = some (e, f)) :
    v = .dict [(.text e.1, .int e.2), (.text f.1, .int f.2)] := by
  unfold intEntries? at h
  split at h
  · cases h
    rfl
  · cases h

def zoomFiles : Files := fun name =>
  if name = "c" then some (.file "zoom: 3\ntap_hold: 7\n") else none

theorem ofValue_takes_known_zoom :
    ∃ s told, (load .ofName zoomFiles (some "c")).report = (.ok s, told) ∧
      Tells [(.text "zoom", .int 3), (.text "tap_hold", .int 7)] told ∧
      (s.fields = standard.fields.map fun f =>
        (f.1, if f.1 = "tap_hold" then .int 7 else f.2)) ∧
      (ofValue (.dict [(.text "tap_hold", .int 7)])).report.1 = .ok s := by
  have hName : Files.normalName "c" = "c" := by cbv
  have hYaml : Yaml.load "zoom: 3\ntap_hold: 7\n" =
      .ok (.dict [(.text "zoom", .int 3), (.text "tap_hold", .int 7)]) := by
    have hEntries : (Yaml.load "zoom: 3\ntap_hold: 7\n").toOption.bind intEntries? =
        some (("zoom", 3), ("tap_hold", 7)) := by decide +kernel
    obtain ⟨v, hv, hInts⟩ := Option.bind_eq_some_iff.mp hEntries
    rw [eq_ok_of_toOption hv, eq_of_intEntries? hInts]
  obtain ⟨hNamed, _, hLoad, _⟩ := ofValue_takes_known
    (v := .dict [(.text "zoom", .int 3), (.text "tap_hold", .int 7)]) rfl
  obtain ⟨s, told, hReport, hTells, hFields, hOther⟩ := hNamed (by simp [Entries.IsNamed])
  refine ⟨s, told, ?_, hTells, ?_, ?_⟩
  · rw [← hReport]
    apply hLoad .ofName zoomFiles "c" _ _ _ hYaml
    · rw [hName]
      decide
    · rw [hName]
      rfl
  · rw [hFields]
    rfl
  · apply hOther _ _ rfl
    · simp [Entries.IsNamed]
    · intro key hKey
      rw [Entries.get?_cons (.text "zoom", .int 3), if_neg]
      intro hZoom
      cases hZoom
      exact absurd hKey (by decide)

def numberFiles : Files := fun name => if name = "c" then some (.file "1: 2\n") else none

theorem number_key_refused :
    (∀ s, (ofValue (.dict [(.int 1, .int 2)])).report.1 ≠ .ok s) ∧
      ∀ s, (load .ofName numberFiles (some "c")).report.1 ≠ .ok s := by
  constructor
  · intro s hs
    cases hs
  · have hName : Files.normalName "c" = "c" := by cbv
    have hNone : (load .ofName numberFiles (some "c")).report.1.toOption.isNone = true := by
      simp only [load, hName]
      decide +kernel
    intro s hs
    rw [hs] at hNone
    cases hNone

end Settings
end TouchPath
