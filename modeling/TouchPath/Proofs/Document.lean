import TouchPath.Proofs.Settings

/-! # The top level of documents

A script is read from a document that is null or a mapping, and from no other. Settings are read
from a mapping too, but any document that counts as false stands for the standard ones: besides
null, these are false, zero and whatever is empty. So the two readers differ on just these
documents (`documents_checked`).
-/
namespace TouchPath
set_option autoImplicit false

namespace Value

/-- Nothing, or a mapping. -/
def IsTop (v : Value) : Prop := v.opened = .null ∨ ∃ es, v.opened = .dict es

/-- Counting as false without being null or a mapping. -/
inductive IsBlank : Value → Prop where
  | no : IsBlank (.bool false)
  | int : IsBlank (.int 0)
  | float {x : Float} (hZero : (x != 0) = false) : IsBlank (.float x)
  | text {s : String} (hEmpty : s.isEmpty = true) : IsBlank (.text s)
  | list : IsBlank (.list [])
  | bytes : IsBlank (.bytes [])
  | set : IsBlank (.set [])

theorem isBlank_iff {v : Value} : v.IsBlank ↔ v.truthy = false ∧ ¬v.IsTop := by
  constructor
  · rintro (_ | _ | hZero | hEmpty | _ | _ | _)
    case float => exact ⟨hZero, by simp [IsTop, opened]⟩
    case text => exact ⟨by simp [truthy, hEmpty], by simp [IsTop, opened]⟩
    all_goals exact ⟨rfl, by simp [IsTop, opened]⟩
  · rintro ⟨hFalse, hTop⟩
    cases v with
    | null => exact absurd (.inl rfl) hTop
    | bool b =>
      cases b with
      | false => exact .no
      | true => cases hFalse
    | int n =>
      rw [truthy, bne_eq_false_iff_eq] at hFalse
      rw [hFalse]
      exact .int
    | float x => exact .float hFalse
    | text s =>
      rw [truthy, Bool.not_eq_false'] at hFalse
      exact .text hFalse
    | list items =>
      cases items with
      | nil => exact .list
      | cons => cases hFalse
    | dict entries => exact absurd (.inr ⟨entries, rfl⟩) hTop
    | bytes bs =>
      cases bs with
      | nil => exact .bytes
      | cons => cases hFalse
    | set items =>
      cases items with
      | nil => exact .set
      | cons => cases hFalse
    | _ => cases hFalse

end Value

/-- A fault about the top level of a document. -/
inductive Fault.AtTop : Fault → Prop where
  | settings (path : String) : AtTop (.settingsNotMapping path)
  | script (path : String) : AtTop (.scriptNotMapping path)

theorem Fault.AtTop.family {f : Fault} (h : f.AtTop) : f.family? = some .argument := by
  cases h <;> rfl

/-- A document is refused for what it is at its top level. -/
def Refuses {α : Type} (r : Except Fault α) : Prop := ∃ f, r = .error f ∧ f.AtTop

theorem not_refuses_ok {α : Type} (a : α) : ¬Refuses (.ok a : Except Fault α) := by
  rintro ⟨_, h, _⟩
  cases h

theorem not_refuses_error {α : Type} {f : Fault} (h : f.family? = none) :
    ¬Refuses (.error f : Except Fault α) := by
  rintro ⟨g, hg, hTop⟩
  cases hg
  cases h.symm.trans hTop.family

section

variable {words : Yaml.Wording} {files : Files} {given path text : String} {v : Value}
  {settings : Settings}

namespace Settings

theorem ofText_of_not_truthy (hYaml : Yaml.load text = .ok v) (h : v.truthy = false) :
    (ofText words path text).report = (.ok .standard, []) := by
  rw [ofText, hYaml]
  dsimp only
  rw [h, Bool.not_false, if_pos rfl]
  rfl

theorem ofText_of_not_mapping (hYaml : Yaml.load text = .ok v) (hTrue : v.truthy = true)
    (h : ¬∃ es, v.opened = .dict es) :
    (ofText words path text).report = (.error (.settingsNotMapping path), []) := by
  rw [ofText, hYaml]
  dsimp only
  rw [hTrue, Bool.not_true, if_neg Bool.false_ne_true]
  split
  · rename_i es hOpened
    exact absurd ⟨es, hOpened⟩ h
  · rfl

theorem not_refuses_ofValue {es : Entries} (h : v.opened = .dict es) :
    ¬Refuses (ofValue v).report.1 := by
  by_cases hNamed : es.IsNamed
  · obtain ⟨told, _, hReport⟩ := ofValue_of_isNamed h hNamed
    rw [hReport]
    exact not_refuses_ok _
  · rw [ofValue_of_not_isNamed h hNamed]
    exact not_refuses_error rfl

theorem refuses_ofText_iff (hYaml : Yaml.load text = .ok v) :
    Refuses (ofText words path text).report.1 ↔ v.truthy = true ∧ ¬∃ es, v.opened = .dict es := by
  cases hTruthy : v.truthy with
  | false =>
    rw [ofText_of_not_truthy hYaml hTruthy]
    exact ⟨fun h => absurd h (not_refuses_ok _), nofun⟩
  | true =>
    by_cases hMapping : ∃ es, v.opened = .dict es
    · obtain ⟨es, hOpened⟩ := hMapping
      rw [ofText_of_mapping hYaml hOpened]
      exact ⟨fun h => absurd h (not_refuses_ofValue hOpened), fun h => absurd ⟨es, hOpened⟩ h.2⟩
    · rw [ofText_of_not_mapping hYaml hTruthy hMapping]
      exact ⟨fun _ => ⟨rfl, hMapping⟩, fun _ => ⟨_, rfl, .settings path⟩⟩

end Settings

namespace Script

theorem load_of_read (h : files.read path = .ok text) :
    (load words files path settings).report = (ofText words path text settings).report := by
  simp only [Reported.report_eq_after, load, Reported.after_bind, Reported.after_lift, h]

theorem not_refuses_fail {α : Type} {f : Fault} (h : ¬f.AtTop) :
    ¬Refuses (fail f : Except Fault α) := by
  rintro ⟨g, hg, hTop⟩
  cases hg
  rcases f.raised_eq_or with hRaised | hRaised
  · rw [hRaised] at hTop
    exact h hTop
  · rw [hRaised] at hTop
    cases hTop

theorem not_refuses_step (v : Value) : ¬Refuses (Step.ofValue v) := by
  unfold Step.ofValue
  split
  · split
    · exact not_refuses_ok _
    · exact not_refuses_fail nofun
  · exact not_refuses_fail nofun

theorem not_refuses_ofValue (v : Value) (registry : Option Registry) :
    ¬Refuses (ofValue v registry) := by
  rintro ⟨f, hFault, hTop⟩
  rcases bind_eq_error_iff.mp hFault with hField | ⟨given, _, hFault⟩
  · unfold Value.fieldD at hField
    split at hField
    · cases hField
    · cases hField
      cases hTop
  · split at hFault
    · rcases bind_eq_error_iff.mp hFault with hSteps | ⟨steps, _, hFault⟩
      · obtain ⟨_, item, _, _, _, hItem⟩ := mapM_eq_error_iff.mp hSteps
        exact not_refuses_step item ⟨f, hItem, hTop⟩
      · cases hFault
    · have hList : ¬Refuses (fail .fingersNotList : Except Fault Script) := not_refuses_fail nofun
      exact hList ⟨f, hFault, hTop⟩

theorem ofText_of_isTop (hYaml : Yaml.load text = .ok v) (h : v.IsTop) :
    (ofText words path text settings).report = (ofValue v (some (.standard settings)), []) := by
  rw [ofText, hYaml]
  rcases h with hOpened | ⟨es, hOpened⟩ <;> dsimp only <;> rw [hOpened] <;>
    exact Reported.after_lift _ _

theorem ofText_of_not_isTop (hYaml : Yaml.load text = .ok v) (h : ¬v.IsTop) :
    (ofText words path text settings).report =
      (.error (.scriptNotMapping path), [.scriptNotMapping path]) := by
  rw [ofText, hYaml]
  dsimp only
  split
  · rename_i hOpened
    exact absurd (.inl hOpened) h
  · rename_i es hOpened
    exact absurd (.inr ⟨es, hOpened⟩) h
  · rfl

theorem refuses_ofText_iff (hYaml : Yaml.load text = .ok v) :
    Refuses (ofText words path text settings).report.1 ↔ ¬v.IsTop := by
  by_cases hTop : v.IsTop
  · rw [ofText_of_isTop hYaml hTop]
    exact ⟨fun h => absurd h (not_refuses_ofValue _ _), fun h => absurd hTop h⟩
  · rw [ofText_of_not_isTop hYaml hTop]
    exact ⟨fun _ => hTop, fun _ => ⟨_, rfl, .script path⟩⟩

end Script

/-- A script refuses every document but null and mappings, with a warning. Settings refuse those of
them that count as true; the others, which are false, zero or empty, give the standard settings. -/
theorem documents_checked (hSettings : files.read (Files.normalName given) = .ok text)
    (hScript : files.read path = .ok text) (hYaml : Yaml.load text = .ok v) :
    (Refuses (Script.load words files path settings).report.1 ↔ ¬v.IsTop) ∧
    (Refuses (Settings.load words files (some given)).report.1 ↔
      v.truthy = true ∧ ¬∃ es, v.opened = .dict es) ∧
    (¬v.IsTop →
      (Script.load words files path settings).report =
        (.error (.scriptNotMapping path), [.scriptNotMapping path]) ∧
      (v.truthy = true → (Settings.load words files (some given)).report =
        (.error (.settingsNotMapping (Files.normalName given)), []))) ∧
    (v.IsBlank ↔ Refuses (Script.load words files path settings).report.1 ∧
      (Settings.load words files (some given)).report = (.ok .standard, [])) ∧
    ∀ f : Fault, f.AtTop → f.family? = some .argument := by
  rw [Settings.load_of_read hSettings, Script.load_of_read hScript]
  have hNotMapping (hTop : ¬v.IsTop) : ¬∃ es, v.opened = .dict es := fun h => hTop (.inr h)
  refine ⟨Script.refuses_ofText_iff hYaml, Settings.refuses_ofText_iff hYaml, ?_, ?_,
    fun f => Fault.AtTop.family⟩
  · intro hTop
    exact ⟨Script.ofText_of_not_isTop hYaml hTop,
      fun hTrue => Settings.ofText_of_not_mapping hYaml hTrue (hNotMapping hTop)⟩
  · rw [Script.refuses_ofText_iff hYaml, Value.isBlank_iff]
    constructor
    · rintro ⟨hFalse, hTop⟩
      exact ⟨hTop, Settings.ofText_of_not_truthy hYaml hFalse⟩
    · rintro ⟨hTop, hReport⟩
      refine ⟨?_, hTop⟩
      rw [← Bool.not_eq_true]
      intro hTrue
      rw [Settings.ofText_of_not_mapping hYaml hTrue (hNotMapping hTop)] at hReport
      cases hReport

end

theorem Yaml.load_eq_text {text s : String}
    (h : (load text).toOption.bind Value.text? = some s) : load text = .ok (.text s) := by
  obtain ⟨v, hv, hText⟩ := Option.bind_eq_some_iff.mp h
  rw [eq_ok_of_toOption hv]
  cases v with
  | text t => cases hText; rfl
  | _ => cases hText

def Files.single (name text : String) : Files :=
  fun path => if path = name then some (.file text) else none

theorem documents_checked_text :
    (Files.single "c" "x\n").read "c" = .ok "x\n" ∧ Yaml.load "x\n" = .ok (.text "x") ∧
      Refuses (Script.load .ofName (Files.single "c" "x\n") "c" .standard).report.1 ∧
      Refuses (Settings.load .ofName (Files.single "c" "x\n") (some "c")).report.1 := by
  have hName : Files.normalName "c" = "c" := by cbv
  have hRead : (Files.single "c" "x\n").read "c" = .ok "x\n" := rfl
  have hGiven : (Files.single "c" "x\n").read (Files.normalName "c") = .ok "x\n" := by
    rw [hName]
    rfl
  have hYaml : Yaml.load "x\n" = .ok (.text "x") := Yaml.load_eq_text (by decide +kernel)
  obtain ⟨hScript, hSettings, _⟩ :=
    @documents_checked .ofName _ _ _ _ _ .standard hGiven hRead hYaml
  refine ⟨hRead, hYaml, hScript.mpr ?_, hSettings.mpr ⟨rfl, ?_⟩⟩
  · rintro (hOpened | ⟨_, hOpened⟩) <;> cases hOpened
  · rintro ⟨_, hOpened⟩
    cases hOpened

/-- An empty text gives the standard settings, though it is neither null nor a mapping. -/
theorem Settings.empty_text_accepted :
    Yaml.load "''\n" = .ok (.text "") ∧ ¬(Value.text "").IsTop ∧
      (load .ofName (Files.single "c" "''\n") (some "c")).report = (.ok .standard, []) := by
  have hName : Files.normalName "c" = "c" := by cbv
  have hRead : (Files.single "c" "''\n").read (Files.normalName "c") = .ok "''\n" := by
    rw [hName]
    rfl
  have hYaml : Yaml.load "''\n" = .ok (.text "") := Yaml.load_eq_text (by decide +kernel)
  refine ⟨hYaml, ?_, ?_⟩
  · rintro (hOpened | ⟨_, hOpened⟩) <;> cases hOpened
  · rw [load_of_read hRead]
    exact ofText_of_not_truthy hYaml rfl

end TouchPath
