import TouchPath.Proofs.Param
import TouchPath.Proofs.Settings

/-! # Parameters that the settings supply

Of the parameters of a standard shape some may be missing, and are then taken from the settings. So
a shape is built as under other settings, once the parameters are completed by what the first
settings supply; what is given already counts for itself, whatever it is
(`Registry.build_completed`).
-/
namespace TouchPath
set_option autoImplicit false

theorem Entries.get?_append (es fs : Entries) (key : String) :
    Entries.get? (es ++ fs) key = (es.get? key).or (fs.get? key) := by
  rw [get?, List.find?_append, get?, get?]
  cases List.find? (fun e => e.1.text? == some key) es <;> rfl

namespace Value

variable {v w : Value} {es fs : Entries} {keys : List String}

theorem require_of_opened (h : v.opened = .dict es) (key : String) :
    v.require key = (dict es).require key := by
  have hHolds : v.holds key = (dict es).holds key := by
    rw [holds, h]
    rfl
  have hField : v.field key = (dict es).field key := by
    rw [field, h]
    rfl
  rw [require, require, hHolds, hField]

theorem fieldD_of_opened (h : v.opened = .dict es) (key : String) (default : Value) :
    v.fieldD key default = .ok ((es.get? key).getD default) := by
  rw [fieldD, h]

/-- The same answers about every entry but those under some keys. -/
structure AgreesOff (keys : List String) (v w : Value) : Prop where
  require : ∀ key, key ∉ keys → v.require key = w.require key
  fieldD : ∀ key default, key ∉ keys → v.fieldD key default = w.fieldD key default

theorem AgreesOff.refl (keys : List String) (v : Value) : v.AgreesOff keys v :=
  ⟨fun _ _ => rfl, fun _ _ _ => rfl⟩

theorem agreesOff_of_entries (hv : v.opened = .dict es) (hw : w.opened = .dict fs)
    (h : ∀ key, key ∉ keys → es.get? key = fs.get? key) : v.AgreesOff keys w where
  require key hKey := by
    rw [require_of_opened hv, require_of_opened hw, require_dict, require_dict, h key hKey]
  fieldD key default hKey := by
    rw [fieldD_of_opened hv, fieldD_of_opened hw, h key hKey]

namespace AgreesOff

variable (h : v.AgreesOff keys w) (key : String) (hKey : key ∉ keys)
include h hKey

theorem int (default : Value) : Param.int v key default = Param.int w key default := by
  have hValue : Param.valueOr v key default = Param.valueOr w key default := by
    cases default with
    | null => exact h.require key hKey
    | _ => exact h.fieldD key _ hKey
  rw [Param.int, Param.int, hValue]

theorem float : Param.float v key = Param.float w key := by
  rw [Param.float, Param.float, h.require key hKey]

theorem point : Param.point v key = Param.point w key := by
  rw [Param.point, Param.point, h.require key hKey]

theorem bounds : Param.bounds v key = Param.bounds w key := by
  rw [Param.bounds, Param.bounds, h.require key hKey]

end AgreesOff

theorem valueOr_of_some (h : v.opened = .dict es) {key : String} {x : Value}
    (hGet : es.get? key = some x) (default : Value) : Param.valueOr v key default = .ok x := by
  cases default with
  | null =>
    change v.require key = _
    rw [require_of_opened h, require_dict, hGet]
  | _ =>
    change v.fieldD key _ = _
    rw [fieldD_of_opened h, hGet]
    rfl

theorem valueOr_of_none (h : v.opened = .dict es) {key : String} (hGet : es.get? key = none)
    {default : Value} (hDefault : default ≠ .null) :
    Param.valueOr v key default = .ok default := by
  cases default with
  | null => exact absurd rfl hDefault
  | _ =>
    change v.fieldD key _ = _
    rw [fieldD_of_opened h, hGet]
    rfl

end Value

/-- The key of a parameter, and what the settings supply when it is missing. -/
abbrev Supply := String × (Settings → Value)

namespace Settings

/-- The parameters of each standard shape that may be missing. -/
def supplied : List (String × List Supply) :=
  [("circle", [("start_time", circleStart), ("duration", circleDuration), ("steps", circleSteps)]),
    ("curve", [("duration", dragDuration)]),
    ("tap", [("hold", tapHold)]),
    ("long_press", [("hold", longPressHold)]),
    ("double_tap", [("interval", doubleTapInterval), ("hold", tapHold)]),
    ("drag", [("duration", dragDuration)]),
    ("swipe", [("distance", swipeDistance), ("duration", swipeDuration)]),
    ("pinch_in", [("duration", pinchDuration)]),
    ("pinch_out", [("duration", pinchDuration)])]

def supplies (shape : String) : List Supply := (supplied.lookup shape).getD []

/-- The entries of a mapping, and behind them those that the settings supply for missing keys. -/
def complete (s : Settings) (ps : List Supply) (es : Entries) : Entries :=
  es ++ (ps.filter fun p => !es.has p.1).map fun p => (.text p.1, p.2 s)

variable {s s' : Settings} {ps : List Supply} {es : Entries} {v w : Value}

theorem get?_supplied {key : String} (h : es.get? key = none) :
    Entries.get? ((ps.filter fun p => !es.has p.1).map fun p => (.text p.1, p.2 s)) key =
      (ps.lookup key).map (· s) := by
  induction ps with
  | nil => rfl
  | cons p ps ih =>
    rw [List.lookup_cons]
    by_cases hKey : key = p.1
    · have hMissing : (!es.has p.1) = true := by simp [Entries.has, ← hKey, h]
      rw [List.filter_cons, if_pos hMissing, List.map_cons, Entries.get?_cons]
      simp [hKey, Value.text?]
    · have hOther : (key == p.1) = false := by simpa using hKey
      rw [hOther]
      dsimp only
      rw [List.filter_cons]
      split
      · rw [List.map_cons, Entries.get?_cons, if_neg]
        · exact ih
        · simpa [Value.text?] using Ne.symm hKey
      · exact ih

theorem get?_complete (s : Settings) (ps : List Supply) (es : Entries) (key : String) :
    (s.complete ps es).get? key = (es.get? key).or ((ps.lookup key).map (· s)) := by
  rw [complete, Entries.get?_append]
  cases hGet : es.get? key with
  | some x => rfl
  | none => exact get?_supplied hGet

/-- Parameters under settings that give a builder the same answers as others under others. -/
structure Matches (ps : List Supply) (s s' : Settings) (v w : Value) : Prop where
  supplied : ∀ key field, ps.lookup key = some field →
    Param.valueOr v key (field s) = Param.valueOr w key (field s')
  others : v.AgreesOff (ps.map Prod.fst) w
  denominator : s.pinchDenominator = s'.pinchDenominator

theorem Matches.int (h : Matches ps s s' v w) (key : String) {field : Settings → Value}
    (hKey : ps.lookup key = some field) :
    Param.int v key (field s) = Param.int w key (field s') := by
  rw [Param.int, Param.int, h.supplied key field hKey]

theorem lookup_eq_none_of_not_mem {key : String} (h : key ∉ ps.map Prod.fst) :
    ps.lookup key = none := by
  rw [List.lookup_eq_none_iff]
  intro p hp
  rw [bne_iff_ne]
  rintro rfl
  exact h (List.mem_map_of_mem hp)

theorem mem_of_lookup {key : String} {field : Settings → Value}
    (h : ps.lookup key = some field) : (key, field) ∈ ps := by
  obtain ⟨front, rest, rfl, _⟩ := List.lookup_eq_some_iff.mp h
  simp

/-- Parameters match what completes them, whatever the settings are then. -/
theorem matches_complete (hMapping : v.opened = .dict es)
    (hDenominator : s.pinchDenominator = s'.pinchDenominator)
    (hGiven : ∀ p ∈ ps, p.2 s ≠ .null) : Matches ps s s' v (.dict (s.complete ps es)) where
  supplied key field hKey := by
    have hComplete := get?_complete s ps es key
    cases hGet : es.get? key with
    | some x =>
      rw [hGet, Option.some_or] at hComplete
      rw [Value.valueOr_of_some hMapping hGet, Value.valueOr_of_some rfl hComplete]
    | none =>
      rw [hGet, Option.none_or, hKey] at hComplete
      rw [Value.valueOr_of_none hMapping hGet (hGiven _ (mem_of_lookup hKey)),
        Value.valueOr_of_some rfl hComplete]
  others := by
    apply Value.agreesOff_of_entries hMapping rfl
    intro key hKey
    rw [get?_complete, lookup_eq_none_of_not_mem hKey, Option.map_none, Option.or_none]
  denominator := hDenominator

/-- Settings match others that supply the same for what is missing. -/
theorem matches_of_missing (hMapping : v.opened = .dict es)
    (hDenominator : s.pinchDenominator = s'.pinchDenominator)
    (hMissing : ∀ p ∈ ps, es.get? p.1 = none → p.2 s = p.2 s') : Matches ps s s' v v where
  supplied key field hKey := by
    cases hGet : es.get? key with
    | some x => rw [Value.valueOr_of_some hMapping hGet, Value.valueOr_of_some hMapping hGet]
    | none =>
      have hSame : field s = field s' := hMissing _ (mem_of_lookup hKey) hGet
      rw [hSame]
  others := .refl _ v
  denominator := hDenominator

end Settings

namespace Builder

/-- Besides the supplied parameters, a builder takes nothing from the settings but the denominator
of pinches. -/
def Reads (b : Builder) (ps : List Supply) : Prop :=
  ∀ s s' v w, Settings.Matches ps s s' v w → b v s = b w s'

variable {ps : List Supply}

theorem reads_ofTimeline {build : Value → Settings → Except Fault Timeline}
    (h : ∀ s s' v w, Settings.Matches ps s s' v w → build v s = build w s') :
    (ofTimeline build).Reads ps := by
  intro s s' v w hMatches
  rw [ofTimeline, ofTimeline, h s s' v w hMatches]

theorem reads_circle : circle.Reads [("start_time", Settings.circleStart),
    ("duration", Settings.circleDuration), ("steps", Settings.circleSteps)] := by
  apply reads_ofTimeline
  intro s s' v w h
  rw [h.others.point "center" (by simp), h.others.float "radius" (by simp),
    h.int "start_time" rfl, h.int "duration" rfl, h.int "steps" rfl]

theorem reads_curve : curve.Reads [("duration", Settings.dragDuration)] := by
  apply reads_ofTimeline
  intro s s' v w h
  rw [h.others.int "start_time" (by simp), h.int "duration" rfl,
    h.others.point "start" (by simp), h.others.point "end" (by simp),
    h.others.float "angle" (by simp), h.others.fieldD "positive" _ (by simp)]

theorem reads_tapHolding (hold : Settings → Value) : (tapHolding hold).Reads [("hold", hold)] := by
  apply reads_ofTimeline
  intro s s' v w h
  rw [h.others.point "point" (by simp), h.int "hold" rfl, h.others.int "start_time" (by simp)]

theorem reads_doubleTap : doubleTap.Reads [("interval", Settings.doubleTapInterval),
    ("hold", Settings.tapHold)] := by
  intro s s' v w h
  rw [doubleTap, doubleTap, h.others.point "point" (by simp), h.int "interval" rfl,
    h.int "hold" rfl]

theorem reads_drag : drag.Reads [("duration", Settings.dragDuration)] := by
  apply reads_ofTimeline
  intro s s' v w h
  rw [h.others.point "start" (by simp), h.others.point "end" (by simp), h.int "duration" rfl,
    h.others.int "start_time" (by simp)]

theorem reads_swipe : swipe.Reads [("distance", Settings.swipeDistance),
    ("duration", Settings.swipeDuration)] := by
  apply reads_ofTimeline
  intro s s' v w h
  rw [h.others.point "resolution" (by simp), h.others.point "point" (by simp),
    h.others.require "direction" (by simp), h.int "distance" rfl, h.int "duration" rfl]

theorem reads_pinchIn : pinchIn.Reads [("duration", Settings.pinchDuration)] := by
  intro s s' v w h
  rw [pinchIn, pinchIn, h.others.bounds "bounds" (by simp), h.int "duration" rfl, h.denominator]

theorem reads_pinchOut : pinchOut.Reads [("duration", Settings.pinchDuration)] := by
  intro s s' v w h
  rw [pinchOut, pinchOut, h.others.bounds "bounds" (by simp), h.int "duration" rfl]

theorem standard_read :
    List.Forall₂ (fun b ps => b.1 = ps.1 ∧ b.2.Reads ps.2) standard Settings.supplied := by
  unfold standard Settings.supplied
  refine .cons ⟨rfl, reads_circle⟩ <| .cons ⟨rfl, reads_curve⟩ <| .cons ⟨rfl, reads_tapHolding _⟩ <|
    .cons ⟨rfl, reads_tapHolding _⟩ <| .cons ⟨rfl, reads_doubleTap⟩ <| .cons ⟨rfl, reads_drag⟩ <|
    .cons ⟨rfl, reads_swipe⟩ <| .cons ⟨rfl, reads_pinchIn⟩ <| .cons ⟨rfl, reads_pinchOut⟩ .nil

end Builder

namespace Registry

variable {s s' : Settings} {v w : Value} {es fs : Entries} {key : String}

theorem truthy_or_empty_of_opened (h : v.opened = .dict es) :
    (if v.truthy then v else .dict []) = v := by
  cases hTruthy : v.truthy with
  | true => rfl
  | false => exact (Settings.isDict_of_not_truthy h hTruthy).symm

theorem build_of_lookup (h : v.opened = .dict es) {b : Builder}
    (hb : Builder.standard.lookup key = some b) :
    (standard s).build key v = b v s := by
  have hLookup : (standard s).builders.lookup key = some b := hb
  rw [build, hLookup, truthy_or_empty_of_opened h]
  rfl

theorem build_of_matches (hv : v.opened = .dict es) (hw : w.opened = .dict fs)
    (h : Settings.Matches (Settings.supplies key) s s' v w) :
    (standard s).build key v = (standard s').build key w := by
  cases hb : Builder.standard.lookup key with
  | none =>
    have hLookup (t : Settings) : (standard t).builders.lookup key = none := hb
    rw [build, build, hLookup, hLookup]
    rfl
  | some b =>
    obtain ⟨ps, hps, hReads⟩ := lookup_of_forall₂ Builder.standard_read hb
    rw [Settings.supplies, hps, Option.getD_some] at h
    rw [build_of_lookup hv hb, build_of_lookup hw hb]
    exact hReads _ _ _ _ h

/-- A standard shape is built as under other settings of the same denominator, its missing
parameters completed by what the first ones supply; and settings that differ only in what they
supply for given parameters build the same. -/
theorem build_completed (hMapping : v.opened = .dict es)
    (hDenominator : s.pinchDenominator = s'.pinchDenominator) :
    ((∀ p ∈ Settings.supplies key, p.2 s ≠ .null) →
      (standard s).build key v =
        (standard s').build key (.dict (s.complete (Settings.supplies key) es))) ∧
    ((∀ p ∈ Settings.supplies key, es.get? p.1 = none → p.2 s = p.2 s') →
      (standard s).build key v = (standard s').build key v) := by
  constructor
  · intro hGiven
    exact build_of_matches hMapping rfl (Settings.matches_complete hMapping hDenominator hGiven)
  · intro hMissing
    exact build_of_matches hMapping hMapping
      (Settings.matches_of_missing hMapping hDenominator hMissing)

/-- A given interval of zero is kept, and the hold is supplied. -/
theorem build_completed_doubleTap :
    (standard { tapHold := .int 30, doubleTapInterval := .int 99 }).build "double_tap"
        (.dict [(.text "interval", .int 0), (.text "point", .list [.int 1, .int 2])]) =
      (standard .standard).build "double_tap"
        (.dict [(.text "interval", .int 0), (.text "point", .list [.int 1, .int 2]),
          (.text "hold", .int 30)]) ∧
    (standard .standard).build "double_tap"
        (.dict [(.text "interval", .int 0), (.text "point", .list [.int 1, .int 2]),
          (.text "hold", .int 30)]) =
      .ok (List.replicate 2
        (⟨[⟨.int 1, .int 2, .int 0⟩, ⟨.int 1, .int 2, .int 30⟩]⟩)) ∧
    (standard { tapHold := .int 30, doubleTapInterval := .int 99 }).build "double_tap"
        (.dict [(.text "interval", .int 0), (.text "hold", .text "long")]) =
      (standard .standard).build "double_tap"
        (.dict [(.text "interval", .int 0), (.text "hold", .text "long")]) := by
  have hSupplies : Settings.supplies "double_tap" =
      [("interval", Settings.doubleTapInterval), ("hold", Settings.tapHold)] := rfl
  have hCompleted := (@build_completed { tapHold := .int 30, doubleTapInterval := .int 99 }
    .standard (.dict [(.text "interval", .int 0), (.text "point", .list [.int 1, .int 2])]) _
    "double_tap" rfl rfl).1
  refine ⟨hCompleted ?_, rfl, (build_completed rfl rfl).2 ?_⟩
  · rw [hSupplies, List.forall_mem_cons, List.forall_mem_singleton]
    exact ⟨nofun, nofun⟩
  · rw [hSupplies, List.forall_mem_cons, List.forall_mem_singleton]
    exact ⟨nofun, nofun⟩

end Registry
end TouchPath
