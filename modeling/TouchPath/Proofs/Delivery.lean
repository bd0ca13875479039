import TouchPath.Proofs.Finger
import TouchPath.Proofs.JsonText
import TouchPath.Proofs.Report

/-! # Touches delivered as JSON

A script that is compiled from the command line leaves its touch as JSON, on the terminal or in one
file. Whatever the settings say about continuity, the fingers are continuous, so the text is read
back with the check (`Cli.compile_delivers`). Where there is no touch, no file is written.
-/
namespace TouchPath
set_option autoImplicit false

variable {ofKind : Float → Prop}

theorem Segment.IsWhole.isPlain {s : Segment} (h : s.IsWhole) : s.toValue.IsPlain ofKind := by
  have hFields := @Value.isPlain_dict ofKind [("start_x", .int s.start.x),
    ("start_y", .int s.start.y), ("end_x", .int s.stop.x), ("end_y", .int s.stop.y),
    ("execution_time", .int s.millis)]
    ["start_x", "start_y", "end_x", "end_y", "execution_time"] rfl (by decide) (by decide)
  rw [toValue, h.time_eq]
  apply hFields
  intro f hf
  simp only [List.mem_cons, List.not_mem_nil, or_false] at hf
  rcases hf with rfl | rfl | rfl | rfl | rfl <;> exact .int _

theorem Path.IsSound.isPlain {p : Path} (h : p.IsSound) : p.toValue.IsPlain ofKind := by
  obtain ⟨offset, hOffset⟩ := h.offset
  have hFields := @Value.isPlain_dict ofKind [("start_offset", .int offset),
    ("segments", .list (p.segments.map Segment.toValue))]
    ["start_offset", "segments"] rfl (by decide) (by decide)
  rw [toValue, hOffset]
  apply hFields
  rw [List.forall_mem_cons, List.forall_mem_singleton]
  refine ⟨.int offset, .list ?_⟩
  rw [List.forall_mem_map]
  exact fun s hs => (h.whole s hs).isPlain

theorem Touch.isPlain {t : Touch} (h : ∀ p ∈ t.fingers, p.IsSound) : t.toValue.IsPlain ofKind := by
  have hFields := @Value.isPlain_dict ofKind [("fingers", .list (t.fingers.map Path.toValue))]
    ["fingers"] rfl (by decide) (by decide)
  apply hFields
  rw [List.forall_mem_singleton]
  apply Value.IsPlain.list
  rw [List.forall_mem_map]
  exact fun p hp => (h p hp).isPlain

namespace Script

theorem registry_of_ofValue {v : Value} {settings : Settings} {s : Script}
    (h : ofValue v (some (.standard settings)) = .ok s) : s.registry = .standard settings := by
  obtain ⟨given, _, h⟩ := bind_eq_ok_iff.mp h
  split at h
  · obtain ⟨steps, _, h⟩ := bind_eq_ok_iff.mp h
    cases h
    rfl
  · cases h

/-- A script that is loaded runs on the standard shapes, under the settings. -/
theorem registry_of_load {words : Yaml.Wording} {files : Files} {path : String}
    {settings : Settings} {s : Script} (h : (load words files path settings).report.1 = .ok s) :
    s.registry = .standard settings := by
  rw [load, Reported.report_bind _ fun text => Cli.isSteady_ofText words path text settings,
    Reported.report_lift, bind_eq_ok_iff] at h
  obtain ⟨text, _, h⟩ := h
  unfold ofText at h
  split at h
  · cases h
  · cases h
  · split at h
    · exact registry_of_ofValue h
    · exact registry_of_ofValue h
    · cases h

theorem compilesTo_of_load {words : Yaml.Wording} {files : Files} {path : String}
    {settings : Settings} {s : Script} {touch : Touch}
    (hLoaded : (load words files path settings).report.1 = .ok s)
    (h : s.compile.report.1 = .ok touch) : ∀ p ∈ touch.fingers, ∃ t : Timeline, t.CompilesTo p := by
  have hRegistry := registry_of_load hLoaded
  obtain ⟨steps, registry⟩ := s
  cases hRegistry
  exact compilesTo_of_compile? ((compile_report_standard settings steps).symm.trans h)

end Script

namespace Cli

/-- The files after a command: it may have written one of them. -/
def Outcome.filesAfter (files : Files) : Outcome → Files
  | .done _ (some (name, text)) => fun path => if path = name then some (.file text) else files path
  | _ => files

inductive Delivered (touch : Touch) (text : String) : Option String → Outcome → Prop where
  | printed {output : Option String} (hNone : output.getD "" = "") :
      Delivered touch text output (.done (text ++ "\n") none)
  | written {name : String} (hName : name ≠ "") :
      Delivered touch text (some name)
        (.done s!"Wrote {touch.fingers.length} finger(s) to {name}\n"
          (some (Files.normalName name, text)))

section

variable {real : Float → String} {words : Yaml.Wording} {files : Files}

theorem delivered_of_deliver {touch : Touch} {output : Option String} {outcome : Outcome}
    (h : (deliver real files touch output).report.1 = .ok outcome) :
    ∃ text, Json.write real touch.toValue = .ok text ∧ Delivered touch text output outcome := by
  rw [deliver_result, bind_eq_ok_iff] at h
  obtain ⟨text, hText, h⟩ := h
  refine ⟨text, hText, ?_⟩
  split at h
  · cases h
    exact .printed rfl
  · cases h
    exact .printed rfl
  · rename_i name hName
    obtain ⟨_, _, hDone⟩ := bind_eq_ok_iff.mp h
    cases hDone
    exact .written hName

theorem deliver_written {touch : Touch} {text name : String}
    (hText : Json.write real touch.toValue = .ok text) (hName : name ≠ "")
    (hCheck : files.checkWrite (Files.normalName name) = .ok ()) :
    (deliver real files touch (some name)).report.1 =
      .ok (.done s!"Wrote {touch.fingers.length} finger(s) to {name}\n"
        (some (Files.normalName name, text))) := by
  rw [deliver_result, hText, ok_bind]
  split
  · rename_i hNone
    cases hNone
  · rename_i hEmpty
    exact absurd (Option.some.inj hEmpty) hName
  · rename_i other _ hSome
    cases hSome
    rw [hCheck, ok_bind]

/-- How compiling a script ends: the touch of the script goes out, or nothing does. -/
inductive CompileEnds (real : Float → String) (words : Yaml.Wording) (files : Files)
    (script : String) (output settings : Option String) : Outcome → Prop where
  | delivered {s : Settings} {loaded : Script} {touch : Touch} {text : String} {outcome : Outcome}
      (hScript : files.has (Files.normalName script) = .ok true)
      (hSettings : (Settings.load words files settings).report.1 = .ok s)
      (hLoaded : (Script.load words files (Files.normalName script) s).report.1 = .ok loaded)
      (hTouch : loaded.compile.report.1 = .ok touch)
      (hText : Json.write real touch.toValue = .ok text)
      (hDelivered : Delivered touch text output outcome) :
      CompileEnds real words files script output settings outcome
  | failed (report : String) :
      CompileEnds real words files script output settings (.failed report)
  | escaped (f : Fault) : CompileEnds real words files script output settings (.escaped f)

theorem compileEnds_run {args : List String} {script : String} {output settings : Option String}
    (hArgs : Command.parse? args = some (.run (.compile script output settings))) :
    CompileEnds real words files script output settings (run real words files args).1 := by
  rw [run_of_parse real words files hArgs, script_result]
  cases hHas : files.has (Files.normalName script) with
  | error f => exact .escaped f
  | ok found =>
    cases found with
    | false => exact .failed _
    | true =>
      dsimp only
      cases hCompile : (compileScript words files script settings).report.1 with
      | error f =>
        dsimp only
        rw [report_result]
        cases f.family?.isSome with
        | false => exact .escaped f
        | true => exact .failed _
      | ok touch =>
        obtain ⟨s, loaded, hSettings, hLoaded, hTouch⟩ :=
          (compileScript_eq_ok_iff words files).mp hCompile
        dsimp only
        cases hDeliver : (deliver real files touch output).report.1 with
        | error f => exact .escaped f
        | ok outcome =>
          obtain ⟨text, hText, hDelivered⟩ := delivered_of_deliver hDeliver
          exact .delivered hHas hSettings hLoaded hTouch hText hDelivered

/-- No script stops on the way to its touch and has one. -/
theorem not_scriptStops {script : String} {settings : Option String} {s : Settings}
    {loaded : Script} {touch : Touch}
    (hSettings : (Settings.load words files settings).report.1 = .ok s)
    (hLoaded : (Script.load words files (Files.normalName script) s).report.1 = .ok loaded)
    (hTouch : loaded.compile.report.1 = .ok touch) (f : Fault) :
    ¬ ScriptStops words files script settings f := by
  intro hStops
  have hOk := (compileScript_eq_ok_iff words files).mpr ⟨s, loaded, hSettings, hLoaded, hTouch⟩
  cases hOk.symm.trans ((compileScript_eq_error_iff words files).mpr hStops)

/-- What goes out of a script is its touch, which is read back with the check. -/
theorem compile_delivers {read : String → Option Value} (hRead : Json.ReadsBack real read)
    {args : List String} {script : String} {output settings : Option String}
    (hArgs : Command.parse? args = some (.run (.compile script output settings))) :
    ((run real words files args).1.exitCode = 0 → ∃ s loaded touch text v,
      (Settings.load words files settings).report.1 = .ok s ∧
      (Script.load words files (Files.normalName script) s).report.1 = .ok loaded ∧
      loaded.compile.report.1 = .ok touch ∧
      Json.write real touch.toValue = .ok text ∧
      Delivered touch text output (run real words files args).1 ∧
      read text = some v ∧ Touch.ofValue v true = .ok (touch.rechecked true)) ∧
    ((files.has (Files.normalName script) ≠ .ok true ∨
        ∃ f, ScriptStops words files script settings f) →
      (run real words files args).1.exitCode ≠ 0 ∧
        (run real words files args).1.filesAfter files = files) := by
  have hEnds := @compileEnds_run real words files args script output settings hArgs
  generalize (run real words files args).1 = outcome at hEnds ⊢
  cases hEnds with
  | failed => exact ⟨nofun, fun _ => ⟨nofun, rfl⟩⟩
  | escaped => exact ⟨nofun, fun _ => ⟨nofun, rfl⟩⟩
  | @delivered s loaded touch text _ hScript hSettings hLoaded hTouch hText hDelivered =>
    have hFingers := Script.compilesTo_of_load hLoaded hTouch
    have hSound : ∀ p ∈ touch.fingers, p.IsSound := by
      intro p hp
      obtain ⟨_, hCompiles⟩ := hFingers p hp
      exact hCompiles.sound
    have hContinuous : ∀ p ∈ touch.fingers, p.isContinuous = true := by
      intro p hp
      obtain ⟨_, hCompiles⟩ := hFingers p hp
      exact hCompiles.continuous
    refine ⟨fun _ => ⟨s, loaded, touch, text, _, hSettings, hLoaded, hTouch, hText, hDelivered,
      hRead _ _ (Touch.isPlain hSound) hText,
      Touch.ofValue_toValue_of_continuous hSound fun _ => hContinuous⟩, ?_⟩
    rintro (hMissing | ⟨f, hStops⟩)
    · exact absurd hScript hMissing
    · exact absurd hStops (not_scriptStops hSettings hLoaded hTouch f)

end

def dragFiles : Files := fun name =>
  if name = "s" then some (.file "fingers: [\x7bshape: drag, start: [1, 2], end: [5, 8]\x7d]")
  else if name = "c" then some (.file "check_continuity: false")
  else if name = "." then some .directory
  else none

theorem compile_delivers_drag :
    ∃ s loaded touch text v,
      (Settings.load .ofName dragFiles (some "c")).report.1 = .ok s ∧
      (Script.load .ofName dragFiles "s" s).report.1 = .ok loaded ∧
      loaded.compile.report.1 = .ok touch ∧
      Delivered touch text (some "out")
        (run Json.floatText .ofName dragFiles ["compile", "s", "--config", "c", "-o", "out"]).1 ∧
      Json.read? text = some v ∧ Touch.ofValue v true = .ok (touch.rechecked true) := by
  have hArgs : Command.parse? ["compile", "s", "--config", "c", "-o", "out"] =
      some (.run (.compile "s" (some "out") (some "c"))) := by cbv
  have hScript : Files.normalName "s" = "s" := by cbv
  have hSettings : Files.normalName "c" = "c" := by cbv
  have hName : Files.normalName "out" = "out" := by cbv
  have hDirectory : Files.directoryOf "out" = "." := by cbv
  have hGood : (do
      let touch ← (compileScript .ofName dragFiles "s" (some "c")).report.1
      return touch.toValue.writable).toOption = some true := by
    simp only [compileScript, Settings.load, hScript, hSettings]
    decide +kernel
  obtain ⟨touch, hTouch, hWritable⟩ := bind_eq_ok_iff.mp (eq_ok_of_toOption hGood)
  have hCheck : dragFiles.checkWrite (Files.normalName "out") = .ok () := by
    rw [hName, Files.checkWrite, hDirectory]
    rfl
  have hCode : (run Json.floatText .ofName dragFiles
      ["compile", "s", "--config", "c", "-o", "out"]).1.exitCode = 0 := by
    have hHas : dragFiles.has "s" = .ok true := rfl
    have hText : Json.write Json.floatText touch.toValue = .ok _ :=
      if_pos (Except.ok.inj hWritable)
    rw [run_of_parse _ _ _ hArgs, script_result, hScript, hHas, hTouch]
    dsimp only
    rw [deliver_written hText (by decide) hCheck]
    rfl
  obtain ⟨s, loaded, touch, text, v, hSettings, hLoaded, hTouch, _, hDelivered, hRead⟩ :=
    (compile_delivers (Json.readsBack Json.floatText) hArgs).1 hCode
  rw [hScript] at hLoaded
  exact ⟨s, loaded, touch, text, v, hSettings, hLoaded, hTouch, hDelivered, hRead⟩

end Cli
end TouchPath
