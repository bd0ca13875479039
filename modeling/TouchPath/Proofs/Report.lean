import TouchPath.Cli.Run
import TouchPath.Proofs.Traversal

/-! # Which faults of a command are reported

A command that draws one timeline loads settings, makes the timeline and may compile it. A fault
with a message is reported when it comes from making the timeline, from the text of a rectangle or
from compiling a script; one from the settings of a drawing command or from the compilation of its
timeline escapes. No other fault with a message leaves a command.
-/
namespace TouchPath.Cli
set_option autoImplicit false

theorem nameless_intToFloat (n : Int) : Nameless (intToFloat n) := by
  unfold intToFloat
  dsimp only
  split
  · exact nameless_error rfl
  · exact nameless_ok _

theorem nameless_numberToFloat (a : Number) : Nameless a.toFloat := by
  cases a with
  | int n => exact nameless_intToFloat n
  | float x => exact nameless_ok x

theorem nameless_add (a b : Number) : Nameless (a.add b) := by
  unfold Number.add
  split
  · exact nameless_ok _
  · exact (nameless_numberToFloat a).bind fun _ => (nameless_numberToFloat b).bind fun _ =>
      nameless_ok _

theorem nameless_sub (a b : Number) : Nameless (a.sub b) := by
  unfold Number.sub
  split
  · exact nameless_ok _
  · exact (nameless_numberToFloat a).bind fun _ => (nameless_numberToFloat b).bind fun _ =>
      nameless_ok _

theorem nameless_toNumber (v : Value) : Nameless v.toNumber := by
  unfold Value.toNumber
  split
  · exact nameless_ok _
  · exact nameless_error rfl

theorem nameless_swipeEnd (p : Point) (direction : Direction) (width height : Int)
    (distance : Number) : Nameless (swipeEnd p direction width height distance) := by
  cases direction with
  | up => exact (nameless_sub _ _).bind fun _ => nameless_ok _
  | down => exact (nameless_add _ _).bind fun _ => nameless_ok _
  | left => exact (nameless_sub _ _).bind fun _ => nameless_ok _
  | right => exact (nameless_add _ _).bind fun _ => nameless_ok _

theorem nameless_swipe (p : Point) (direction : Direction) (width height : Int)
    (distance duration : Value) :
    Nameless (TouchPath.swipe p direction width height distance duration) :=
  (nameless_toNumber _).bind fun _ => (nameless_swipeEnd _ _ _ _ _).bind fun _ =>
    (nameless_toNumber _).bind fun _ => (nameless_add _ _).bind fun _ => nameless_ok _

theorem nameless_write (real : Float → String) (v : Value) : Nameless (Json.write real v) := by
  unfold Json.write
  split
  · exact nameless_ok _
  · exact nameless_error rfl

theorem nameless_boundsValue (b : Bounds) : Nameless (boundsValue b) :=
  ((nameless_intToFloat _).bind fun _ => nameless_ok _).bind fun _ => nameless_ok _

theorem nameless_has (files : Files) (path : String) : Nameless (files.has path) := by
  unfold Files.has
  split
  · exact nameless_ok _
  · split
    · exact nameless_ok _
    · exact nameless_ok _
    · exact nameless_error rfl
    · exact nameless_ok _
    · exact nameless_ok _

theorem nameless_checkWrite (files : Files) (path : String) :
    Nameless (files.checkWrite path) := by
  unfold Files.checkWrite
  split
  · exact nameless_error rfl
  · split
    · exact nameless_ok _
    · exact nameless_error rfl
    · exact nameless_error rfl
    · exact nameless_error rfl
    · exact nameless_ok _
    · exact nameless_error rfl

/-- A command that draws one timeline: the name of its settings, the timeline under them, and
whether it is compiled. -/
structure Drawing where
  settings : Option String
  make : Settings → Except Fault Timeline
  compiled : Bool

def Command.drawing? : Command → Option Drawing
  | circle center radius steps duration start compiled settings =>
    some ⟨settings, fun s => circleTimeline s center radius steps duration start, compiled⟩
  | curve start stop angle positive duration compiled =>
    some ⟨none, fun _ => curveTimeline start stop angle positive duration, compiled⟩
  | swipe start direction width height compiled settings =>
    some ⟨settings, fun s => swipeTimeline s start direction width height, compiled⟩
  | _ => none

inductive Stage where
  | settings
  | shape
  | compilation
  | bounds
  | script
  deriving DecidableEq

def Stage.isGuarded : Stage → Bool
  | settings | compilation => false
  | shape | bounds | script => true

/-- Where the way from the file of a script to its touch ends with a fault. -/
inductive ScriptStops (words : Yaml.Wording) (files : Files) (script : String)
    (settings : Option String) (f : Fault) : Prop where
  | settings (hFault : (Settings.load words files settings).report.1 = .error f)
  | loading {s : Settings} (hSettings : (Settings.load words files settings).report.1 = .ok s)
      (hFault : (Script.load words files (Files.normalName script) s).report.1 = .error f)
  | compilation {s : Settings} {loaded : Script}
      (hSettings : (Settings.load words files settings).report.1 = .ok s)
      (hLoaded : (Script.load words files (Files.normalName script) s).report.1 = .ok loaded)
      (hFault : loaded.compile.report.1 = .error f)

/-- The fault that ends a command, with the stage it comes from. -/
inductive Raises (words : Yaml.Wording) (files : Files) : Command → Stage → Fault → Prop where
  | settings {command : Command} {d : Drawing} {f : Fault} (hDrawing : command.drawing? = some d)
      (hFault : (Settings.load words files d.settings).report.1 = .error f) :
      Raises words files command .settings f
  | shape {command : Command} {d : Drawing} {s : Settings} {f : Fault}
      (hDrawing : command.drawing? = some d)
      (hSettings : (Settings.load words files d.settings).report.1 = .ok s)
      (hFault : d.make s = .error f) : Raises words files command .shape f
  | compilation {command : Command} {d : Drawing} {s : Settings} {t : Timeline} {f : Fault}
      (hDrawing : command.drawing? = some d)
      (hSettings : (Settings.load words files d.settings).report.1 = .ok s)
      (hMade : d.make s = .ok t) (hCompiled : d.compiled = true)
      (hFault : t.compile true = .error f) : Raises words files command .compilation f
  | bounds {text : String} {f : Fault} (hFault : Bounds.parse text = .error f) :
      Raises words files (.parseBounds text) .bounds f
  | script {script : String} {output settings : Option String} {f : Fault}
      (hScript : files.has (Files.normalName script) = .ok true)
      (hFault : ScriptStops words files script settings f) :
      Raises words files (.compile script output settings) .script f

section

variable (real : Float → String) (words : Yaml.Wording) (files : Files)

def Drawing.perform (d : Drawing) : Reported Outcome := do
  let s ← Settings.load words files d.settings
  emitMade real (d.make s) d.compiled

theorem report_of_nameless {f : Fault} (h : f.family? = none) : Cli.report f = throw f := by
  rw [Cli.report, h]
  rfl

theorem report_result (f : Fault) : (Cli.report f).report.1 =
    if f.family?.isSome then .ok (reportOf f.message) else .error f := by
  unfold Cli.report
  split <;> rfl

theorem isSteady_report (f : Fault) : (Cli.report f).IsSteady := by
  unfold Cli.report
  split
  · exact Reported.isSteady_pure _
  · exact Reported.isSteady_throw _

/-- A swipe has no fault to report, so it too may be read as reporting those of its timeline. -/
theorem perform_eq_of_drawing {command : Command} {d : Drawing}
    (h : command.drawing? = some d) :
    command.perform real words files = d.perform real words files := by
  cases command with
  | circle => cases h; rfl
  | curve => cases h; rfl
  | swipe start direction width height compiled settings =>
    cases h
    have hMade (s : Settings) : (do
        emit real (← swipeTimeline s start direction width height) compiled : Reported Outcome) =
        emitMade real (swipeTimeline s start direction width height) compiled := by
      cases hTimeline : swipeTimeline s start direction width height with
      | ok t => rfl
      | error f =>
        rw [emitMade, report_of_nameless (nameless_swipe _ _ _ _ _ _ f hTimeline)]
        rfl
    exact congrArg (Settings.load words files settings >>= ·) (funext hMade)
  | parseBounds => cases h
  | compile => cases h

theorem printed_result (x : Except Fault Value) :
    (do return print (← Json.write real (← x)) : Reported Outcome).report.1 =
      (x >>= fun v => Json.write real v >>= fun text => .ok (print text)) := by
  rw [Reported.report_bind _ fun _ => (Reported.isSteady_lift _).bind fun _ =>
    Reported.isSteady_pure _, Reported.report_lift]
  congr 1
  funext v
  exact Reported.report_bind _ fun _ => Reported.isSteady_pure _

theorem nameless_printed (v : Value) :
    Nameless (Json.write real v >>= fun text => Except.ok (print text)) :=
  (nameless_write real v).bind fun _ => nameless_ok _

theorem isSteady_emitMade (made : Except Fault Timeline) (compiled : Bool) :
    (emitMade real made compiled).IsSteady := by
  cases made with
  | ok t =>
    exact (Reported.isSteady_lift _).bind fun _ => (Reported.isSteady_lift _).bind fun _ =>
      Reported.isSteady_pure _
  | error f => exact isSteady_report f

theorem drawing_result (d : Drawing) : (d.perform real words files).report.1 =
    (Settings.load words files d.settings).report.1 >>= fun s =>
      (emitMade real (d.make s) d.compiled).report.1 :=
  Reported.report_bind _ fun _ => isSteady_emitMade real _ _

/-- Printing a timeline fails with the fault of its compilation, or with one without a message. -/
theorem emit_result_of_named {t : Timeline} {compiled : Bool} {f : Fault}
    (hNamed : f.family?.isSome = true) :
    (emit real t compiled).report.1 = .error f ↔ compiled = true ∧ t.compile true = .error f := by
  rw [emit, printed_result, bind_eq_error_iff]
  constructor
  · rintro (hPayload | ⟨v, _, hWrite⟩)
    · cases compiled with
      | false => cases hPayload
      | true =>
        refine ⟨rfl, ?_⟩
        rcases bind_eq_error_iff.mp hPayload with hCompile | ⟨_, _, hNone⟩
        · exact hCompile
        · cases hNone
    · exact ((nameless_printed real v).elim hWrite hNamed).elim
  · rintro ⟨rfl, hCompile⟩
    exact .inl (bind_eq_error_iff.mpr (.inl hCompile))

theorem bounds_result (text : String) :
    ((Command.parseBounds text).perform real words files).report.1 =
      match Bounds.parse text with
      | .ok b => boundsValue b >>= fun v => Json.write real v >>= fun text => .ok (print text)
      | .error f => (Cli.report f).report.1 := by
  cases hParse : Bounds.parse text with
  | error f => rw [Command.perform, hParse]
  | ok b =>
    rw [Command.perform, hParse]
    exact printed_result real (boundsValue b)

theorem isSteady_deliver (touch : Touch) (output : Option String) :
    (deliver real files touch output).IsSteady := by
  refine (Reported.isSteady_lift _).bind fun text => ?_
  split
  · exact Reported.isSteady_pure _
  · exact Reported.isSteady_pure _
  · exact (Reported.isSteady_lift _).bind fun _ => Reported.isSteady_pure _

theorem deliver_result (touch : Touch) (output : Option String) :
    (deliver real files touch output).report.1 =
      Json.write real touch.toValue >>= fun text =>
        match output with
        | none | some "" => .ok (print text)
        | some name => files.checkWrite (Files.normalName name) >>= fun _ =>
          .ok (.done s!"Wrote {touch.fingers.length} finger(s) to {name}\n"
            (some (Files.normalName name, text))) := by
  rw [deliver, Reported.report_bind, Reported.report_lift]
  · congr 1
    funext text
    split
    · rfl
    · rfl
    · simp only
      rw [Reported.report_bind _ fun _ => Reported.isSteady_pure _, Reported.report_lift]
      rfl
  · intro text
    split
    · exact Reported.isSteady_pure _
    · exact Reported.isSteady_pure _
    · exact (Reported.isSteady_lift _).bind fun _ => Reported.isSteady_pure _

theorem nameless_deliver (touch : Touch) (output : Option String) :
    Nameless (deliver real files touch output).report.1 := by
  rw [deliver_result]
  refine (nameless_write real _).bind fun text => ?_
  split
  · exact nameless_ok _
  · exact nameless_ok _
  · exact (nameless_checkWrite files _).bind fun _ => nameless_ok _

theorem isSteady_ofText (path text : String) (s : Settings) :
    (Script.ofText words path text s).IsSteady := by
  unfold Script.ofText
  split
  · exact (Reported.isSteady_notify _).bind fun _ => Reported.isSteady_throw _
  · exact Reported.isSteady_throw _
  · split
    · exact Reported.isSteady_lift _
    · exact Reported.isSteady_lift _
    · exact (Reported.isSteady_notify _).bind fun _ => Reported.isSteady_throw _

theorem isSteady_load (path : String) (s : Settings) :
    (Script.load words files path s).IsSteady :=
  (Reported.isSteady_lift _).bind fun text => isSteady_ofText words path text s

theorem isSteady_compile (s : Script) : s.compile.IsSteady :=
  (Reported.isSteady_lift _).bind fun _ => (Reported.isSteady_lift _).bind fun _ =>
    (Reported.isSteady_notify _).bind fun _ => Reported.isSteady_pure _

theorem compileScript_report (script : String) (settings : Option String) :
    (compileScript words files script settings).report.1 =
      (Settings.load words files settings).report.1 >>= fun s =>
        (Script.load words files (Files.normalName script) s).report.1 >>= fun loaded =>
          loaded.compile.report.1 := by
  have hLoad (s : Settings) := Reported.report_bind
    (Script.load words files (Files.normalName script) s) isSteady_compile
  rw [compileScript, Reported.report_bind]
  · exact congrArg (_ >>= ·) (funext hLoad)
  · exact fun s => (isSteady_load words files _ s).bind isSteady_compile

theorem compileScript_eq_ok_iff {script : String} {settings : Option String} {touch : Touch} :
    (compileScript words files script settings).report.1 = .ok touch ↔ ∃ s loaded,
      (Settings.load words files settings).report.1 = .ok s ∧
      (Script.load words files (Files.normalName script) s).report.1 = .ok loaded ∧
      loaded.compile.report.1 = .ok touch := by
  simp only [compileScript_report, bind_eq_ok_iff, exists_and_left]

theorem compileScript_eq_error_iff {script : String} {settings : Option String} {f : Fault} :
    (compileScript words files script settings).report.1 = .error f ↔
      ScriptStops words files script settings f := by
  simp only [compileScript_report, bind_eq_error_iff]
  constructor
  · rintro (hFault | ⟨s, hSettings, hFault | ⟨loaded, hLoaded, hFault⟩⟩)
    · exact .settings hFault
    · exact .loading hSettings hFault
    · exact .compilation hSettings hLoaded hFault
  · rintro (hFault | ⟨hSettings, hFault⟩ | ⟨hSettings, hLoaded, hFault⟩)
    · exact .inl hFault
    · exact .inr ⟨_, hSettings, .inl hFault⟩
    · exact .inr ⟨_, hSettings, .inr ⟨_, hLoaded, hFault⟩⟩

/-- Compiling a script: a fault goes to the report, and what comes after has no message. -/
theorem script_result (script : String) (output settings : Option String) :
    ((Command.compile script output settings).perform real words files).report.1 =
      match files.has (Files.normalName script) with
      | .error f => .error f
      | .ok false => .ok (reportOf s!"script not found: {script}")
      | .ok true =>
        match (compileScript words files script settings).report.1 with
        | .ok touch => (deliver real files touch output).report.1
        | .error f => (Cli.report f).report.1 := by
  rw [Reported.report_eq_after, Command.perform, Reported.after_bind, Reported.after_lift]
  cases files.has (Files.normalName script) with
  | error f => rfl
  | ok found =>
    cases found with
    | false => rfl
    | true =>
      refine (Reported.report_attempt_bind _ fun compiled => ?_).trans ?_
      · cases compiled with
        | ok touch => exact isSteady_deliver real files touch output
        | error f => exact isSteady_report f
      · cases (compileScript words files script settings).report.1 <;> rfl

theorem nameless_report (f : Fault) : Nameless (Cli.report f).report.1 := by
  rw [report_result]
  split
  · exact nameless_ok _
  · rename_i hNameless
    exact nameless_error (Option.not_isSome_iff_eq_none.mp hNameless)

theorem perform_of_raises {command : Command} {stage : Stage} {f : Fault}
    (h : Raises words files command stage f) (hNamed : f.family?.isSome = true) :
    (command.perform real words files).report.1 =
      if stage.isGuarded then .ok (reportOf f.message) else .error f := by
  have hReport : (Cli.report f).report.1 = .ok (reportOf f.message) := by
    rw [report_result, if_pos hNamed]
  cases h with
  | settings hDrawing hFault =>
    rw [perform_eq_of_drawing real words files hDrawing, drawing_result, hFault]
    rfl
  | shape hDrawing hSettings hFault =>
    rw [perform_eq_of_drawing real words files hDrawing, drawing_result, hSettings, ok_bind,
      hFault]
    exact hReport
  | compilation hDrawing hSettings hMade hCompiled hFault =>
    rw [perform_eq_of_drawing real words files hDrawing, drawing_result, hSettings, ok_bind,
      hMade]
    exact (emit_result_of_named real hNamed).mpr ⟨hCompiled, hFault⟩
  | bounds hFault =>
    rw [bounds_result, hFault]
    exact hReport
  | script hScript hFault =>
    rw [script_result, hScript, (compileScript_eq_error_iff words files).mpr hFault]
    exact hReport

theorem raises_of_drawing {command : Command} {d : Drawing} {f : Fault}
    (hDrawing : command.drawing? = some d) (h : (d.perform real words files).report.1 = .error f)
    (hNamed : f.family?.isSome = true) :
    ∃ stage, stage.isGuarded = false ∧ Raises words files command stage f := by
  rw [drawing_result, bind_eq_error_iff] at h
  rcases h with hFault | ⟨s, hSettings, h⟩
  · exact ⟨.settings, rfl, .settings hDrawing hFault⟩
  · cases hMade : d.make s with
    | error g =>
      rw [hMade] at h
      exact ((nameless_report g).elim h hNamed).elim
    | ok t =>
      rw [hMade] at h
      obtain ⟨hCompiled, hFault⟩ := (emit_result_of_named real hNamed).mp h
      exact ⟨.compilation, rfl, .compilation hDrawing hSettings hMade hCompiled hFault⟩

theorem nameless_bounds (text : String) :
    Nameless ((Command.parseBounds text).perform real words files).report.1 := by
  rw [bounds_result]
  split
  · exact (nameless_boundsValue _).bind fun v => nameless_printed real v
  · exact nameless_report _

theorem nameless_script (script : String) (output settings : Option String) :
    Nameless ((Command.compile script output settings).perform real words files).report.1 := by
  rw [script_result]
  split
  · rename_i f hHas
    exact nameless_error (nameless_has _ _ f hHas)
  · exact nameless_ok _
  · split
    · exact nameless_deliver real files _ _
    · exact nameless_report _

theorem raises_of_perform {command : Command} {f : Fault}
    (h : (command.perform real words files).report.1 = .error f)
    (hNamed : f.family?.isSome = true) :
    ∃ stage, stage.isGuarded = false ∧ Raises words files command stage f := by
  cases hDrawing : command.drawing? with
  | some d =>
    rw [perform_eq_of_drawing real words files hDrawing] at h
    exact raises_of_drawing real words files hDrawing h hNamed
  | none =>
    cases command with
    | parseBounds text => exact ((nameless_bounds real words files text).elim h hNamed).elim
    | compile script output settings =>
      exact ((nameless_script real words files script output settings).elim h hNamed).elim
    | circle => cases hDrawing
    | curve => cases hDrawing
    | swipe => cases hDrawing

theorem printed_ne_escaped (x : Except Fault Value) (f : Fault) :
    (x >>= fun v => Json.write real v >>= fun text => .ok (print text)) ≠ .ok (.escaped f) := by
  intro h
  obtain ⟨v, _, h⟩ := bind_eq_ok_iff.mp h
  obtain ⟨text, _, h⟩ := bind_eq_ok_iff.mp h
  cases h

theorem report_ne_escaped (g f : Fault) : (Cli.report g).report.1 ≠ .ok (.escaped f) := by
  rw [report_result]
  split <;> exact nofun

theorem deliver_ne_escaped (touch : Touch) (output : Option String) (f : Fault) :
    (deliver real files touch output).report.1 ≠ .ok (.escaped f) := by
  rw [deliver_result]
  intro h
  obtain ⟨text, _, h⟩ := bind_eq_ok_iff.mp h
  split at h
  · cases h
  · cases h
  · obtain ⟨_, _, h⟩ := bind_eq_ok_iff.mp h
    cases h

theorem drawing_ne_escaped (d : Drawing) (f : Fault) :
    (d.perform real words files).report.1 ≠ .ok (.escaped f) := by
  rw [drawing_result]
  intro h
  obtain ⟨s, _, h⟩ := bind_eq_ok_iff.mp h
  cases hMade : d.make s with
  | error g =>
    rw [hMade] at h
    exact report_ne_escaped g f h
  | ok t =>
    rw [hMade, emitMade, emit, printed_result] at h
    exact printed_ne_escaped real _ f h

theorem perform_ne_escaped (command : Command) (f : Fault) :
    (command.perform real words files).report.1 ≠ .ok (.escaped f) := by
  cases hDrawing : command.drawing? with
  | some d =>
    rw [perform_eq_of_drawing real words files hDrawing]
    exact drawing_ne_escaped real words files d f
  | none =>
    cases command with
    | parseBounds text =>
      rw [bounds_result]
      split
      · exact printed_ne_escaped real _ f
      · exact report_ne_escaped _ f
    | compile script output settings =>
      rw [script_result]
      split
      · exact nofun
      · exact nofun
      · split
        · exact deliver_ne_escaped real files _ _ f
        · exact report_ne_escaped _ f
    | circle => cases hDrawing
    | curve => cases hDrawing
    | swipe => cases hDrawing

theorem run_of_parse {args : List String} {command : Command}
    (h : Command.parse? args = some (.run command)) :
    (run real words files args).1 =
      match (command.perform real words files).report.1 with
      | .ok outcome => outcome
      | .error f => .escaped f := by
  rw [run, h]
  dsimp only
  rcases (command.perform real words files).report with ⟨_ | _, _⟩ <;> rfl

/-- The report of a fault with its message, from the stages that are guarded; from the others, and
only from them, it escapes. -/
theorem run_eq_of_raises {args : List String} {command : Command}
    (hArgs : Command.parse? args = some (.run command)) :
    (∀ stage f, Raises words files command stage f → f.family?.isSome = true →
      (run real words files args).1 =
        if stage.isGuarded then .failed ("Error: " ++ Text.spellOut f.message ++ "\n")
        else .escaped f) ∧
    ∀ f, (run real words files args).1 = .escaped f → f.family?.isSome = true →
      ∃ stage, stage.isGuarded = false ∧ Raises words files command stage f := by
  rw [run_of_parse real words files hArgs]
  constructor
  · intro stage f hRaises hNamed
    rw [perform_of_raises real words files hRaises hNamed]
    cases stage.isGuarded <;> rfl
  · intro f hEscaped hNamed
    cases hPerform : (command.perform real words files).report.1 with
    | error g =>
      rw [hPerform] at hEscaped
      cases hEscaped
      exact raises_of_perform real words files hPerform hNamed
    | ok outcome =>
      rw [hPerform] at hEscaped
      exact absurd (hPerform.trans (congrArg Except.ok hEscaped))
        (perform_ne_escaped real words files command f)

end

theorem run_compile_script_reported :
    Command.parse? ["compile", "s"] = some (.run (.compile "s" none none)) ∧
    (run Json.floatText .ofName (fun _ => some (.file "1")) ["compile", "s"]).1 =
      .failed ("Error: " ++ Text.spellOut "Gesture script s must contain a mapping" ++ "\n") := by
  have hArgs : Command.parse? ["compile", "s"] = some (.run (.compile "s" none none)) := by cbv
  have hName : Files.normalName "s" = "s" := by cbv
  have hRaises : Raises .ofName (fun _ => some (.file "1")) (.compile "s" none none) .script
      (.scriptNotMapping "s") := by
    refine .script ?_ (.loading rfl ?_)
    · rw [hName]
      rfl
    · rw [hName]
      rfl
  exact ⟨hArgs, (run_eq_of_raises Json.floatText _ _ hArgs).1 _ _ hRaises rfl⟩

/-- Settings that are no mapping leave a swipe unreported. -/
theorem run_swipe_settings_escape :
    Raises .ofName (fun _ => some (.file "1")) (.swipe ⟨0, 0⟩ .up 1080 1920 false (some "c"))
      .settings (.settingsNotMapping "c") ∧
    (run Json.floatText .ofName (fun _ => some (.file "1"))
      ["swipe", "0", "0", "up", "--config", "c"]).1 ≠
      .failed ("Error: " ++ Text.spellOut "Config c must contain a mapping" ++ "\n") := by
  have hArgs : Command.parse? ["swipe", "0", "0", "up", "--config", "c"] =
      some (.run (.swipe ⟨0, 0⟩ .up 1080 1920 false (some "c"))) := by cbv
  have hName : Files.normalName "c" = "c" := by cbv
  have hRaises : Raises .ofName (fun _ => some (.file "1"))
      (.swipe ⟨0, 0⟩ .up 1080 1920 false (some "c")) .settings (.settingsNotMapping "c") := by
    apply Raises.settings
    · rfl
    · rw [Settings.load, hName]
      rfl
  refine ⟨hRaises, ?_⟩
  rw [run_of_parse _ _ _ hArgs, perform_of_raises _ _ _ hRaises rfl]
  intro hReported
  cases hReported

end TouchPath.Cli
