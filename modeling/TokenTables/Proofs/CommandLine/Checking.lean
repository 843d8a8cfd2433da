import TokenTables.CommandLine.Run
import TokenTables.Proofs.Build.Emission
import TokenTables.Proofs.Storage.Files

/-!
Checking agrees with generating. A command that only checks comes to the same judgement as the
command that generates: it fails where the other one does, with the same text on standard error and
nothing else done, and where it succeeds, the files can be printed. Both judge by the one report on
the specification, and up to there they only read.
-/

namespace TokenTables

variable {σ : Type} [FileAccess (StateM σ)]

/-! Up to the build both commands do the same, and they only read. -/

section

variable [SteadyReading σ]

theorem Settings.steady_load (path : String) :
    Steady (Settings.load path : StateM σ (Except ProjectError Settings)) := by
  unfold Settings.load
  apply (SteadyReading.readText path).bind
  intro content
  cases content with
  | error cause => exact .pure _
  | ok content =>
    dsimp only
    cases Settings.parse content with
    | error cause => exact .pure _
    | ok settings => exact .pure _

theorem Invocation.steady_settings (invocation : Invocation) :
    Steady (invocation.settings : StateM σ (Except ProjectError Settings)) := by
  unfold Invocation.settings Invocation.projectSettings
  refine Steady.bind ?_ fun _ => .pure _
  cases invocation.project with
  | some path => exact Settings.steady_load path
  | none =>
    apply (SteadyReading.fileExists projectFileName).bind
    intro present
    cases present with
    | true => exact Settings.steady_load projectFileName
    | false => exact .pure _

theorem Build.steady_loadInput (build : Build) :
    Steady (build.loadInput : StateM σ (Except BuildError Build)) := by
  unfold Build.loadInput
  cases build.settings.input with
  | none => exact .pure _
  | some path =>
    apply (SteadyReading.readText path).bind
    intro content
    cases content with
    | error cause => exact .pure _
    | ok text => exact .pure _

theorem Build.exists_source {settings : Settings} {files : σ} {build : Build}
    (loaded : ((Build.loadInput ⟨settings, none⟩ : StateM σ _).run files).1 = .ok build) :
    ∃ source, build = ⟨settings, some source⟩ := by
  unfold Build.loadInput at loaded
  cases named : settings.input with
  | none =>
    rw [named] at loaded
    contradiction
  | some path =>
    rw [named] at loaded
    dsimp only at loaded
    rw [(SteadyReading.readText path).run_bind rfl] at loaded
    cases read : ((FileAccess.readText path : StateM σ _).run files).1 with
    | error cause =>
      rw [read] at loaded
      contradiction
    | ok text =>
      rw [read] at loaded
      exact ⟨⟨path, text⟩, (Except.ok.inj loaded).symm⟩

namespace CommandLine

theorem run_loaded (console : Console (StateM σ)) {arguments : List String}
    {invocation : Invocation} (given : Request.ofArguments arguments = .run invocation)
    (noInit : invocation.initialise = false) {files : σ} {settings : Settings} {build : Build}
    (configured : ((invocation.settings : StateM σ _).run files).1 = .ok settings)
    (loaded : ((Build.loadInput ⟨settings, none⟩ : StateM σ _).run files).1 = .ok build) :
    (run console arguments).run files =
      if invocation.noEmit then (check console build, files)
      else (generate console invocation build).run files := by
  unfold run runInvocation
  rw [given]
  dsimp only
  rw [noInit, if_neg Bool.false_ne_true]
  rw [invocation.steady_settings.run_bind configured]
  dsimp only
  rw [(Build.steady_loadInput _).run_bind loaded]
  dsimp only
  split
  next => rfl
  next => rfl

end CommandLine

end

namespace CommandLine

/-! With the build the commands part. -/

/-- How checking a build and generating from it come out, both from the same files. -/
structure Accord (console : Console (StateM σ)) (build : Build) (toStdout : Bool) (files : σ)
    (checked generated : Outcome × σ) : Prop where
  checked_exit : checked.1.exitCode = 0 ∨ checked.1.exitCode = 2
  fails_iff : checked.1.exitCode = 2 ↔ generated.1.exitCode = 2
  failed : checked.1.exitCode = 2 → generated.1.stderr = checked.1.stderr ∧
    checked.1.stdout = "" ∧ generated.1.stdout = "" ∧ checked.2 = files ∧ generated.2 = files
  printed : checked.1.exitCode = 0 → toStdout = true →
    generated.1.exitCode = 0 ∧ generated.2 = files ∧
      (∃ list data report, build.emit = .ok ⟨[list, data], report⟩ ∧
        list.path = build.settings.listPath ∧ data.path = build.settings.dataPath ∧
        generated.1.stdout = list.text ++ data.text) ∧
      (console.isTerminal = false → generated.1.stderr = checked.1.stderr)

section

variable {console : Console (StateM σ)} (invocation : Invocation) {settings : Settings}
  {source : Source} (files : σ)

theorem accord_of_errors
    (errors : Diagnostic.hasErrors (Analysis.ofSource settings source).report = true) :
    Accord console ⟨settings, some source⟩ invocation.toStdout files
      (check console ⟨settings, some source⟩, files)
      ((generate console invocation ⟨settings, some source⟩).run files) := by
  have settles := Build.settles_ofSource settings source
  have checked : check console ⟨settings, some source⟩ =
      .ofErrors console.isTerminal (Analysis.ofSource settings source).report := by
    rw [check, settles.check_eq]
    exact if_pos errors
  have generated : (generate console invocation ⟨settings, some source⟩).run files =
      (.ofErrors console.isTerminal (Analysis.ofSource settings source).report, files) := by
    rw [generate, Build.emit_of_errors settles.analyze_eq errors]
    rfl
  rw [checked, generated]
  exact ⟨.inr rfl, Iff.rfl, fun _ => ⟨rfl, rfl, rfl, rfl, rfl⟩, fun success => absurd success
    (by simp [Outcome.ofErrors])⟩

omit [FileAccess (StateM σ)] in
theorem steady_summary (clock : Steady console.elapsed)
    (artifacts : List Artifact) : Steady (summary console artifacts) := by
  unfold summary
  split
  next => exact clock.bind fun _ => .pure _
  next => exact .pure _

/-- Files that are generated without an error are printed, or they are written, which can fail. -/
theorem generate_clean {build : Build} {result : EmitResult} (emitted : build.emit = .ok result)
    (clock : Steady console.elapsed) :
    (invocation.toStdout = true →
      ∃ summary, (console.isTerminal = false → summary = "") ∧
        (generate console invocation build).run files =
          ({ stdout := String.join (result.artifacts.map Artifact.text)
             stderr := Diagnostic.printedReport console.isTerminal result.report ++ summary },
            files)) ∧
      ((generate console invocation build).run files).1.exitCode ≠ 2 := by
  have steady := steady_summary clock result.artifacts
  have terminal : console.isTerminal = false →
      ((summary console result.artifacts).run files).1 = "" := by
    intro other
    rw [summary, other]
    rfl
  unfold generate
  rw [emitted]
  dsimp only
  cases printing : invocation.toStdout with
  | true =>
    rw [if_pos rfl, steady.run_bind rfl]
    have success : (0 : UInt8) ≠ 2 := by decide
    exact ⟨fun _ => ⟨_, terminal, rfl⟩, success⟩
  | false =>
    rw [if_neg Bool.false_ne_true]
    refine ⟨fun impossible => absurd impossible Bool.false_ne_true, ?_⟩
    let writing : StateM σ Writing := Build.writeArtifacts result.artifacts
    have written : ∀ next : Writing → StateM σ Outcome, (writing >>= next).run files =
        (next (writing.run files).1).run (writing.run files).2 := fun _ => rfl
    rw [written]
    cases (writing.run files).1.failure with
    | none =>
      have success : (0 : UInt8) ≠ 2 := by decide
      exact success
    | some error =>
      have failure : (1 : UInt8) ≠ 2 := by decide
      exact failure

theorem accord_of_clean (clock : Steady console.elapsed)
    (clean : Diagnostic.hasErrors (Analysis.ofSource settings source).report = false) :
    Accord console ⟨settings, some source⟩ invocation.toStdout files
      (check console ⟨settings, some source⟩, files)
      ((generate console invocation ⟨settings, some source⟩).run files) := by
  have settles := Build.settles_ofSource settings source
  obtain ⟨result, emitted⟩ := settles.emits_iff.2 clean
  obtain ⟨paths, report⟩ := settles.emitted result emitted
  obtain ⟨printed, exit⟩ := generate_clean invocation files emitted clock
  have checked : check console ⟨settings, some source⟩ =
      { stderr := Diagnostic.printedReport console.isTerminal
          (Analysis.ofSource settings source).report } := by
    rw [check, settles.check_eq]
    exact if_neg (by simp [clean])
  have success : (check console ⟨settings, some source⟩).exitCode = 0 := by rw [checked]
  have noFailure : (check console ⟨settings, some source⟩).exitCode ≠ 2 := by
    rw [success]
    decide
  refine ⟨.inl success, iff_of_false noFailure exit, fun failure => absurd failure noFailure, ?_⟩
  intro _ toStdout
  obtain ⟨summary, noSummary, outcome⟩ := printed toStdout
  obtain ⟨list, data, artifacts⟩ : ∃ list data, result.artifacts = [list, data] := by
    obtain ⟨list, rest, listed, _, others⟩ := List.map_eq_cons_iff.1 paths
    obtain ⟨data, rfl, _⟩ := List.map_eq_singleton_iff.1 others
    exact ⟨list, data, listed⟩
  rw [artifacts] at paths
  obtain ⟨listPath, dataPath⟩ := List.cons.inj paths
  rw [outcome, checked]
  refine ⟨rfl, rfl, ⟨list, data, result.report, ?_, listPath, (List.cons.inj dataPath).1, ?_⟩, ?_⟩
  · rw [emitted, ← artifacts]
  · rw [artifacts]
    simp
  · intro other
    simp [noSummary other, report]

end

/-- A command that checks and the same command without that flag, which prints the files or writes
them, agree about every specification that is loaded. -/
theorem checking_agrees [SteadyReading σ] (console : Console (StateM σ))
    (clock : Steady console.elapsed) (files : σ)
    {checking generating : List String} {invocation : Invocation} {toStdout : Bool}
    (checks : Request.ofArguments checking = .run { invocation with noEmit := true })
    (generates : Request.ofArguments generating =
      .run { invocation with noEmit := false, toStdout := toStdout })
    (noInit : invocation.initialise = false) {settings : Settings} {build : Build}
    (configured : ((invocation.settings : StateM σ _).run files).1 = .ok settings)
    (loaded : ((Build.loadInput ⟨settings, none⟩ : StateM σ _).run files).1 = .ok build) :
    Accord console build toStdout files ((run console checking).run files)
      ((run console generating).run files) := by
  let other : Invocation := { invocation with noEmit := false, toStdout := toStdout }
  have checked : (run console checking).run files = (check console build, files) :=
    run_loaded console checks noInit configured loaded
  have generated : (run console generating).run files = (generate console other build).run files :=
    run_loaded console generates noInit configured loaded
  rw [checked, generated]
  obtain ⟨source, rfl⟩ := Build.exists_source loaded
  cases clean : Diagnostic.hasErrors (Analysis.ofSource settings source).report with
  | true => exact accord_of_errors other files clean
  | false => exact accord_of_clean other files clock clean

def projectFiles : Storage where
  entries := [
    (["toktab.d"], .directory),
    (["toktab.d", "warn.json"],
      .file (some "\x7b\"outDir\": \"out\", \"format\": \x7b\x7d\x7d")),
    (["tokens"], .file (some "MINUS\t\"-\"\nARROW\t\"->\"\n"))]

def projectSettings : Settings := { input := some "tokens", outDir := some "toktab.d/out" }

def pipedConsole : Console (StateM Storage) := ⟨false, pure "0.00"⟩

theorem projectFiles_checking_agrees :
    Request.ofArguments ["-p", "toktab.d/warn.json", "--no-emit", "--", "tokens"] =
        .run { input := some "tokens", project := some "toktab.d/warn.json", noEmit := true } ∧
      Request.ofArguments ["--stdout", "tokens", "-p", "toktab.d/warn.json"] =
        .run { input := some "tokens", project := some "toktab.d/warn.json", toStdout := true } ∧
      ((run pipedConsole ["-p", "toktab.d/warn.json", "--no-emit", "--", "tokens"]).run
        projectFiles).1.exitCode = 0 ∧
      Accord pipedConsole ⟨projectSettings, some ⟨"tokens", "MINUS\t\"-\"\nARROW\t\"->\"\n"⟩⟩
        true projectFiles
        ((run pipedConsole ["-p", "toktab.d/warn.json", "--no-emit", "--", "tokens"]).run
          projectFiles)
        ((run pipedConsole ["--stdout", "tokens", "-p", "toktab.d/warn.json"]).run
          projectFiles) := by
  let invocation : Invocation := { input := some "tokens", project := some "toktab.d/warn.json" }
  have checks : Request.ofArguments ["-p", "toktab.d/warn.json", "--no-emit", "--", "tokens"] =
      .run { invocation with noEmit := true } := by
    decide
  have generates : Request.ofArguments ["--stdout", "tokens", "-p", "toktab.d/warn.json"] =
      .run { invocation with noEmit := false, toStdout := true } := by
    decide
  have configured : ((invocation.settings : StateM Storage _).run projectFiles).1 =
      .ok projectSettings := by
    have read : ((invocation.settings : StateM Storage _).run projectFiles).1.toOption =
        some projectSettings := by
      decide +kernel
    generalize ((invocation.settings : StateM Storage _).run projectFiles).1 = outcome at read ⊢
    cases outcome with
    | error cause => contradiction
    | ok settings => exact congrArg Except.ok (Option.some.inj read)
  exact ⟨checks, generates, by decide +kernel,
    checking_agrees pipedConsole (fun _ => rfl) projectFiles checks generates rfl configured rfl⟩

end CommandLine

end TokenTables
