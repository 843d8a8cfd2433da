import Mathlib.Tactic.Common
import TokenTables.Build.Basic
import TokenTables.Proofs.Emit.Writing

/-!
What a build comes to. The report on the specification decides alone: without an error in it both
files are generated, and with one the build is aborted with just this report. No error is lost on
the way, since the report holds what the reader, the trie and the emission find, and none arises
after it.
-/

namespace TokenTables

theorem Diagnostic.hasErrors_sort (report : List Diagnostic) :
    hasErrors (sort report) = hasErrors report :=
  (List.mergeSort_perm report _).any_eq

namespace Analysis

variable (settings : Settings) (source : Source)

/-- What keeps the files from being generated is in the report already. -/
theorem hasErrors_emissionReport_of_clean
    (clean : Diagnostic.hasErrors (ofSource settings source).report = false) :
    Diagnostic.hasErrors (emissionReport settings (ofSource settings source).vocabulary) =
      false := by
  rw [ofSource, Diagnostic.hasErrors_sort, Diagnostic.hasErrors, List.any_append,
    Bool.or_eq_false_iff] at clean
  exact clean.2

theorem exists_emitArtifacts_ofSource :
    ∃ result, emitArtifacts settings (ofSource settings source).vocabulary
        (ofSource settings source).trie = .ok result ∧
      (Diagnostic.hasErrors (ofSource settings source).report = false →
        Diagnostic.hasErrors result.report = false ∧
          result.artifacts.map Artifact.path = [settings.listPath, settings.dataPath]) := by
  have declared : ∀ index code id, (ofSource settings source).trie.token? index code = some id →
      ((ofSource settings source).vocabulary.get? id).isSome := fun _ _ _ => declared_of_token?
  obtain ⟨result, written, report, files⟩ := exists_emitArtifacts settings declared
  refine ⟨result, written, fun clean => ?_⟩
  have harmless : Diagnostic.hasErrors result.report = false := by
    rw [report]
    exact hasErrors_emissionReport_of_clean settings source clean
  exact ⟨harmless, files harmless⟩

end Analysis

namespace Build

theorem emit_of_errors {build : Build} {analysis : Analysis}
    (analyzed : build.analyze = .ok analysis)
    (errors : Diagnostic.hasErrors analysis.report = true) :
    build.emit = .error (.aborted analysis.report) := by
  unfold emit
  rw [analyzed]
  simp only [bind, Except.bind, errors, if_true]
  rfl

theorem emit_of_clean {build : Build} {analysis : Analysis} {result : EmitResult}
    (analyzed : build.analyze = .ok analysis)
    (clean : Diagnostic.hasErrors analysis.report = false)
    (written : emitArtifacts build.settings analysis.vocabulary analysis.trie = .ok result)
    (harmless : Diagnostic.hasErrors result.report = false) :
    build.emit = .ok { result with report := analysis.report } := by
  unfold emit
  rw [analyzed]
  simp only [Except.mapError, bind, Except.bind, clean, written, harmless, Bool.false_eq_true,
    if_false]
  rfl

/-- What a build comes to by the analysis of its source. -/
structure Settles (build : Build) (analysis : Analysis) : Prop where
  analyze_eq : build.analyze = .ok analysis
  check_eq : build.check = .ok analysis.report
  emits_iff : (∃ result, build.emit = .ok result) ↔ Diagnostic.hasErrors analysis.report = false
  emitted : ∀ result, build.emit = .ok result →
    result.artifacts.map Artifact.path = [build.settings.listPath, build.settings.dataPath] ∧
      result.report = analysis.report
  failed : ∀ error, build.emit = .error error → error = .aborted analysis.report
  /-- Emission never fails on its own account, and it reports no error after an analysis without
  one. -/
  emission : ∃ result,
    emitArtifacts build.settings analysis.vocabulary analysis.trie = .ok result ∧
      (Diagnostic.hasErrors analysis.report = false → Diagnostic.hasErrors result.report = false)

theorem settles_ofSource (settings : Settings) (source : Source) :
    (Build.mk settings (some source)).Settles (.ofSource settings source) := by
  obtain ⟨result, written, harmless⟩ := Analysis.exists_emitArtifacts_ofSource settings source
  have analyzed : (Build.mk settings (some source)).analyze = .ok (.ofSource settings source) := rfl
  cases clean : Diagnostic.hasErrors (Analysis.ofSource settings source).report with
  | true =>
    have outcome := emit_of_errors analyzed clean
    refine ⟨analyzed, rfl, ?_, ?_, ?_, result, written, fun claimed => ?_⟩
    · rw [outcome, clean]
      simp
    · intro other emitted
      rw [outcome] at emitted
      contradiction
    · intro error failed
      rw [outcome] at failed
      exact (Except.error.inj failed).symm
    · exact absurd (clean.symm.trans claimed) (by decide)
  | false =>
    obtain ⟨noErrors, files⟩ := harmless clean
    have outcome := emit_of_clean analyzed clean written noErrors
    refine ⟨analyzed, rfl, ?_, ?_, ?_, result, written, fun _ => noErrors⟩
    · exact iff_of_true ⟨_, outcome⟩ clean
    · intro other emitted
      rw [outcome] at emitted
      rw [← Except.ok.inj emitted]
      exact ⟨files, rfl⟩
    · intro error failed
      rw [outcome] at failed
      contradiction

theorem emitArtifacts_of_emit {settings : Settings} {source : Source} {result : EmitResult}
    (emitted : (Build.mk settings (some source)).emit = .ok result) :
    ∃ generated, emitArtifacts settings (Analysis.ofSource settings source).vocabulary
        (Analysis.ofSource settings source).trie = .ok generated ∧
      result.artifacts = generated.artifacts := by
  have settles := settles_ofSource settings source
  have clean := settles.emits_iff.1 ⟨result, emitted⟩
  obtain ⟨generated, written, harmless⟩ := settles.emission
  rw [emit_of_clean settles.analyze_eq clean written (harmless clean)] at emitted
  exact ⟨generated, written, by rw [← Except.ok.inj emitted]⟩

/-- A build with a source comes to what the report on the source says, under all settings, and a
build without one has no input for any of its steps. -/
theorem build_outcome (settings : Settings) :
    (∀ source, (Build.mk settings (some source)).Settles (.ofSource settings source)) ∧
      (Build.mk settings none).analyze = .error .noInput ∧
      (Build.mk settings none).check = .error .noInput ∧
      (Build.mk settings none).emit = .error .noInput :=
  ⟨settles_ofSource settings, rfl, rfl, rfl⟩

end Build

end TokenTables
