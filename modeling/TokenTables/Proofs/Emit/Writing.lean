import Mathlib.Tactic.Common
import TokenTables.Emit.Artifacts
import TokenTables.Proofs.Emit.References
import TokenTables.Proofs.Trie.Construction
import TokenTables.Proofs.Trie.Entries

/-!
When writing succeeds. The tables of a trie are written if every token in its slots is declared, in
every dialect, and the trie of a vocabulary has declared tokens only. A comparison chain is written
if the no-match token is declared, which is what is checked before. So emission always comes to a
result, with the two files or with an error in its report.
-/

namespace TokenTables

theorem Dispatch.exists_trieSteps {vocabulary : Vocabulary} {trie : Trie} (dialect : Dialect)
    (declared : ∀ index code id, trie.token? index code = some id → (vocabulary.get? id).isSome) :
    ∃ steps, trieSteps dialect vocabulary trie = .ok steps := by
  apply (refers_trieSteps dialect vocabulary trie).exists_ok_iff.2
  intro id referred
  obtain ⟨spelling, bound⟩ := (trie.mem_references_iff id).1 referred
  rw [Trie.find?_eq_findFrom] at bound
  obtain ⟨index, code, slot⟩ := Trie.exists_token_of_findFrom bound
  exact declared index code id slot

theorem hasErrors_emissionReport (settings : Settings) (vocabulary : Vocabulary) :
    Diagnostic.hasErrors (emissionReport settings vocabulary) = true ↔
      settings.strategy = .linear ∧ vocabulary.idOf? settings.noMatchName = none := by
  unfold emissionReport
  split
  next undeclared => exact iff_of_true rfl undeclared
  next declared => exact iff_of_false (by simp [Diagnostic.hasErrors]) declared

theorem exists_recogniser {settings : Settings} {vocabulary : Vocabulary} {trie : Trie}
    (declared : ∀ index code id, trie.token? index code = some id → (vocabulary.get? id).isSome)
    (clean : Diagnostic.hasErrors (emissionReport settings vocabulary) = false) :
    ∃ steps, Artifact.recogniser settings vocabulary trie = .ok steps := by
  unfold Artifact.recogniser
  cases strategy : settings.strategy with
  | trie => exact Dispatch.exists_trieSteps _ declared
  | linear =>
    have fallback : vocabulary.idOf? settings.noMatchName ≠ none := by
      intro missing
      have reported := (hasErrors_emissionReport settings vocabulary).2 ⟨strategy, missing⟩
      rw [clean] at reported
      contradiction
    obtain ⟨id, named⟩ := Option.ne_none_iff_exists'.1 fallback
    rw [Chain.ofVocabulary?, named]
    exact ⟨_, rfl⟩

/-- Emission from declared tokens fails in no other way than by its report. -/
theorem exists_emitArtifacts (settings : Settings) {vocabulary : Vocabulary} {trie : Trie}
    (declared : ∀ index code id, trie.token? index code = some id → (vocabulary.get? id).isSome) :
    ∃ result, emitArtifacts settings vocabulary trie = .ok result ∧
      result.report = emissionReport settings vocabulary ∧
      (Diagnostic.hasErrors result.report = false →
        result.artifacts.map Artifact.path = [settings.listPath, settings.dataPath]) := by
  cases clean : Diagnostic.hasErrors (emissionReport settings vocabulary) with
  | true =>
    refine ⟨⟨[], emissionReport settings vocabulary⟩, ?_, rfl, fun harmless => ?_⟩
    · simp only [emitArtifacts, clean, if_true]
      rfl
    · exact absurd (clean.symm.trans harmless) (by decide)
  | false =>
    obtain ⟨steps, written⟩ := exists_recogniser declared clean
    simp only [emitArtifacts, clean, Artifact.dataText, written]
    exact ⟨_, rfl, rfl, fun _ => rfl⟩

end TokenTables
