import Mathlib.Tactic.Common
import TokenTables.Proofs.Emit.Writing

/-!
Emission from a trie whose tokens need not be declared. The dispatch tables refer to all of them, so
emission fails at the first one that is not declared, and this error reaches the caller from any
depth. A comparison chain is made from the declarations alone, so only a missing no-match token
counts, whatever is in the trie.
-/

namespace TokenTables

variable {α : Type} (settings : Settings) (vocabulary : Vocabulary) (trie : Trie)

/-! Emission to dispatch tables. -/

/-- What fails exactly for a bound token that is not declared, and with the first of them. -/
structure FailsAtForeign (result : Except EmitError α) : Prop where
  exists_ok_iff : (∃ value, result = .ok value) ↔
    ∀ spelling id, trie.find? spelling = some id → (vocabulary.get? id).isSome
  eq_error_iff : ∀ error, result = .error error ↔
    ∃ spelling id, trie.FirstForeign vocabulary spelling id ∧ error = .unknownToken id

variable {vocabulary trie} in
theorem FailsAtForeign.of_refers {result : Except EmitError α}
    (refers : Refers vocabulary (trie.written.map Prod.snd) result) :
    FailsAtForeign vocabulary trie result := by
  constructor
  case exists_ok_iff =>
    simp only [refers.exists_ok_iff, trie.mem_references_iff, forall_exists_index]
    exact forall_comm
  case eq_error_iff =>
    intro error
    rw [refers.eq_error_iff]
    constructor
    · rintro ⟨id, found, rfl⟩
      obtain ⟨spelling, first⟩ := (trie.firstForeign?_eq_some_iff vocabulary id).1 found
      exact ⟨spelling, id, first, rfl⟩
    · rintro ⟨spelling, id, first, rfl⟩
      exact ⟨id, (trie.firstForeign?_eq_some_iff vocabulary id).2 ⟨spelling, first⟩, rfl⟩

section

variable {settings} (strategy : settings.strategy = .trie)
include strategy

theorem refers_dataText :
    Refers vocabulary (trie.written.map Prod.snd) (Artifact.dataText settings vocabulary trie) := by
  unfold Artifact.dataText Artifact.recogniser
  rw [strategy]
  exact (Dispatch.refers_trieSteps _ vocabulary trie).map

theorem refers_emitArtifacts :
    Refers vocabulary (trie.written.map Prod.snd) (emitArtifacts settings vocabulary trie) := by
  have silent : emissionReport settings vocabulary = [] := by simp [emissionReport, strategy]
  unfold emitArtifacts
  rw [silent]
  exact (refers_dataText vocabulary trie strategy).map

end

/-! Emission to a comparison chain. -/

/-- What a chain comes to: the trie does not count, and only the no-match token can be missing. -/
structure NeedsNoMatch : Prop where
  no_unknownToken : ∀ id, Artifact.dataText settings vocabulary trie ≠ .error (.unknownToken id) ∧
    emitArtifacts settings vocabulary trie ≠ .error (.unknownToken id)
  /-- Without the no-match token no file is emitted and this is reported; for the text alone it is
  an error. -/
  undeclared_iff : vocabulary.idOf? settings.noMatchName = none ↔
    emitArtifacts settings vocabulary trie =
      .ok ⟨[], [Diagnostic.general .undeclaredNoMatch [settings.noMatchName]]⟩
  dataText_error_iff : ∀ error, Artifact.dataText settings vocabulary trie = .error error ↔
    vocabulary.idOf? settings.noMatchName = none ∧ error = .undeclaredNoMatch settings.noMatchName
  /-- With it both files are emitted, and nothing is reported. -/
  declared : ∀ id, vocabulary.idOf? settings.noMatchName = some id →
    ∃ text, Artifact.dataText settings vocabulary trie = .ok text ∧
      emitArtifacts settings vocabulary trie =
        .ok ⟨[⟨settings.listPath, Artifact.listText settings vocabulary⟩,
          ⟨settings.dataPath, text⟩], []⟩

section

variable {settings vocabulary} (strategy : settings.strategy = .linear)
include strategy

theorem emission_undeclared (undeclared : vocabulary.idOf? settings.noMatchName = none) :
    Artifact.dataText settings vocabulary trie =
        .error (.undeclaredNoMatch settings.noMatchName) ∧
      emitArtifacts settings vocabulary trie =
        .ok ⟨[], [Diagnostic.general .undeclaredNoMatch [settings.noMatchName]]⟩ := by
  constructor
  · unfold Artifact.dataText Artifact.recogniser
    rw [strategy, Chain.ofVocabulary?, undeclared]
    rfl
  · have reported : emissionReport settings vocabulary =
        [Diagnostic.general .undeclaredNoMatch [settings.noMatchName]] :=
      if_pos ⟨strategy, undeclared⟩
    unfold emitArtifacts
    rw [reported]
    rfl

theorem emission_declared {id : TokenId}
    (declared : vocabulary.idOf? settings.noMatchName = some id) :
    ∃ text, Artifact.dataText settings vocabulary trie = .ok text ∧
      emitArtifacts settings vocabulary trie =
        .ok ⟨[⟨settings.listPath, Artifact.listText settings vocabulary⟩,
          ⟨settings.dataPath, text⟩], []⟩ := by
  have written : ∃ text, Artifact.dataText settings vocabulary trie = .ok text := by
    unfold Artifact.dataText Artifact.recogniser
    rw [strategy, Chain.ofVocabulary?, declared]
    exact ⟨_, rfl⟩
  obtain ⟨text, written⟩ := written
  have silent : emissionReport settings vocabulary = [] := by simp [emissionReport, declared]
  refine ⟨text, written, ?_⟩
  unfold emitArtifacts
  rw [silent, written]
  rfl

theorem needsNoMatch : NeedsNoMatch settings vocabulary trie := by
  cases noMatch : vocabulary.idOf? settings.noMatchName with
  | none =>
    obtain ⟨text, files⟩ := emission_undeclared trie strategy noMatch
    constructor
    case no_unknownToken => simp [text, files]
    case undeclared_iff => exact iff_of_true noMatch files
    case dataText_error_iff => simp [text, noMatch, eq_comm]
    case declared => simp [noMatch]
  | some id =>
    obtain ⟨text, written, files⟩ := emission_declared trie strategy noMatch
    constructor <;> simp [written, files, noMatch]

end

def EmissionOutcome : Prop :=
  match settings.strategy with
  | .trie => FailsAtForeign vocabulary trie (Artifact.dataText settings vocabulary trie) ∧
      FailsAtForeign vocabulary trie (emitArtifacts settings vocabulary trie)
  | .linear => NeedsNoMatch settings vocabulary trie

/-- The tables of a trie fail at the first bound token that is not declared, in every dialect. With
them so does emission, and without them the tokens in the trie do not count. -/
theorem emission_fails_at_foreign :
    (∀ dialect, FailsAtForeign vocabulary trie (Dispatch.trieSteps dialect vocabulary trie)) ∧
      ∀ settings, EmissionOutcome settings vocabulary trie := by
  refine ⟨fun dialect => .of_refers (Dispatch.refers_trieSteps dialect vocabulary trie), ?_⟩
  intro settings
  unfold EmissionOutcome
  split
  next strategy =>
    exact ⟨.of_refers (refers_dataText vocabulary trie strategy),
      .of_refers (refers_emitArtifacts vocabulary trie strategy)⟩
  next strategy => exact needsNoMatch trie strategy

/-- A token of the root is written before what is below its children, also where the list of
bindings has it later. -/
example : (Trie.empty.insertAll [([97, 98], ⟨9⟩), ([98], ⟨8⟩)]).firstForeign? .empty =
    some ⟨8⟩ := by cbv

end TokenTables
