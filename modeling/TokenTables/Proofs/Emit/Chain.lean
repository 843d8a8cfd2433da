import TokenTables.Emit.Chain
import TokenTables.Proofs.Trie.Construction

/-!
The two strategies agree. The comparison chain and the trie of one vocabulary give every ASCII text
the same token, and every text whatsoever when no spelling is refused for its characters.
-/

namespace TokenTables

theorem Vocabulary.position?_isSome_iff (vocabulary : Vocabulary) (name : String) :
    (vocabulary.position? name).isSome ↔ name ∈ vocabulary.names := by
  rw [← not_iff_not, Option.not_isSome_iff_eq_none, position?_eq_none_iff]

namespace Chain

theorem lookup_ofVocabulary? {vocabulary : Vocabulary} {noMatch : String} {fallback : TokenId}
    (declared : vocabulary.idOf? noMatch = some fallback) :
    ∃ chain, ofVocabulary? vocabulary noMatch = some chain ∧
      ∀ text, chain.lookup text = (vocabulary.firstSpelled text).getD fallback := by
  refine ⟨_, by rw [ofVocabulary?, declared, Option.map_some], fun text => ?_⟩
  exact congrArg (Option.getD · fallback)
    (Vocabulary.lookup_spelled Function.injective_id vocabulary text)

end Chain

theorem firstSpelled_of_not_ascii {vocabulary : Vocabulary} {policy : OverlapPolicy}
    {file : Option String}
    (accepted : Diagnostic.mentions (buildTrie vocabulary policy file).report 3001 = false)
    {text : String} (foreign : ¬IsAsciiText text) : vocabulary.firstSpelled text = none := by
  rw [Vocabulary.firstSpelled, Option.map_eq_none_iff, List.find?_eq_none]
  intro entry member spelt
  have listed : (entry.1, entry.2, text) ∈ vocabulary.spelled :=
    (vocabulary.mem_spelled_iff ..).2 ⟨member, by simpa using spelt⟩
  cases found : firstNonAscii text with
  | none => exact foreign ((firstNonAscii_eq_none_iff text).1 found)
  | some character =>
    exact List.any_eq_false.1 accepted _ (nonAscii_mem_report policy file listed found) rfl

/-- For every declared no-match token there is a chain, and it gives each ASCII text the token that
the trie gives it, or the no-match token where the trie has none. Without a report of a spelling
that is not ASCII this holds of all texts. -/
theorem chain_lookup_eq_trie_lookup (vocabulary : Vocabulary) (policy : OverlapPolicy)
    (file : Option String) (noMatch : String) (declared : noMatch ∈ vocabulary.names) :
    ∃ chain fallback, Chain.ofVocabulary? vocabulary noMatch = some chain ∧
      vocabulary.idOf? noMatch = some fallback ∧
      (∀ text, IsAsciiText text → chain.lookup text =
        ((buildTrie vocabulary policy file).trie.lookup text).getD fallback) ∧
      (Diagnostic.mentions (buildTrie vocabulary policy file).report 3001 = false →
        ∀ text, chain.lookup text =
          ((buildTrie vocabulary policy file).trie.lookup text).getD fallback) := by
  obtain ⟨position, found⟩ :=
    Option.isSome_iff_exists.1 ((vocabulary.position?_isSome_iff noMatch).2 declared)
  have fallback : vocabulary.idOf? noMatch = some (TokenId.ofNat position) := by
    rw [Vocabulary.idOf?, found, Option.map_some]
  obtain ⟨chain, made, lookup⟩ := Chain.lookup_ofVocabulary? fallback
  refine ⟨chain, TokenId.ofNat position, made, fallback, fun text ascii => ?_,
    fun accepted text => ?_⟩
  · rw [lookup, lookup_buildTrie, if_pos ascii]
  · rw [lookup, lookup_buildTrie]
    split
    next => rfl
    next foreign => rw [firstSpelled_of_not_ascii accepted foreign]

def repeating : Vocabulary where
  declarations :=
    [.make "UNDEFINED" none 1, .make "MINUS" (some "-") 2, .make "DASH" (some "-") 3,
      .make "ARROW" (some "->") 4]
  distinct := by decide

/-- The chain and the trie of `repeating` agree on all texts: its report is about spellings that
are taken, which go to their holder in both. -/
theorem repeating_chain :
    "UNDEFINED" ∈ repeating.names ∧
      Diagnostic.mentions (buildTrie repeating .warn none).report 3001 = false ∧
      ∃ chain fallback, Chain.ofVocabulary? repeating "UNDEFINED" = some chain ∧
        repeating.idOf? "UNDEFINED" = some fallback ∧
        ∀ text, chain.lookup text =
          ((buildTrie repeating .warn none).trie.lookup text).getD fallback := by
  have declared : "UNDEFINED" ∈ repeating.names := by decide
  have accepted : Diagnostic.mentions (buildTrie repeating .warn none).report 3001 = false := by
    decide
  obtain ⟨chain, fallback, made, named, _, agree⟩ :=
    chain_lookup_eq_trie_lookup repeating .warn none "UNDEFINED" declared
  exact ⟨declared, accepted, chain, fallback, made, named, agree accepted⟩

end TokenTables
