import TokenTables.Proofs.Emit.Description
import TokenTables.Proofs.Trie.Correspondence

/-!
The order of insertions does not show. Bindings with different spellings are all accepted, so any
order of them leaves the same bindings. The nodes are numbered in the order in which they are
created, but whatever is read off a trie or written for it does without these numbers.
-/

namespace TokenTables

namespace Trie

theorem WellFormed.accepted_eq {trie : Trie} (tree : trie.WellFormed)
    {history : List (List UInt8 × TokenId)} (bindable : ∀ binding ∈ history, Bindable binding.1)
    (distinct : (history.map Prod.fst).Nodup)
    (free : ∀ binding ∈ history, trie.find? binding.1 = none) :
    trie.accepted history = history := by
  induction history generalizing trie with
  | nil => rfl
  | cons binding later ih =>
    obtain ⟨spelling, id⟩ := binding
    obtain ⟨first, laterBindable⟩ := List.forall_mem_cons.1 bindable
    obtain ⟨firstFree, laterFree⟩ := List.forall_mem_cons.1 free
    rw [List.map_cons, List.nodup_cons] at distinct
    have outcome := (refusal?_eq_none_iff trie spelling).2 ⟨first, firstFree⟩
    have rest : (trie.insert spelling id).trie.accepted later = later := by
      apply ih (tree.insert spelling id) laterBindable distinct.2
      intro other member
      have different : other.1 ≠ spelling := by
        intro same
        exact distinct.1 (List.mem_map.2 ⟨other, member, same⟩)
      rw [tree.find?_insert outcome id, if_neg different, laterFree other member]
    simp only [accepted, refusal_insert, outcome, rest]

theorem find?_insertAll_of_distinct {history : List (List UInt8 × TokenId)}
    (bindable : ∀ binding ∈ history, Bindable binding.1)
    (distinct : (history.map Prod.fst).Nodup) (spelling : List UInt8) (id : TokenId) :
    (empty.insertAll history).find? spelling = some id ↔ (spelling, id) ∈ history := by
  have accepted := wellFormed_empty.accepted_eq bindable distinct fun _ _ => find?_empty _
  rw [wellFormed_empty.find?_insertAll_iff, accepted, find?_empty]
  simp

namespace Corresponds

variable {first second : Trie}

theorem trieSteps_eq (both : first.Corresponds second) (dialect : Dialect)
    (vocabulary : Vocabulary) :
    Dispatch.trieSteps dialect vocabulary first = Dispatch.trieSteps dialect vocabulary second := by
  have nodes : Dispatch.nodeSteps dialect vocabulary first root =
      Dispatch.nodeSteps dialect vocabulary second root := by
    apply both.fold_eq _ (meet_root first second)
    intro index other meet
    funext below
    simp only [both.tokens_eq meet]
  rw [Dispatch.trieSteps, Dispatch.trieSteps, nodes]

end Corresponds

/-- Nothing that is read off two tries or written for them tells them apart. -/
structure Equivalent (first second : Trie) : Prop where
  entries_eq : first.entries = second.entries
  nodeCount_eq : first.nodeCount = second.nodeCount
  depth_eq : first.depth = second.depth
  longestMatch_eq : ∀ input, first.longestMatch input = second.longestMatch input
  trieText_eq : ∀ dialect vocabulary,
    Dispatch.trieText dialect vocabulary first = Dispatch.trieText dialect vocabulary second

theorem equivalent_of_find?_eq {first second : Trie} (firstTree : first.WellFormed)
    (secondTree : second.WellFormed) (firstLive : first.Live) (secondLive : second.Live)
    (same : ∀ spelling, first.find? spelling = second.find? spelling) :
    first.Equivalent second := by
  have both := corresponds_of_find?_eq firstTree secondTree firstLive secondLive same
  constructor
  case entries_eq => exact both.entries_eq
  case nodeCount_eq =>
    apply Nat.le_antisymm
    · exact both.nodeCount_le firstLive secondTree
    · exact both.symm.nodeCount_le secondLive firstTree
  case depth_eq => exact both.depth_eq
  case longestMatch_eq => exact (firstTree.longestMatch_eq_iff secondTree).2 same
  case trieText_eq =>
    intro dialect vocabulary
    rw [Dispatch.trieText, Dispatch.trieText, both.trieSteps_eq dialect vocabulary]

/-- Different spellings can be inserted in any order: all are bound, and the tries cannot be told
apart. Where the tokens are declared, both are written, and as the same text. -/
theorem insertAll_perm {first second : List (List UInt8 × TokenId)}
    (distinct : (first.map Prod.fst).Nodup) (bindable : ∀ binding ∈ first, Bindable binding.1)
    (order : first.Perm second) :
    (∀ spelling id, (empty.insertAll first).find? spelling = some id ↔ (spelling, id) ∈ first) ∧
      (empty.insertAll first).Equivalent (empty.insertAll second) ∧
      ∀ dialect vocabulary, vocabulary.Declares first →
        ∃ text, Dispatch.trieText dialect vocabulary (empty.insertAll first) = .ok text ∧
          Dispatch.trieText dialect vocabulary (empty.insertAll second) = .ok text := by
  have bound := find?_insertAll_of_distinct bindable distinct
  have otherBindable : ∀ binding ∈ second, Bindable binding.1 := fun binding member =>
    bindable binding (order.mem_iff.2 member)
  have otherBound := find?_insertAll_of_distinct otherBindable
    ((order.map Prod.fst).nodup_iff.1 distinct)
  have same : ∀ spelling, (empty.insertAll first).find? spelling =
      (empty.insertAll second).find? spelling := by
    intro spelling
    ext id
    rw [bound, otherBound, order.mem_iff]
  have equivalent := equivalent_of_find?_eq (wellFormed_empty.insertAll first)
    (wellFormed_empty.insertAll second) (live_empty.insertAll wellFormed_empty first)
    (live_empty.insertAll wellFormed_empty second) same
  refine ⟨bound, equivalent, ?_⟩
  intro dialect vocabulary declares
  obtain ⟨steps, written⟩ := Dispatch.exists_trieSteps dialect declares.get?_isSome
  have text : Dispatch.trieText dialect vocabulary (empty.insertAll first) =
      .ok (layOut steps) := by
    rw [Dispatch.trieText, written]
    rfl
  exact ⟨layOut steps, text, (equivalent.trieText_eq dialect vocabulary).symm.trans text⟩

def forkedBindings : List (List UInt8 × TokenId) :=
  [([45, 62], .ofNat 0), ([61, 61], .ofNat 1), ([45, 45], .ofNat 0)]

def forkedBindingsRotated : List (List UInt8 × TokenId) :=
  [([61, 61], .ofNat 1), ([45, 45], .ofNat 0), ([45, 62], .ofNat 0)]

/-- The node on the shared path is created first in one order and last in the other, and still the
tries cannot be told apart. -/
theorem forkedBindings_rotated :
    (forkedBindings.map Prod.fst).Nodup ∧ (∀ binding ∈ forkedBindings, Bindable binding.1) ∧
      forkedBindings.Perm forkedBindingsRotated ∧ quoteAndComma.Declares forkedBindings ∧
      (empty.insertAll forkedBindings).walk [45] = some 1 ∧
      (empty.insertAll forkedBindingsRotated).walk [45] = some 2 ∧
      (empty.insertAll forkedBindings).Equivalent (empty.insertAll forkedBindingsRotated) ∧
      ∃ text,
        Dispatch.trieText ⟨.c, "TOK_", "Token::Kind"⟩ quoteAndComma
          (empty.insertAll forkedBindings) = .ok text ∧
        Dispatch.trieText ⟨.c, "TOK_", "Token::Kind"⟩ quoteAndComma
          (empty.insertAll forkedBindingsRotated) = .ok text := by
  have distinct : (forkedBindings.map Prod.fst).Nodup := by decide
  have bindable : ∀ binding ∈ forkedBindings, Bindable binding.1 := by
    unfold Bindable
    decide +kernel
  have order : forkedBindings.Perm forkedBindingsRotated := by decide
  have declares : quoteAndComma.Declares forkedBindings := by
    unfold Vocabulary.Declares
    decide
  have firstPath : (empty.insertAll forkedBindings).walk [45] = some 1 := by cbv
  have secondPath : (empty.insertAll forkedBindingsRotated).walk [45] = some 2 := by cbv
  have same := (insertAll_perm distinct bindable order).2
  exact ⟨distinct, bindable, order, declares, firstPath, secondPath, same.1, same.2 _ _ declares⟩

end Trie

end TokenTables
