import TokenTables.Proofs.Trie.Binding

/-!
What one insertion comes to. It is refused for one reason or for none: the spelling is empty, or it
has a byte beyond the ASCII codes, or it is bound. A refused insertion leaves the trie as it was. An
accepted one binds its own spelling and nothing else, and no node changes its place.
-/

namespace TokenTables

namespace Trie

/-- The outcome of inserting a spelling says just what kept it out, and what the insertion leaves is
the trie before it with one more binding or the same trie. -/
structure Insertion.Justified (insertion : Insertion) (before : Trie) (spelling : List UInt8)
    (id : TokenId) : Prop where
  empty_iff : insertion.refusal = some .empty ↔ spelling = []
  /-- The byte is the first one beyond the ASCII codes. -/
  nonAscii_iff : ∀ byte, insertion.refusal = some (.nonAscii byte) ↔
    ∃ lead rest, spelling = lead ++ byte :: rest ∧ (∀ code ∈ lead, code.toNat < asciiCount) ∧
      asciiCount ≤ byte.toNat
  occupied_iff : ∀ holder, insertion.refusal = some (.occupied holder) ↔
    (∀ code ∈ spelling, code.toNat < asciiCount) ∧ before.find? spelling = some holder
  accepted_iff : insertion.refusal = none ↔
    spelling ≠ [] ∧ (∀ code ∈ spelling, code.toNat < asciiCount) ∧ before.find? spelling = none
  unchanged : insertion.refusal ≠ none → insertion.trie = before
  find?_eq : insertion.refusal = none → ∀ other, insertion.trie.find? other =
    if other = spelling then some id else before.find? other
  path_kept : ∀ codes index, before.walk codes = some index →
    insertion.trie.walk codes = some index
  /-- Paths that were not there before lead to nodes that were not there before. -/
  path_new : ∀ codes index, insertion.trie.walk codes = some index →
    before.walk codes = some index ∨ before.nodeCount ≤ index

/-! The reasons for a refusal, one by one. -/

theorem isAscii_iff (code : UInt8) : isAscii code = true ↔ code.toNat < asciiCount :=
  decide_eq_true_iff

theorem refusal?_eq_empty_iff (trie : Trie) (spelling : List UInt8) :
    trie.refusal? spelling = some .empty ↔ spelling = [] := by
  by_cases nothing : spelling = []
  · simp [refusal?, nothing]
  · rw [refusal?, if_neg nothing]
    cases spelling.find? fun code => !isAscii code <;> simp [nothing]

theorem refusal?_eq_nonAscii_iff (trie : Trie) (spelling : List UInt8) (byte : UInt8) :
    trie.refusal? spelling = some (.nonAscii byte) ↔
      ∃ lead rest, spelling = lead ++ byte :: rest ∧ (∀ code ∈ lead, code.toNat < asciiCount) ∧
        asciiCount ≤ byte.toNat := by
  have first : trie.refusal? spelling = some (.nonAscii byte) ↔
      spelling.find? (fun code => !isAscii code) = some byte := by
    by_cases nothing : spelling = []
    · simp [refusal?, nothing]
    · rw [refusal?, if_neg nothing]
      cases spelling.find? fun code => !isAscii code <;> simp
  rw [first, List.find?_eq_some_iff_append]
  constructor
  · rintro ⟨foreign, lead, rest, split, before⟩
    refine ⟨lead, rest, split, fun code member => ?_, ?_⟩
    · simpa [isAscii] using before code member
    · simpa [isAscii] using foreign
  · rintro ⟨lead, rest, split, before, foreign⟩
    refine ⟨?_, lead, rest, split, fun code member => ?_⟩
    · simpa [isAscii] using foreign
    · simpa [isAscii] using before code member

theorem refusal?_eq_occupied_iff (trie : Trie) (spelling : List UInt8) (holder : TokenId) :
    trie.refusal? spelling = some (.occupied holder) ↔
      (∀ code ∈ spelling, code.toNat < asciiCount) ∧ trie.find? spelling = some holder := by
  simp only [← isAscii_iff]
  by_cases nothing : spelling = []
  · simp [refusal?, nothing, find?_nil]
  · constructor
    · intro refused
      rw [refusal?, if_neg nothing] at refused
      cases foreign : spelling.find? fun code => !isAscii code with
      | some byte => simp [foreign] at refused
      | none =>
        refine ⟨fun code member => ?_, by simpa [foreign] using refused⟩
        simpa using List.find?_eq_none.1 foreign code member
    · intro taken
      exact refusal?_occupied ⟨nothing, taken.1⟩ taken.2

/-! What an insertion leaves. -/

theorem walk_insert_kept {trie : Trie} (spelling : List UInt8) (id : TokenId) {codes : List UInt8}
    {index : Nat} (found : trie.walk codes = some index) :
    (trie.insert spelling id).trie.walk codes = some index := by
  cases outcome : trie.refusal? spelling with
  | some refusal => rwa [insert_refused outcome]
  | none =>
    obtain ⟨bindable, free⟩ := (refusal?_eq_none_iff trie spelling).1 outcome
    obtain ⟨path, last, rfl, _⟩ := bindable.exists_concat
    rw [walk_insert_free trie id bindable free]
    exact (extends_grow trie.root_inside path).walkFrom_kept found

theorem walk_insert_new {trie : Trie} {spelling : List UInt8} {id : TokenId} {codes : List UInt8}
    {index : Nat} (found : (trie.insert spelling id).trie.walk codes = some index) :
    trie.walk codes = some index ∨ trie.nodeCount ≤ index := by
  cases outcome : trie.refusal? spelling with
  | some refusal =>
    rw [insert_refused outcome] at found
    exact .inl found
  | none =>
    obtain ⟨bindable, free⟩ := (refusal?_eq_none_iff trie spelling).1 outcome
    obtain ⟨path, last, rfl, _⟩ := bindable.exists_concat
    rw [walk_insert_free trie id bindable free] at found
    exact (extends_grow trie.root_inside path).walkFrom_new found

theorem WellFormed.insert_justified {trie : Trie} (tree : trie.WellFormed) (spelling : List UInt8)
    (id : TokenId) : (trie.insert spelling id).Justified trie spelling id where
  empty_iff := by rw [refusal_insert, refusal?_eq_empty_iff]
  nonAscii_iff byte := by rw [refusal_insert, refusal?_eq_nonAscii_iff]
  occupied_iff holder := by rw [refusal_insert, refusal?_eq_occupied_iff]
  accepted_iff := by
    rw [refusal_insert, refusal?_eq_none_iff, Bindable, and_assoc]
    simp only [isAscii_iff]
  unchanged refused := by
    rw [refusal_insert] at refused
    obtain ⟨refusal, reason⟩ := Option.ne_none_iff_exists'.1 refused
    rw [insert_refused reason]
  find?_eq accepted other := by
    rw [refusal_insert] at accepted
    exact tree.find?_insert accepted id other
  path_kept _ _ found := walk_insert_kept spelling id found
  path_new _ _ found := walk_insert_new found

/-- After every history of insertions the next one is justified. -/
theorem insert_after_history (history : List (List UInt8 × TokenId)) (spelling : List UInt8)
    (id : TokenId) : ((empty.insertAll history).insert spelling id).Justified
      (empty.insertAll history) spelling id :=
  (wellFormed_empty.insertAll history).insert_justified spelling id

end Trie

end TokenTables
