import TokenTables.Proofs.Trie.Continuation

/-!
No node is without use: each one but the root lies on the way to a bound spelling, after every
history of insertions. Hence a code is in both slots of some node just if one bound spelling
continues another.
-/

namespace TokenTables

namespace Trie

/-- Every node but the root lies on the way to a bound spelling. -/
def Live (trie : Trie) : Prop :=
  ∀ index, index ≠ root → index < trie.nodeCount →
    ∃ codes longer, trie.walk codes = some index ∧ Continues longer codes ∧
      (trie.find? longer).isSome

theorem live_empty : empty.Live := by
  intro index notRoot inside
  have single : empty.nodeCount = 1 := rfl
  have top : root = 0 := rfl
  omega

/-- The nodes that an insertion adds lie on the way to its own spelling, and the way to any other
bound spelling stays as it is. -/
theorem Live.insert {trie : Trie} (live : trie.Live) (tree : trie.WellFormed)
    (spelling : List UInt8) (id : TokenId) : (trie.insert spelling id).trie.Live := by
  cases outcome : trie.refusal? spelling with
  | some refusal => rwa [insert_refused outcome]
  | none =>
    obtain ⟨bindable, free⟩ := (refusal?_eq_none_iff trie spelling).1 outcome
    have bindings := tree.find?_insert outcome id
    obtain ⟨codes, last, rfl, _⟩ := bindable.exists_concat
    have larger := extends_grow trie.root_inside codes
    have walks := walk_insert_free trie id bindable free
    intro index notRoot bound
    have bound : index < (trie.grow root codes).2.nodeCount := by
      simpa [insert_free trie id bindable free] using bound
    by_cases old : index < trie.nodeCount
    · obtain ⟨path, longer, walk, continues, held⟩ := live index notRoot old
      refine ⟨path, longer, (walks path).trans (larger.walkFrom_kept walk), continues, ?_⟩
      rw [bindings]
      split
      · rfl
      · exact held
    · obtain ⟨lead, rest, rfl, path⟩ :=
        exists_walkFrom_of_new trie.root_inside (Nat.le_of_not_lt old) bound
      refine ⟨lead, (lead ++ rest) ++ [last], (walks lead).trans path, ?_, ?_⟩
      · exact ⟨rest ++ [last], by simp, List.append_assoc ..⟩
      · rw [bindings, if_pos rfl]
        rfl

theorem Live.insertAll {trie : Trie} (live : trie.Live) (tree : trie.WellFormed)
    (history : List (List UInt8 × TokenId)) : (trie.insertAll history).Live := by
  induction history generalizing trie with
  | nil => exact live
  | cons insertion later ih =>
    exact ih (live.insert tree insertion.1 insertion.2) (tree.insert insertion.1 insertion.2)

def Shared (trie : Trie) (index : Nat) (code : UInt8) : Prop :=
  (trie.token? index code).isSome ∧ (trie.child? index code).isSome

theorem shared_of_continues {trie : Trie} {shorter longer : List UInt8}
    (continues : Continues longer shorter) (short : (trie.find? shorter).isSome)
    (long : (trie.find? longer).isSome) : ∃ index code, trie.Shared index code := by
  obtain ⟨rest, more, rfl⟩ := continues
  rcases List.eq_nil_or_concat' shorter with rfl | ⟨codes, last, rfl⟩
  · simp [find?_nil] at short
  · rw [find?_concat] at short
    rw [List.append_assoc, find?_eq_findFrom, findFrom_append _ _ _ (by simp)] at long
    change ((trie.walk codes).bind _).isSome at long
    cases path : trie.walk codes with
    | none => simp [path] at short
    | some index =>
      rw [path, Option.bind_some] at short long
      rw [List.cons_append, List.nil_append, findFrom_cons trie index last more] at long
      refine ⟨index, last, short, ?_⟩
      cases edge : trie.child? index last with
      | none => simp [edge] at long
      | some child => rfl

theorem continues_of_shared {trie : Trie} (tree : trie.WellFormed) (live : trie.Live) {index : Nat}
    {code : UInt8} (shared : trie.Shared index code) :
    ∃ shorter longer, Continues longer shorter ∧ (trie.find? shorter).isSome ∧
      (trie.find? longer).isSome := by
  obtain ⟨token, edge⟩ := shared
  obtain ⟨child, edge⟩ := Option.isSome_iff_exists.1 edge
  have bounds := child_bounds edge
  have notRoot : child ≠ root := by
    have top : root = 0 := rfl
    omega
  obtain ⟨codes, longer, path, continues, long⟩ := live child notRoot bounds.2
  -- The last edge of the way to the child is the shared code: no other edge leads there.
  rcases List.eq_nil_or_concat' codes with rfl | ⟨before, last, rfl⟩
  · exact absurd (Option.some.inj path).symm notRoot
  · have whole := path
    rw [walk_concat] at path
    obtain ⟨parent, above, step⟩ := Option.bind_eq_some_iff.1 path
    obtain ⟨rfl, rfl⟩ := tree.onlyParent step edge
    refine ⟨before ++ [last], longer, continues, ?_, long⟩
    rw [find?_concat, above]
    exact token

theorem exists_shared_iff {trie : Trie} (tree : trie.WellFormed) (live : trie.Live) :
    (∃ index code, trie.Shared index code) ↔
      ∃ shorter longer, Continues longer shorter ∧ (trie.find? shorter).isSome ∧
        (trie.find? longer).isSome := by
  constructor
  · rintro ⟨index, code, shared⟩
    exact continues_of_shared tree live shared
  · rintro ⟨shorter, longer, continues, short, long⟩
    exact shared_of_continues continues short long

end Trie

end TokenTables
