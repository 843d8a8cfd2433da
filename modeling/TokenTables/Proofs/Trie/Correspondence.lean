import Mathlib.Data.Fintype.Card
import Mathlib.Data.List.Sort
import TokenTables.Proofs.Trie.Live
import TokenTables.Proofs.Trie.LongestMatch
import TokenTables.Trie.Fold

/-!
Tries that differ in the numbers of their nodes only. The bindings of a trie without useless nodes
say which codes lead to a node, and what tokens are there. So two such tries with the same bindings
have their nodes at the ends of the same paths, and every value that is folded up from the leaves
without the numbers is the same at both ends of a path.
-/

namespace TokenTables

namespace Slots

variable {α β γ : Type}

theorem mem_map_iff (slots : Slots α) (value : α → γ) (code : UInt8) (held : γ) :
    (code, held) ∈ slots.entries.map (fun slot => (slot.1, value slot.2)) ↔
      (slots.get? code).map value = some held := by
  simp only [List.mem_map, Prod.exists, Prod.mk.injEq, Option.map_eq_some_iff, get?_eq_some_iff]
  constructor
  · rintro ⟨_, slot, member, rfl, same⟩
    exact ⟨slot, member, same⟩
  · rintro ⟨slot, member, same⟩
    exact ⟨code, slot, member, rfl, same⟩

theorem map_eq_map {first : Slots α} {second : Slots β} {value : α → γ} {other : β → γ}
    (same : ∀ code, (first.get? code).map value = (second.get? code).map other) :
    first.entries.map (fun slot => (slot.1, value slot.2)) =
      second.entries.map (fun slot => (slot.1, other slot.2)) := by
  have once : ∀ {slots : List (UInt8 × γ)},
      slots.Pairwise (fun first second => first.1 < second.1) → slots.Nodup := fun ascending =>
    ascending.imp fun {_ _} less same => by
      rw [same] at less
      exact UInt8.lt_irrefl _ less
  have members := (List.perm_ext_iff_of_nodup (once (first.map_ascending value))
    (once (second.map_ascending other))).2 fun (code, held) => by
      rw [mem_map_iff, mem_map_iff, same]
  apply List.Perm.eq_of_pairwise ?_ (first.map_ascending value) (second.map_ascending other) members
  intro left right _ _ less greater
  exact absurd greater (UInt8.lt_asymm less)

theorem eq_of_get? {first second : Slots α}
    (same : ∀ code, first.get? code = second.get? code) : first = second := by
  have entries : first.entries = second.entries := by
    have mapped : first.entries.map (fun slot => (slot.1, id slot.2)) =
        second.entries.map (fun slot => (slot.1, id slot.2)) :=
      map_eq_map fun code => congrArg _ (same code)
    simpa using mapped
  cases first
  cases second
  cases entries
  rfl

end Slots

namespace Trie

theorem walk_isSome_of_continues {trie : Trie} {codes longer : List UInt8}
    (continues : Continues longer codes) (bound : (trie.find? longer).isSome) :
    (trie.walk codes).isSome := by
  obtain ⟨rest, more, rfl⟩ := continues
  rw [find?_eq_findFrom, findFrom_append trie root codes more] at bound
  change ((trie.walk codes).bind _).isSome at bound
  cases path : trie.walk codes with
  | none => rw [path] at bound; contradiction
  | some index => rfl

theorem Live.exists_walk {trie : Trie} (live : trie.Live) {index : Nat}
    (inside : index < trie.nodeCount) : ∃ codes, trie.walk codes = some index := by
  by_cases top : index = root
  · exact ⟨[], congrArg some top.symm⟩
  · obtain ⟨codes, _, path, _⟩ := live index top inside
    exact ⟨codes, path⟩

/-- Apart from the empty one, the codes that lead to a node are those that a bound spelling
continues. -/
theorem Live.walk_isSome_iff {trie : Trie} (live : trie.Live) (tree : trie.WellFormed)
    (codes : List UInt8) : (trie.walk codes).isSome ↔
      codes = [] ∨ ∃ longer, Continues longer codes ∧ (trie.find? longer).isSome := by
  constructor
  · intro leads
    obtain ⟨index, path⟩ := Option.isSome_iff_exists.1 leads
    by_cases top : index = root
    · exact .inl (tree.walk_injective (path.trans (congrArg some top)) rfl)
    · obtain ⟨others, longer, otherPath, continues, bound⟩ := live index top (walk_inside path)
      obtain rfl := tree.walk_injective path otherPath
      exact .inr ⟨longer, continues, bound⟩
  · rintro (rfl | ⟨longer, continues, bound⟩)
    · rfl
    · exact walk_isSome_of_continues continues bound

/-- The same codes lead to nodes in both tries, and the same spellings are bound to the same
tokens. -/
structure Corresponds (first second : Trie) : Prop where
  walk_isSome : ∀ codes, (first.walk codes).isSome ↔ (second.walk codes).isSome
  find?_eq : ∀ spelling, first.find? spelling = second.find? spelling

theorem Corresponds.symm {first second : Trie} (both : first.Corresponds second) :
    second.Corresponds first :=
  ⟨fun codes => (both.walk_isSome codes).symm, fun spelling => (both.find?_eq spelling).symm⟩

theorem corresponds_of_find?_eq {first second : Trie} (firstTree : first.WellFormed)
    (secondTree : second.WellFormed) (firstLive : first.Live) (secondLive : second.Live)
    (same : ∀ spelling, first.find? spelling = second.find? spelling) :
    first.Corresponds second where
  walk_isSome codes := by
    rw [firstLive.walk_isSome_iff firstTree, secondLive.walk_isSome_iff secondTree]
    simp only [same]
  find?_eq := same

def Meet (first second : Trie) (index other : Nat) : Prop :=
  ∃ codes, first.walk codes = some index ∧ second.walk codes = some other

theorem meet_root (first second : Trie) : Meet first second root root := ⟨[], rfl, rfl⟩

variable {first second : Trie}

namespace Corresponds

theorem token?_eq (both : first.Corresponds second) {index other : Nat}
    (meet : Meet first second index other) (code : UInt8) :
    first.token? index code = second.token? other code := by
  obtain ⟨codes, path, otherPath⟩ := meet
  have bound := both.find?_eq (codes ++ [code])
  rwa [find?_concat, find?_concat, path, otherPath, Option.bind_some, Option.bind_some] at bound

theorem tokens_eq (both : first.Corresponds second) {index other : Nat}
    (meet : Meet first second index other) :
    (first.node index).tokens = (second.node other).tokens :=
  Slots.eq_of_get? (both.token?_eq meet)

theorem child?_cases (both : first.Corresponds second) {index other : Nat}
    (meet : Meet first second index other) (code : UInt8) :
    (first.child? index code = none ∧ second.child? other code = none) ∨
      ∃ child otherChild, first.child? index code = some child ∧
        second.child? other code = some otherChild ∧ Meet first second child otherChild := by
  obtain ⟨codes, path, otherPath⟩ := meet
  have leads := both.walk_isSome (codes ++ [code])
  have deeper : first.walk (codes ++ [code]) = first.child? index code := by
    rw [walk_concat, path, Option.bind_some]
  have otherDeeper : second.walk (codes ++ [code]) = second.child? other code := by
    rw [walk_concat, otherPath, Option.bind_some]
  rw [deeper, otherDeeper] at leads
  cases edge : first.child? index code with
  | none =>
    rw [edge] at leads
    exact .inl ⟨rfl, Option.not_isSome_iff_eq_none.1 fun some => absurd (leads.2 some) (by simp)⟩
  | some child =>
    rw [edge] at leads
    obtain ⟨otherChild, otherEdge⟩ := Option.isSome_iff_exists.1 (leads.1 rfl)
    exact .inr ⟨child, otherChild, rfl, otherEdge, codes ++ [code], deeper.trans edge,
      otherDeeper.trans otherEdge⟩

/-- Nodes that meet have the same value, if what combines the values does not tell them apart. -/
theorem fold_eq (both : first.Corresponds second) {α : Type}
    {combine otherCombine : Nat → List (UInt8 × α) → α}
    (same : ∀ index other, Meet first second index other → combine index = otherCombine other)
    {index other : Nat} (meet : Meet first second index other) :
    first.fold combine index = second.fold otherCombine other := by
  induction index using first.below_induction generalizing other with
  | step index ih =>
    rw [Trie.fold_eq, Trie.fold_eq, same index other meet]
    apply congrArg
    apply Slots.map_eq_map
    intro code
    change (first.child? index code).map _ = (second.child? other code).map _
    rcases both.child?_cases meet code with ⟨none, otherNone⟩ | ⟨child, otherChild, edge, rest⟩
    · rw [none, otherNone]
      rfl
    · rw [edge, rest.1, Option.map_some, Option.map_some, ih code child edge rest.2]

theorem entries_eq (both : first.Corresponds second) : first.entries = second.entries := by
  apply both.fold_eq _ (meet_root first second)
  intro index other meet
  funext below
  simp only [both.token?_eq meet]

theorem depth_eq (both : first.Corresponds second) : first.depth = second.depth := by
  apply both.fold_eq _ (meet_root first second)
  intro index other meet
  funext below
  rw [both.tokens_eq meet]

/-- A node of one trie goes to the node of the other at the end of its path. -/
theorem nodeCount_le (both : first.Corresponds second) (live : first.Live)
    (tree : second.WellFormed) : first.nodeCount ≤ second.nodeCount := by
  have meets : ∀ index : Fin first.nodeCount, ∃ other : Fin second.nodeCount,
      Meet first second index other := by
    intro index
    obtain ⟨codes, path⟩ := live.exists_walk index.isLt
    have leads := (both.walk_isSome codes).1 (by rw [path]; rfl)
    obtain ⟨other, otherPath⟩ := Option.isSome_iff_exists.1 leads
    exact ⟨⟨other, walk_inside otherPath⟩, codes, path, otherPath⟩
  choose moved meet using meets
  have injective : Function.Injective moved := by
    intro index other same
    obtain ⟨codes, path, movedPath⟩ := meet index
    obtain ⟨others, otherPath, otherMoved⟩ := meet other
    rw [← same] at otherMoved
    obtain rfl := tree.walk_injective movedPath otherMoved
    exact Fin.ext (Option.some.inj (path.symm.trans otherPath))
  simpa using Fintype.card_le_of_injective moved injective

end Corresponds

end Trie

end TokenTables
