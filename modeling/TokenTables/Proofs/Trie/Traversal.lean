import TokenTables.Emit.Dispatch
import TokenTables.Proofs.Trie.Live
import TokenTables.Trie.Fold

/-!
The arena is a tree, after every history of insertions. Its root is in no slot, every other node is
in one slot of one earlier node and has a token at or below it, and all slots are at ASCII codes. So
what is computed by recursion from a node to its children comes to an end and stays inside the
arena. This is said of the bare nodes: a visit looks its node up in the array, which can fail, and is
allowed so many nested visits as there are nodes.
-/

namespace TokenTables

variable {α : Type}

/-- A visit of a bare node, with visits of its children in the order of their codes. It fails at an
index outside the array, and where visits are nested deeper than `depth`. -/
def visit (nodes : Array Node) (combine : Node → List (UInt8 × α) → α) : Nat → Nat → Option α
  | 0, _ => none
  | depth + 1, index => do
    let node ← nodes[index]?
    let below ← node.children.entries.mapM fun slot => do
      let value ← visit nodes combine depth slot.2
      return (slot.1, value)
    return combine node below

namespace Node

/-! What is made of a node and of the values of its children. -/

def depthOver (node : Node) (below : List (UInt8 × Nat)) : Nat :=
  let deepest := ((below.map fun (_, depth) => depth + 1).max?).getD 0
  if node.tokens.isEmpty then deepest else max deepest 1

def firstOver (node : Node) (below : List (UInt8 × Option TokenId)) : Option TokenId :=
  match node.tokens.entries with
  | (_, id) :: _ => some id
  | [] => below.findSome? fun (_, first) => first

def entriesOver (node : Node) (below : List (UInt8 × List (List UInt8 × TokenId))) :
    List (List UInt8 × TokenId) :=
  Trie.asciiCodes.flatMap fun code =>
    ((node.tokens.get? code).map fun id => ([code], id)).toList ++
      ((below.lookup code).getD []).map fun (codes, id) => (code :: codes, id)

def stepsOver (dialect : Dialect) (vocabulary : Vocabulary) (node : Node)
    (below : List (UInt8 × Except EmitError (List LayoutStep))) :
    Except EmitError (List LayoutStep) := do
  let tokenSlots ← node.tokens.entries.mapM (Dispatch.tokenSlot dialect vocabulary)
  let childSlots ← below.mapM fun (code, tables) =>
    return Dispatch.childSlot dialect code (← tables)
  return Dispatch.table dialect dialect.tokensOpening node.tokens.isEmpty tokenSlots
    ++ Dispatch.table dialect dialect.childrenOpening childSlots.isEmpty childSlots.flatten

end Node

namespace Trie

theorem mapM_visits {visits : Nat → Option α} {value : Nat → α} {slots : List (UInt8 × Nat)}
    (each : ∀ slot ∈ slots, visits slot.2 = some (value slot.2)) :
    (slots.mapM fun slot => do
      let value ← visits slot.2
      return (slot.1, value)) = some (slots.map fun slot => (slot.1, value slot.2)) := by
  induction slots with
  | nil => rfl
  | cons slot rest ih =>
    obtain ⟨first, later⟩ := List.forall_mem_cons.1 each
    rw [List.mapM_cons, first, ih later]
    rfl

/-- Children lie later in the arena, so nested visits are no more than the nodes that are left, and
the visit gives what is folded up from the leaves. -/
theorem visit_eq_fold (trie : Trie) (combine : Node → List (UInt8 × α) → α) (depth : Nat)
    {index : Nat} (inside : index < trie.nodeCount) (enough : trie.nodeCount ≤ index + depth) :
    visit trie.nodes combine depth index =
      some (trie.fold (fun index => combine (trie.node index)) index) := by
  induction depth generalizing index with
  | zero => omega
  | succ depth ih =>
    have present : trie.nodes[index]? = some (trie.node index) := by
      rw [node, Array.getElem?_eq_getElem inside]
      rfl
    have children : ∀ slot ∈ (trie.node index).children.entries,
        visit trie.nodes combine depth slot.2 =
          some (trie.fold (fun index => combine (trie.node index)) slot.2) := by
      intro slot member
      have bounds := trie.descending index slot.1 slot.2 member
      exact ih bounds.2 (by omega)
    rw [visit, present, Option.bind_eq_bind, Option.bind_some, mapM_visits children, fold_eq]
    rfl

structure Visited (trie : Trie) (index : Nat) : Prop where
  depth : visit trie.nodes Node.depthOver trie.nodeCount index = some (trie.depthFrom index)
  firstUnder : visit trie.nodes Node.firstOver trie.nodeCount index = some (trie.firstUnder index)
  entries : visit trie.nodes Node.entriesOver trie.nodeCount index = some (trie.entriesFrom index)
  steps : ∀ dialect vocabulary,
    visit trie.nodes (Node.stepsOver dialect vocabulary) trie.nodeCount index =
      some (Dispatch.nodeSteps dialect vocabulary trie index)

theorem visited (trie : Trie) {index : Nat} (inside : index < trie.nodeCount) :
    trie.Visited index := by
  have enough : trie.nodeCount ≤ index + trie.nodeCount := Nat.le_add_left ..
  constructor
  case depth => exact visit_eq_fold trie Node.depthOver _ inside enough
  case firstUnder => exact visit_eq_fold trie Node.firstOver _ inside enough
  case entries => exact visit_eq_fold trie Node.entriesOver _ inside enough
  case steps =>
    intro dialect vocabulary
    exact visit_eq_fold trie (Node.stepsOver dialect vocabulary) _ inside enough

/-- The nodes with their slots are a tree that no part of is without use. -/
structure TreeShaped (trie : Trie) : Prop where
  root_first : root = 0 ∧ root < trie.nodeCount
  root_in_no_slot : ∀ index code, (code, root) ∉ (trie.node index).children.entries
  one_slot : ∀ index, index ≠ root → index < trie.nodeCount →
    ∃! slot : Nat × UInt8, (slot.2, index) ∈ (trie.node slot.1).children.entries
  slot_descends : ∀ index code child, (code, child) ∈ (trie.node index).children.entries →
    index < child ∧ child < trie.nodeCount
  children_ascii : ∀ index, ∀ slot ∈ (trie.node index).children.entries,
    slot.1.toNat < asciiCount
  tokens_ascii : ∀ index, ∀ slot ∈ (trie.node index).tokens.entries, slot.1.toNat < asciiCount
  /-- Some token is bound in the node or below it. -/
  useful : ∀ index, index ≠ root → index < trie.nodeCount →
    ∃ codes below code, trie.walkFrom index codes = some below ∧
      (trie.token? below code).isSome
  visited : ∀ index, index < trie.nodeCount → trie.Visited index

theorem Live.exists_slot {trie : Trie} (live : trie.Live) {index : Nat} (notRoot : index ≠ root)
    (inside : index < trie.nodeCount) :
    ∃ parent code, trie.child? parent code = some index := by
  obtain ⟨codes, _, path, _⟩ := live index notRoot inside
  rcases List.eq_nil_or_concat' codes with rfl | ⟨before, last, rfl⟩
  · exact absurd (Option.some.inj path).symm notRoot
  · rw [walk_concat] at path
    obtain ⟨parent, _, step⟩ := Option.bind_eq_some_iff.1 path
    exact ⟨parent, last, step⟩

theorem Live.exists_token {trie : Trie} (live : trie.Live) {index : Nat} (notRoot : index ≠ root)
    (inside : index < trie.nodeCount) :
    ∃ codes below code, trie.walkFrom index codes = some below ∧
      (trie.token? below code).isSome := by
  obtain ⟨lead, _, path, ⟨rest, more, rfl⟩, bound⟩ := live index notRoot inside
  rw [find?_eq_findFrom, findFrom_append trie root lead more] at bound
  change ((trie.walk lead).bind _).isSome at bound
  rw [path, Option.bind_some] at bound
  rcases List.eq_nil_or_concat' rest with rfl | ⟨codes, code, rfl⟩
  · contradiction
  · rw [findFrom_concat] at bound
    cases deeper : trie.walkFrom index codes with
    | none => simp [deeper] at bound
    | some below =>
      rw [deeper] at bound
      exact ⟨codes, below, code, deeper, bound⟩

theorem WellFormed.treeShaped {trie : Trie} (tree : trie.WellFormed) (live : trie.Live) :
    trie.TreeShaped where
  root_first := ⟨rfl, trie.root_inside⟩
  root_in_no_slot index code member := by
    have bounds := trie.descending index code root member
    exact absurd bounds.1 (Nat.not_lt_zero index)
  one_slot index notRoot inside := by
    obtain ⟨parent, code, step⟩ := live.exists_slot notRoot inside
    refine ⟨(parent, code), (child?_eq_some_iff ..).1 step, ?_⟩
    intro slot member
    have only := tree.onlyParent ((child?_eq_some_iff ..).2 member) step
    exact Prod.ext only.1 only.2
  slot_descends := trie.descending
  children_ascii index slot member := by
    have ascii := tree.asciiChild ((child?_eq_some_iff ..).2 member)
    exact of_decide_eq_true ascii
  tokens_ascii index slot member := by
    have ascii := tree.asciiToken ((token?_eq_some_iff ..).2 member)
    exact of_decide_eq_true ascii
  useful _ notRoot inside := live.exists_token notRoot inside
  visited _ inside := trie.visited inside

/-- Insertions build a tree, whichever of them are refused. -/
theorem insertAll_treeShaped (history : List (List UInt8 × TokenId)) :
    (empty.insertAll history).TreeShaped :=
  (wellFormed_empty.insertAll history).treeShaped (live_empty.insertAll wellFormed_empty history)

end Trie

end TokenTables
