import Mathlib.Tactic.Common
import TokenTables.Trie.Basic

/-!
The arena of a trie seen through its two readings, the child and the token of a node at a code.
Each operation on the arena has one equation for each reading. Growing a path only adds nodes:
tokens stay as they are, children stay where they are, and every new child is a new node.
-/

namespace TokenTables

namespace Slots

variable {α : Type}

private theorem lookup_cons_ite (code held : UInt8) (value : α) (rest : List (UInt8 × α)) :
    ((held, value) :: rest).lookup code = if code = held then some value else rest.lookup code := by
  by_cases same : code = held
  · subst same
    simp
  · rw [List.lookup_cons, beq_eq_false_iff_ne.2 same, if_neg same]

theorem lookup_map_value {β : Type} (value : α → β) (slots : List (UInt8 × α)) (code : UInt8) :
    (slots.map fun slot => (slot.1, value slot.2)).lookup code =
      (slots.lookup code).map value := by
  induction slots with
  | nil => rfl
  | cons slot rest ih =>
    rw [List.map_cons, List.lookup_cons, List.lookup_cons]
    split
    next => rfl
    next => exact ih

theorem get?_insert (slots : Slots α) (code other : UInt8) (value : α) :
    (slots.insert code value).get? other =
      if other = code then some value else slots.get? other := by
  obtain ⟨entries, ascending⟩ := slots
  change (insertEntry code value entries).lookup other =
    if other = code then some value else entries.lookup other
  clear ascending
  induction entries with
  | nil => exact lookup_cons_ite other code value []
  | cons head rest ih =>
    obtain ⟨held, old⟩ := head
    unfold insertEntry
    split
    next => exact lookup_cons_ite other code value _
    next =>
      split
      next here =>
        subst here
        simp only [lookup_cons_ite]
        split_ifs <;> rfl
      next different =>
        simp only [lookup_cons_ite, ih]
        by_cases same : other = held
        · subst same
          simp [Ne.symm different]
        · simp [same]

theorem get?_eq_some_iff (slots : Slots α) (code : UInt8) (value : α) :
    slots.get? code = some value ↔ (code, value) ∈ slots.entries := by
  obtain ⟨entries, ascending⟩ := slots
  change entries.lookup code = some value ↔ (code, value) ∈ entries
  induction entries with
  | nil => simp
  | cons head rest ih =>
    obtain ⟨held, old⟩ := head
    obtain ⟨above, restAscending⟩ := List.pairwise_cons.1 ascending
    rw [lookup_cons_ite, List.mem_cons]
    by_cases same : code = held
    · subst same
      have absent : (code, value) ∉ rest := fun member => UInt8.lt_irrefl code (above _ member)
      simp [absent, eq_comm]
    · simp [same, ih restAscending]

theorem map_ascending {β : Type} (slots : Slots α) (value : α → β) :
    (slots.entries.map fun slot => (slot.1, value slot.2)).Pairwise fun first second =>
      first.1 < second.1 :=
  List.pairwise_map.2 slots.ascending

end Slots

namespace Trie

theorem child?_eq_some_iff (trie : Trie) (index : Nat) (code : UInt8) (child : Nat) :
    trie.child? index code = some child ↔ (code, child) ∈ (trie.node index).children.entries :=
  Slots.get?_eq_some_iff ..

theorem token?_eq_some_iff (trie : Trie) (index : Nat) (code : UInt8) (id : TokenId) :
    trie.token? index code = some id ↔ (code, id) ∈ (trie.node index).tokens.entries :=
  Slots.get?_eq_some_iff ..

theorem child_bounds {trie : Trie} {index child : Nat} {code : UInt8}
    (found : trie.child? index code = some child) : index < child ∧ child < trie.nodeCount :=
  trie.descending index code child ((child?_eq_some_iff ..).1 found)

theorem node_beyond {trie : Trie} {index : Nat} (beyond : trie.nodeCount ≤ index) :
    trie.node index = {} := by
  simp only [node, Array.getElem?_eq_none beyond, Option.getD_none]

theorem child?_beyond {trie : Trie} {index : Nat} (beyond : trie.nodeCount ≤ index)
    (code : UInt8) : trie.child? index code = none := by
  simp only [child?, node_beyond beyond]
  rfl

theorem token?_beyond {trie : Trie} {index : Nat} (beyond : trie.nodeCount ≤ index)
    (code : UInt8) : trie.token? index code = none := by
  simp only [token?, node_beyond beyond]
  rfl

/-- What a node has when its children have it, every node has: the children lie later in the
arena. -/
theorem below_induction (trie : Trie) {motive : Nat → Prop}
    (step : ∀ index,
      (∀ code child, trie.child? index code = some child → motive child) → motive index)
    (index : Nat) : motive index := by
  induction remaining : trie.nodeCount - index using Nat.strongRecOn generalizing index with
  | ind remaining ih =>
    refine step index fun code child found => ih (trie.nodeCount - child) ?_ child rfl
    have bounds := child_bounds found
    omega

theorem root_inside (trie : Trie) : root < trie.nodeCount := trie.rooted

@[simp] theorem nodeCount_addChild (trie : Trie) (parent : Nat) (code : UInt8) :
    (trie.addChild parent code).nodeCount = trie.nodeCount + 1 := by
  simp [nodeCount, addChild]

theorem node_addChild (trie : Trie) {parent : Nat} (code : UInt8) (index : Nat)
    (inside : parent < trie.nodeCount) :
    (trie.addChild parent code).node index =
      if index = parent then
        { trie.node parent with
          children := (trie.node parent).children.insert code trie.nodeCount }
      else trie.node index := by
  have present : trie.nodes[parent]? = some trie.nodes[parent] := Array.getElem?_eq_getElem inside
  simp only [node, addChild, Array.getElem?_push, Array.size_modify, Array.getElem?_modify]
  by_cases here : index = parent
  · subst here
    have notLast : index ≠ trie.nodes.size := Nat.ne_of_lt inside
    simp [notLast, present, nodeCount]
  · by_cases last : index = trie.nodes.size
    · subst last
      simp [here]
    · simp [here, Ne.symm here, last]

theorem node_setToken (trie : Trie) {index : Nat} (code : UInt8) (id : TokenId) (other : Nat)
    (inside : index < trie.nodeCount) :
    (trie.setToken index code id).node other =
      if other = index then
        { trie.node index with tokens := (trie.node index).tokens.insert code id }
      else trie.node other := by
  have present : trie.nodes[index]? = some trie.nodes[index] := Array.getElem?_eq_getElem inside
  simp only [node, setToken, Array.getElem?_modify]
  by_cases here : other = index
  · subst here
    simp [present]
  · simp [here, Ne.symm here]

@[simp] theorem nodeCount_setToken (trie : Trie) (index : Nat) (code : UInt8) (id : TokenId) :
    (trie.setToken index code id).nodeCount = trie.nodeCount := by
  simp [nodeCount, setToken]

theorem child?_addChild (trie : Trie) {parent : Nat} (code : UInt8) (index : Nat) (other : UInt8)
    (inside : parent < trie.nodeCount) :
    (trie.addChild parent code).child? index other =
      if index = parent ∧ other = code then some trie.nodeCount else trie.child? index other := by
  simp only [child?, node_addChild trie code index inside]
  by_cases here : index = parent
  · subst here
    simp [Slots.get?_insert]
  · simp [here]

theorem token?_addChild (trie : Trie) {parent : Nat} (code : UInt8) (index : Nat) (other : UInt8)
    (inside : parent < trie.nodeCount) :
    (trie.addChild parent code).token? index other = trie.token? index other := by
  simp only [token?, node_addChild trie code index inside]
  by_cases here : index = parent
  · subst here
    simp
  · simp [here]

theorem child?_setToken (trie : Trie) {index : Nat} (code : UInt8) (id : TokenId) (other : Nat)
    (edge : UInt8) (inside : index < trie.nodeCount) :
    (trie.setToken index code id).child? other edge = trie.child? other edge := by
  simp only [child?, node_setToken trie code id other inside]
  by_cases here : other = index
  · subst here
    simp
  · simp [here]

theorem token?_setToken (trie : Trie) {index : Nat} (code : UInt8) (id : TokenId) (other : Nat)
    (last : UInt8) (inside : index < trie.nodeCount) :
    (trie.setToken index code id).token? other last =
      if other = index ∧ last = code then some id else trie.token? other last := by
  simp only [token?, node_setToken trie code id other inside]
  by_cases here : other = index
  · subst here
    simp [Slots.get?_insert]
  · simp [here]

theorem walkFrom_setToken (trie : Trie) {index : Nat} (code : UInt8) (id : TokenId) (start : Nat)
    (codes : List UInt8) (inside : index < trie.nodeCount) :
    (trie.setToken index code id).walkFrom start codes = trie.walkFrom start codes := by
  induction codes generalizing start with
  | nil => rfl
  | cons edge rest ih => simp only [walkFrom, child?_setToken trie code id _ _ inside, ih]

end Trie

end TokenTables
