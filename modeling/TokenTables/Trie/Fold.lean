import TokenTables.Trie.Basic

/-!
Folding a trie from the leaves up. Depth, the first token below a node, the sorted list of
bindings and the order of the nodes are all folds: a value for each node from the values of its
children, in ascending order of their codes.
-/

namespace TokenTables

namespace Trie

variable {α : Type}

/-- Combines the index of a node with the values of its children. -/
def fold (trie : Trie) (combine : Nat → List (UInt8 × α) → α) (index : Nat) : α :=
  combine index <| (trie.node index).children.entries.attach.map fun slot =>
    (slot.val.1, trie.fold combine slot.val.2)
termination_by trie.nodeCount - index
decreasing_by
  have order := trie.descending index slot.val.1 slot.val.2 slot.property
  simp only [nodeCount]
  omega

theorem fold_eq (trie : Trie) (combine : Nat → List (UInt8 × α) → α) (index : Nat) :
    trie.fold combine index =
      combine index ((trie.node index).children.entries.map fun slot =>
        (slot.1, trie.fold combine slot.2)) := by
  rw [fold]
  exact congrArg (combine index) <| List.attach_map_val
    (f := fun slot : UInt8 × Nat => (slot.1, trie.fold combine slot.2))

/-- Length of the longest way down from a node: the edges to its children, and one more for a
token completed at the end. -/
def depthFrom (trie : Trie) : Nat → Nat :=
  trie.fold fun index below =>
    let deepest := ((below.map fun (_, depth) => depth + 1).max?).getD 0
    if (trie.node index).tokens.isEmpty then deepest else max deepest 1

def depth (trie : Trie) : Nat := trie.depthFrom root

def firstUnder (trie : Trie) : Nat → Option TokenId :=
  trie.fold fun index below =>
    match (trie.node index).tokens.entries with
    | (_, id) :: _ => some id
    | [] => below.findSome? fun (_, first) => first

def asciiCodes : List UInt8 := (List.range asciiCount).map UInt8.ofNat

def entriesFrom (trie : Trie) : Nat → List (List UInt8 × TokenId) :=
  trie.fold fun index below => asciiCodes.flatMap fun code =>
    ((trie.token? index code).map fun id => ([code], id)).toList ++
      ((below.lookup code).getD []).map fun (codes, id) => (code :: codes, id)

def entries (trie : Trie) : List (List UInt8 × TokenId) := trie.entriesFrom root

def preorderFrom (trie : Trie) : Nat → List Nat :=
  trie.fold fun index below => index :: below.flatMap fun (_, indices) => indices

def preorder (trie : Trie) : List Nat := trie.preorderFrom root

end Trie

end TokenTables
