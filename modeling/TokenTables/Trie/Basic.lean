import TokenTables.Text.Literal
import TokenTables.Token.Id
import TokenTables.Trie.Slots

/-!
A character trie over token spellings. Its nodes lie in one array in order of creation, and the
root is node 0. A node has two sets of slots: a token slot for the code that completes a spelling
there, and a child slot for the code that continues a longer one; a code may have both.

A child is always created after its parent, so every child slot leads to a later node of the same
array. That order is part of the type, and recursion from a node to its children ends by it.

Indices are natural numbers. Beside the root there are no more nodes than characters in the
spellings, so 32 bits hold every index for all texts of less than 2^30 characters.
-/

namespace TokenTables

structure Node where
  tokens : Slots TokenId := .empty
  children : Slots Nat := .empty

namespace Node

instance : Inhabited Node := ⟨{}⟩

def isEmpty (node : Node) : Bool := node.tokens.isEmpty && node.children.isEmpty

end Node

structure Trie where
  nodes : Array Node
  rooted : 0 < nodes.size
  descending : ∀ parent code child,
    (code, child) ∈ (nodes[parent]?.getD {}).children.entries →
      parent < child ∧ child < nodes.size

inductive InsertError
  | empty
  | nonAscii (byte : UInt8)
  | occupied (holder : TokenId)
  deriving DecidableEq, Repr

namespace Trie

def root : Nat := 0

/-- The node at an index. Beyond the array there are only empty nodes. -/
def node (trie : Trie) (index : Nat) : Node := trie.nodes[index]?.getD {}

def nodeCount (trie : Trie) : Nat := trie.nodes.size

def empty : Trie where
  nodes := #[{}]
  rooted := by decide
  descending := by
    intro parent code child member
    cases parent with
    | zero => simp [Slots.empty] at member
    | succ parent => simp [Slots.empty] at member

instance : Inhabited Trie := ⟨empty⟩

def child? (trie : Trie) (index : Nat) (code : UInt8) : Option Nat :=
  (trie.node index).children.get? code

def token? (trie : Trie) (index : Nat) (code : UInt8) : Option TokenId :=
  (trie.node index).tokens.get? code

def addChild (trie : Trie) (parent : Nat) (code : UInt8) : Trie where
  nodes := (trie.nodes.modify parent fun node =>
    { node with children := node.children.insert code trie.nodes.size }).push {}
  rooted := by simp
  descending := by
    intro index other child member
    rw [Array.getElem?_push, Array.size_modify] at member
    split at member
    next => simp [Slots.empty] at member
    next =>
      rw [Array.getElem?_modify] at member
      have bound : ∀ node, trie.nodes[index]? = some node → index < trie.nodes.size :=
        fun node found => (Array.getElem?_eq_some_iff.1 found).1
      have older : (other, child) ∈ (trie.nodes[index]?.getD {}).children.entries →
          index < child ∧ child < trie.nodes.size + 1 := fun held =>
        have order := trie.descending index other child held
        ⟨order.1, by omega⟩
      simp only [Array.size_push, Array.size_modify]
      split at member
      next =>
        cases found : trie.nodes[index]? with
        | none => simp [found, Slots.empty] at member
        | some node =>
          simp only [found, Option.map_some, Option.getD_some] at member
          rcases Slots.mem_insert member with new | held
          · have inside := bound node found
            simp only [Prod.mk.injEq] at new
            omega
          · exact older (by simpa [found] using held)
      next => exact older member

def setToken (trie : Trie) (index : Nat) (code : UInt8) (id : TokenId) : Trie where
  nodes := trie.nodes.modify index fun node =>
    { node with tokens := node.tokens.insert code id }
  rooted := by simpa using trie.rooted
  descending := by
    intro parent other child member
    rw [Array.size_modify]
    apply trie.descending parent other child
    rw [Array.getElem?_modify] at member
    split at member
    · cases found : trie.nodes[parent]? <;> simpa [found] using member
    · exact member

def childOrNew (trie : Trie) (parent : Nat) (code : UInt8) : Nat × Trie :=
  match trie.child? parent code with
  | some child => (child, trie)
  | none => (trie.nodeCount, trie.addChild parent code)

def grow (trie : Trie) (start : Nat) : List UInt8 → Nat × Trie
  | [] => (start, trie)
  | code :: rest =>
    let (child, grown) := trie.childOrNew start code
    grown.grow child rest

/-- The outcome of an insertion. Also a refused insertion says which trie it leaves. -/
structure Insertion where
  trie : Trie
  refusal : Option InsertError

/-- Binds a spelling: its last code goes into the token slots of the node that the codes before it
lead to. A spelling that is bound already keeps its token. -/
def insert (trie : Trie) (spelling : List UInt8) (id : TokenId) : Insertion :=
  match spelling.getLast? with
  | none => ⟨trie, some .empty⟩
  | some last =>
    match spelling.find? fun byte => !isAscii byte with
    | some byte => ⟨trie, some (.nonAscii byte)⟩
    | none =>
      let (index, grown) := trie.grow root spelling.dropLast
      match grown.token? index last with
      | some holder => ⟨grown, some (.occupied holder)⟩
      | none => ⟨grown.setToken index last id, none⟩

def insertAll (trie : Trie) (bindings : List (List UInt8 × TokenId)) : Trie :=
  bindings.foldl (fun trie (spelling, id) => (trie.insert spelling id).trie) trie

def walkFrom (trie : Trie) (start : Nat) : List UInt8 → Option Nat
  | [] => some start
  | code :: rest => (trie.child? start code).bind fun child => trie.walkFrom child rest

def walk (trie : Trie) (codes : List UInt8) : Option Nat := trie.walkFrom root codes

def find? (trie : Trie) (spelling : List UInt8) : Option TokenId := do
  let last ← spelling.getLast?
  let index ← trie.walk spelling.dropLast
  trie.token? index last

def lookup (trie : Trie) (text : String) : Option TokenId := trie.find? (utf8Bytes text)

/-- The longest bound spelling that `input` starts with below a node, and its length. The walk
ends where no child continues it or at a byte beyond the ASCII codes, and the deepest token it
has passed is the answer. -/
def longestMatchFrom (trie : Trie) (start : Nat) : List UInt8 → Option (TokenId × Nat)
  | [] => none
  | code :: rest =>
    if isAscii code then
      let deeper := (trie.child? start code).bind fun child => trie.longestMatchFrom child rest
      match deeper with
      | some (id, length) => some (id, length + 1)
      | none => (trie.token? start code).map fun id => (id, 1)
    else none

def longestMatch (trie : Trie) (input : List UInt8) : Option (TokenId × Nat) :=
  trie.longestMatchFrom root input

end Trie

end TokenTables
