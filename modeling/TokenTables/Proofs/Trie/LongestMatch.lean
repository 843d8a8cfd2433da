import Mathlib.Order.Bounds.Basic
import TokenTables.Proofs.Trie.Binding

/-!
The longest match is what its name says: the longest bound spelling that the input starts with,
however many unbound nodes the walk passes before and after it.
-/

namespace TokenTables

namespace Trie

def matchLengths (trie : Trie) (start : Nat) (input : List UInt8) : Set Nat :=
  {length | length ≤ input.length ∧ (trie.findFrom start (input.take length)).isSome}

theorem findFrom_take_succ (trie : Trie) (start : Nat) (code : UInt8) (rest : List UInt8)
    (length : Nat) :
    trie.findFrom start ((code :: rest).take (length + 1)) =
      if rest.take length = [] then trie.token? start code
      else (trie.child? start code).bind fun child => trie.findFrom child (rest.take length) := by
  rw [List.take_succ_cons]
  split
  next nothing => rw [nothing]; rfl
  next more => exact findFrom_cons trie start code more

/-- The answer of the walk below a node, if there is one, is the greatest of the lengths at which
the input starts with a bound spelling, and its token is the one bound there. -/
structure Longest (trie : Trie) (start : Nat) (input : List UInt8) (id : TokenId)
    (length : Nat) : Prop where
  greatest : IsGreatest (trie.matchLengths start input) length
  bound : trie.findFrom start (input.take length) = some id

theorem Longest.positive {trie : Trie} {start : Nat} {input : List UInt8} {id : TokenId}
    {length : Nat} (longest : trie.Longest start input id length) : input.take length ≠ [] := by
  intro nothing
  have bound := longest.bound
  rw [nothing] at bound
  contradiction

def Answers (trie : Trie) (start : Nat) (input : List UInt8) : Option (TokenId × Nat) → Prop
  | some (id, length) => trie.Longest start input id length
  | none => ∀ length, trie.findFrom start (input.take length) = none

theorem Longest.step {trie : Trie} {start child : Nat} {code : UInt8} {rest : List UInt8}
    {id : TokenId} {length : Nat} (edge : trie.child? start code = some child)
    (longest : trie.Longest child rest id length) :
    trie.Longest start (code :: rest) id (length + 1) := by
  have bound : trie.findFrom start ((code :: rest).take (length + 1)) = some id := by
    rw [findFrom_take_succ, if_neg longest.positive, edge]
    exact longest.bound
  refine ⟨⟨⟨Nat.succ_le_succ longest.greatest.1.1, by rw [bound]; rfl⟩, ?_⟩, bound⟩
  rintro (_ | other) ⟨inside, found⟩
  · exact Nat.zero_le _
  · rw [findFrom_take_succ, edge] at found
    split at found
    next nothing =>
      have short : other ≤ rest.length := Nat.le_of_succ_le_succ inside
      have size := congrArg List.length nothing
      rw [List.length_take_of_le short, List.length_nil] at size
      omega
    next => exact Nat.succ_le_succ (longest.greatest.2 ⟨Nat.le_of_succ_le_succ inside, found⟩)

theorem longest_single {trie : Trie} {start : Nat} {code : UInt8} {rest : List UInt8}
    {id : TokenId} (slot : trie.token? start code = some id)
    (nothing : ∀ length, ((trie.child? start code).bind fun child =>
      trie.findFrom child (rest.take length)) = none) :
    trie.Longest start (code :: rest) id 1 := by
  have bound : trie.findFrom start ((code :: rest).take 1) = some id := by
    rw [findFrom_take_succ, List.take_zero, if_pos rfl, slot]
  refine ⟨⟨⟨by simp, by rw [bound]; rfl⟩, ?_⟩, bound⟩
  rintro (_ | other) ⟨inside, found⟩
  · exact Nat.zero_le _
  · rw [findFrom_take_succ, nothing other] at found
    split at found
    next short =>
      have size := congrArg List.length short
      rw [List.length_take_of_le (Nat.le_of_succ_le_succ inside), List.length_nil] at size
      omega
    next => contradiction

theorem WellFormed.answers_longestMatchFrom {trie : Trie} (tree : trie.WellFormed) (start : Nat)
    (input : List UInt8) : trie.Answers start input (trie.longestMatchFrom start input) := by
  induction input generalizing start with
  | nil => intro length; rw [List.take_nil]; rfl
  | cons code rest ih =>
    unfold longestMatchFrom
    split
    next ascii =>
      -- The walk below the child decides, and the token of this code where it finds nothing.
      cases edge : trie.child? start code with
      | none =>
        simp only [Option.bind_none]
        cases slot : trie.token? start code with
        | none =>
          rintro (_ | length)
          · rfl
          · rw [findFrom_take_succ, slot, edge]
            simp
        | some id => exact longest_single slot (by simp [edge])
      | some child =>
        simp only [Option.bind_some]
        have below := ih child
        cases deeper : trie.longestMatchFrom child rest with
        | some found => exact Longest.step edge (by rw [deeper] at below; exact below)
        | none =>
          rw [deeper] at below
          cases slot : trie.token? start code with
          | none =>
            rintro (_ | length)
            · rfl
            · rw [findFrom_take_succ, slot, edge, Option.bind_some, below length, ite_self]
          | some id => exact longest_single slot (by simp only [edge]; exact below)
    next foreign =>
      intro length
      refine Option.eq_none_iff_forall_not_mem.2 fun id found => foreign ?_
      cases length with
      | zero => exact absurd found (by simp [findFrom])
      | succ length => exact (tree.bindable_of_findFrom found).2 code (by simp)

theorem WellFormed.longestMatch_eq_some_iff {trie : Trie} (tree : trie.WellFormed)
    (input : List UInt8) (id : TokenId) (length : Nat) :
    trie.longestMatch input = some (id, length) ↔
      IsGreatest {size | size ≤ input.length ∧ (trie.find? (input.take size)).isSome} length ∧
        trie.find? (input.take length) = some id := by
  simp only [find?_eq_findFrom]
  have answers := tree.answers_longestMatchFrom root input
  constructor
  · intro result
    rw [longestMatch] at result
    rw [result] at answers
    exact ⟨answers.greatest, answers.bound⟩
  · rintro ⟨greatest, bound⟩
    rw [longestMatch]
    cases result : trie.longestMatchFrom root input with
    | none =>
      rw [result] at answers
      exact absurd (answers length) (by simp [bound])
    | some found =>
      obtain ⟨other, size⟩ := found
      rw [result] at answers
      have same : size = length := answers.greatest.unique greatest
      subst same
      rw [Option.some.inj (answers.bound.symm.trans bound)]

theorem WellFormed.longestMatch_eq_none_iff {trie : Trie} (tree : trie.WellFormed)
    (input : List UInt8) :
    trie.longestMatch input = none ↔
      ∀ spelling, spelling ≠ [] → spelling <+: input → trie.find? spelling = none := by
  have answers := tree.answers_longestMatchFrom root input
  constructor
  · intro result spelling _ begins
    rw [longestMatch] at result
    rw [result] at answers
    rw [List.prefix_iff_eq_take.1 begins, find?_eq_findFrom]
    exact answers spelling.length
  · intro nothing
    rw [longestMatch]
    cases result : trie.longestMatchFrom root input with
    | none => rfl
    | some found =>
      rw [result] at answers
      have bound := answers.bound
      rw [← find?_eq_findFrom, nothing _ answers.positive (List.take_prefix ..)] at bound
      contradiction

theorem WellFormed.find?_eq_some_iff {trie : Trie} (tree : trie.WellFormed)
    (spelling : List UInt8) (id : TokenId) :
    trie.find? spelling = some id ↔ trie.longestMatch spelling = some (id, spelling.length) := by
  rw [tree.longestMatch_eq_some_iff, List.take_length]
  constructor
  · intro bound
    refine ⟨⟨⟨Nat.le_refl _, ?_⟩, fun size member => member.1⟩, bound⟩
    rw [List.take_length, bound]
    rfl
  · exact And.right

/-- Two tries have the same longest matches just if they have the same bindings. -/
theorem WellFormed.longestMatch_eq_iff {first second : Trie} (firstTree : first.WellFormed)
    (secondTree : second.WellFormed) :
    (∀ input, first.longestMatch input = second.longestMatch input) ↔
      ∀ spelling, first.find? spelling = second.find? spelling := by
  constructor
  · intro same spelling
    refine Option.ext fun id => ?_
    rw [firstTree.find?_eq_some_iff, secondTree.find?_eq_some_iff, same]
  · intro same input
    refine Option.ext fun found => ?_
    obtain ⟨id, length⟩ := found
    rw [firstTree.longestMatch_eq_some_iff, secondTree.longestMatch_eq_some_iff]
    simp only [same]

/-- Over every history of insertions and every input, the longest match is the longest accepted
spelling that the input starts with, and its token is the one it was accepted with. -/
theorem longestMatch_insertAll (history : List (List UInt8 × TokenId)) (input : List UInt8) :
    (∀ id length, (empty.insertAll history).longestMatch input = some (id, length) ↔
      IsGreatest {size | size ≤ input.length ∧
          ∃ token, (input.take size, token) ∈ empty.accepted history} length ∧
        (input.take length, id) ∈ empty.accepted history) ∧
    ((empty.insertAll history).longestMatch input = none ↔
      ∀ spelling token, spelling ≠ [] → spelling <+: input →
        (spelling, token) ∉ empty.accepted history) := by
  have tree := wellFormed_empty.insertAll history
  have bound (spelling : List UInt8) (id : TokenId) :
      (empty.insertAll history).find? spelling = some id ↔
        (spelling, id) ∈ empty.accepted history := by
    simpa using wellFormed_empty.find?_insertAll_iff history spelling id
  constructor
  · intro id length
    simp only [tree.longestMatch_eq_some_iff, Option.isSome_iff_exists, bound]
  · simp only [tree.longestMatch_eq_none_iff, Option.eq_none_iff_forall_ne_some, ne_eq, bound]
    exact ⟨fun nothing spelling token more begins => nothing spelling more begins token,
      fun nothing spelling more begins token => nothing spelling token more begins⟩

end Trie

end TokenTables
