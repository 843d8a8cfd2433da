import Mathlib.Data.List.Basic
import Mathlib.Data.List.Induction
import TokenTables.Proofs.Trie.Arena

/-!
Growing a path. The arena after it extends the arena before it, the grown path leads where growing
says, and a path that is there already is left alone. The arena stays a tree: no node is the child
of two slots, so different codes lead to different nodes.
-/

namespace TokenTables

namespace Trie

/-- `after` has all nodes of `before` with their tokens and children, and its further children are
new nodes without tokens. -/
structure Extends (before after : Trie) : Prop where
  nodeCount_le : before.nodeCount ≤ after.nodeCount
  token?_eq : ∀ index code, after.token? index code = before.token? index code
  child?_kept : ∀ {index child : Nat} {code : UInt8},
    before.child? index code = some child → after.child? index code = some child
  child?_new : ∀ {index child : Nat} {code : UInt8},
    after.child? index code = some child →
      before.child? index code = some child ∨ before.nodeCount ≤ child

/-- No node is the child of two slots, and every slot is at an ASCII code. -/
structure WellFormed (trie : Trie) : Prop where
  onlyParent : ∀ {first second child : Nat} {code other : UInt8},
    trie.child? first code = some child → trie.child? second other = some child →
      first = second ∧ code = other
  asciiChild : ∀ {index child : Nat} {code : UInt8},
    trie.child? index code = some child → isAscii code = true
  asciiToken : ∀ {index : Nat} {code : UInt8} {id : TokenId},
    trie.token? index code = some id → isAscii code = true

theorem child?_empty (index : Nat) (code : UInt8) : empty.child? index code = none := by
  by_cases inside : index < empty.nodeCount
  · have first : index = 0 := by simpa [nodeCount, empty] using inside
    subst first
    rfl
  · exact child?_beyond (by omega) code

theorem token?_empty (index : Nat) (code : UInt8) : empty.token? index code = none := by
  by_cases inside : index < empty.nodeCount
  · have first : index = 0 := by simpa [nodeCount, empty] using inside
    subst first
    rfl
  · exact token?_beyond (by omega) code

theorem wellFormed_empty : empty.WellFormed where
  onlyParent found := by simp [child?_empty] at found
  asciiChild found := by simp [child?_empty] at found
  asciiToken found := by simp [token?_empty] at found

theorem Extends.refl (trie : Trie) : trie.Extends trie :=
  ⟨Nat.le_refl _, fun _ _ => rfl, id, Or.inl⟩

theorem Extends.trans {before middle after : Trie} (first : before.Extends middle)
    (second : middle.Extends after) : before.Extends after where
  nodeCount_le := Nat.le_trans first.nodeCount_le second.nodeCount_le
  token?_eq index code := (second.token?_eq index code).trans (first.token?_eq index code)
  child?_kept found := second.child?_kept (first.child?_kept found)
  child?_new found := by
    rcases second.child?_new found with held | new
    · exact first.child?_new held
    · exact .inr (Nat.le_trans first.nodeCount_le new)

theorem Extends.walkFrom_kept {before after : Trie} (larger : before.Extends after)
    {start index : Nat} {codes : List UInt8} (found : before.walkFrom start codes = some index) :
    after.walkFrom start codes = some index := by
  induction codes generalizing start with
  | nil => exact found
  | cons code rest ih =>
    obtain ⟨child, step, later⟩ := Option.bind_eq_some_iff.1 found
    rw [walkFrom, larger.child?_kept step]
    exact ih later

theorem extends_addChild {trie : Trie} {parent : Nat} {code : UInt8}
    (inside : parent < trie.nodeCount) (missing : trie.child? parent code = none) :
    trie.Extends (trie.addChild parent code) where
  nodeCount_le := by simp
  token?_eq index other := token?_addChild trie code index other inside
  child?_kept {index child other} found := by
    rw [child?_addChild trie code index other inside, if_neg]
    · exact found
    · rintro ⟨rfl, rfl⟩
      simp [missing] at found
  child?_new {index child other} found := by
    rw [child?_addChild trie code index other inside] at found
    split at found
    next => exact .inr (Nat.le_of_eq (Option.some.inj found))
    next => exact .inl found

theorem WellFormed.addChild {trie : Trie} {parent : Nat} {code : UInt8} (tree : trie.WellFormed)
    (inside : parent < trie.nodeCount) (ascii : isAscii code = true) :
    (trie.addChild parent code).WellFormed where
  onlyParent {first second child firstCode secondCode} atFirst atSecond := by
    rw [child?_addChild trie code _ _ inside] at atFirst atSecond
    -- The new node has one slot only: the older children all lie before it.
    split at atFirst <;> split at atSecond
    next here there => exact ⟨here.1.trans there.1.symm, here.2.trans there.2.symm⟩
    next => exact absurd (child_bounds atSecond).2 (by simp at atFirst; omega)
    next => exact absurd (child_bounds atFirst).2 (by simp at atSecond; omega)
    next => exact tree.onlyParent atFirst atSecond
  asciiChild {index child other} found := by
    rw [child?_addChild trie code _ _ inside] at found
    split at found
    next here => exact here.2 ▸ ascii
    next => exact tree.asciiChild found
  asciiToken {index other id} found := by
    rw [token?_addChild trie code _ _ inside] at found
    exact tree.asciiToken found

theorem WellFormed.setToken {trie : Trie} {index : Nat} {code : UInt8} (tree : trie.WellFormed)
    (inside : index < trie.nodeCount) (ascii : isAscii code = true) (id : TokenId) :
    (trie.setToken index code id).WellFormed where
  onlyParent atFirst atSecond := by
    rw [child?_setToken trie code id _ _ inside] at atFirst atSecond
    exact tree.onlyParent atFirst atSecond
  asciiChild found := by
    rw [child?_setToken trie code id _ _ inside] at found
    exact tree.asciiChild found
  asciiToken found := by
    rw [token?_setToken trie code id _ _ inside] at found
    split at found
    next here => exact here.2 ▸ ascii
    next => exact tree.asciiToken found

/-! One step of a path. -/

theorem extends_childOrNew {trie : Trie} {parent : Nat} (inside : parent < trie.nodeCount)
    (code : UInt8) : trie.Extends (trie.childOrNew parent code).2 := by
  unfold childOrNew
  cases found : trie.child? parent code with
  | some child => exact Extends.refl trie
  | none => exact extends_addChild inside found

theorem child?_childOrNew {trie : Trie} {parent : Nat} (inside : parent < trie.nodeCount)
    (code : UInt8) :
    (trie.childOrNew parent code).2.child? parent code = some (trie.childOrNew parent code).1 := by
  unfold childOrNew
  cases found : trie.child? parent code with
  | some child => exact found
  | none => simp [child?_addChild trie code parent code inside]

theorem WellFormed.childOrNew {trie : Trie} {parent : Nat} {code : UInt8} (tree : trie.WellFormed)
    (inside : parent < trie.nodeCount) (ascii : isAscii code = true) :
    (trie.childOrNew parent code).2.WellFormed := by
  unfold Trie.childOrNew
  cases trie.child? parent code with
  | some child => exact tree
  | none => exact tree.addChild inside ascii

/-! A whole path. -/

theorem grow_cons (trie : Trie) (start : Nat) (code : UInt8) (rest : List UInt8) :
    trie.grow start (code :: rest) =
      (trie.childOrNew start code).2.grow (trie.childOrNew start code).1 rest := rfl

theorem grow_inside {trie : Trie} {start : Nat} (inside : start < trie.nodeCount)
    (codes : List UInt8) : (trie.grow start codes).1 < (trie.grow start codes).2.nodeCount := by
  induction codes generalizing trie start with
  | nil => exact inside
  | cons code rest ih => exact ih (child_bounds (child?_childOrNew inside code)).2

theorem extends_grow {trie : Trie} {start : Nat} (inside : start < trie.nodeCount)
    (codes : List UInt8) : trie.Extends (trie.grow start codes).2 := by
  induction codes generalizing trie start with
  | nil => exact Extends.refl trie
  | cons code rest ih =>
    exact (extends_childOrNew inside code).trans
      (ih (child_bounds (child?_childOrNew inside code)).2)

theorem WellFormed.grow {trie : Trie} {start : Nat} {codes : List UInt8} (tree : trie.WellFormed)
    (inside : start < trie.nodeCount) (ascii : ∀ code ∈ codes, isAscii code = true) :
    (trie.grow start codes).2.WellFormed := by
  induction codes generalizing trie start with
  | nil => exact tree
  | cons code rest ih =>
    obtain ⟨first, later⟩ := List.forall_mem_cons.1 ascii
    exact ih (tree.childOrNew inside first) (child_bounds (child?_childOrNew inside code)).2 later

theorem walkFrom_grow {trie : Trie} {start : Nat} (inside : start < trie.nodeCount)
    (codes : List UInt8) :
    (trie.grow start codes).2.walkFrom start codes = some (trie.grow start codes).1 := by
  induction codes generalizing trie start with
  | nil => rfl
  | cons code rest ih =>
    have bounds := child_bounds (child?_childOrNew inside code)
    have step := (extends_grow bounds.2 rest).child?_kept (child?_childOrNew inside code)
    rw [grow_cons, walkFrom, step]
    exact ih bounds.2

theorem walkFrom_le {trie : Trie} {start index : Nat} {codes : List UInt8}
    (found : trie.walkFrom start codes = some index) : start ≤ index := by
  induction codes generalizing start with
  | nil => exact Nat.le_of_eq (Option.some.inj found)
  | cons code rest ih =>
    obtain ⟨child, step, later⟩ := Option.bind_eq_some_iff.1 found
    have forward := (child_bounds step).1
    have further := ih later
    omega

/-- A path that was not there before leads to a new node. -/
theorem Extends.walkFrom_new {before after : Trie} (larger : before.Extends after)
    {start index : Nat} {codes : List UInt8} (found : after.walkFrom start codes = some index) :
    before.walkFrom start codes = some index ∨ before.nodeCount ≤ index := by
  induction codes generalizing start with
  | nil => exact .inl found
  | cons code rest ih =>
    obtain ⟨child, step, later⟩ := Option.bind_eq_some_iff.1 found
    rcases larger.child?_new step with held | new
    · rw [walkFrom, held]
      exact ih later
    · exact .inr (Nat.le_trans new (walkFrom_le later))

theorem exists_walkFrom_of_new {trie : Trie} {start index : Nat} (inside : start < trie.nodeCount)
    {codes : List UInt8} (new : trie.nodeCount ≤ index)
    (bound : index < (trie.grow start codes).2.nodeCount) :
    ∃ lead rest, codes = lead ++ rest ∧
      (trie.grow start codes).2.walkFrom start lead = some index := by
  induction codes generalizing trie start with
  | nil => exact absurd bound (Nat.not_lt.2 new)
  | cons code codes ih =>
    have edge := child?_childOrNew inside code
    have childInside := (child_bounds edge).2
    have kept := (extends_grow childInside codes).child?_kept edge
    rw [grow_cons] at bound ⊢
    by_cases deeper : (trie.childOrNew start code).2.nodeCount ≤ index
    · obtain ⟨lead, rest, rfl, path⟩ := ih childInside deeper bound
      refine ⟨code :: lead, rest, rfl, ?_⟩
      rw [walkFrom, kept]
      exact path
    · -- Only the child itself was added before, at the end of the array.
      have last : index = (trie.childOrNew start code).1 := by
        unfold childOrNew at deeper ⊢
        cases found : trie.child? start code with
        | some child =>
          simp only [found] at deeper
          omega
        | none =>
          simp only [found, nodeCount_addChild] at deeper
          change index = trie.nodeCount
          omega
      refine ⟨[code], codes, rfl, ?_⟩
      rw [last, walkFrom, kept]
      rfl

theorem grow_of_walkFrom {trie : Trie} {start index : Nat} {codes : List UInt8}
    (found : trie.walkFrom start codes = some index) :
    trie.grow start codes = (index, trie) := by
  induction codes generalizing start with
  | nil => rw [grow, Option.some.inj found]
  | cons code rest ih =>
    obtain ⟨child, step, later⟩ := Option.bind_eq_some_iff.1 found
    have kept : trie.childOrNew start code = (child, trie) := by rw [childOrNew, step]
    rw [grow_cons, kept]
    exact ih later

/-! Walks in a tree. -/

theorem walk_concat (trie : Trie) (codes : List UInt8) (last : UInt8) :
    trie.walk (codes ++ [last]) = (trie.walk codes).bind fun index => trie.child? index last := by
  unfold walk
  generalize root = start
  induction codes generalizing start with
  | nil => simp [walkFrom]
  | cons code rest ih =>
    simp only [List.cons_append, walkFrom, ih, Option.bind_assoc]

theorem walkFrom_inside {trie : Trie} {start index : Nat} (inside : start < trie.nodeCount)
    {codes : List UInt8} (found : trie.walkFrom start codes = some index) :
    index < trie.nodeCount := by
  induction codes generalizing start with
  | nil => exact Option.some.inj found ▸ inside
  | cons code rest ih =>
    obtain ⟨child, step, later⟩ := Option.bind_eq_some_iff.1 found
    exact ih (child_bounds step).2 later

theorem walk_inside {trie : Trie} {codes : List UInt8} {index : Nat}
    (found : trie.walk codes = some index) : index < trie.nodeCount :=
  walkFrom_inside trie.root_inside found

theorem WellFormed.walk_injective {trie : Trie} (tree : trie.WellFormed) {index : Nat}
    {first second : List UInt8} (atFirst : trie.walk first = some index)
    (atSecond : trie.walk second = some index) : first = second := by
  -- Backwards along the first path: its last edge is the only edge to the node.
  induction first using List.reverseRecOn generalizing second index with
  | nil =>
    rcases List.eq_nil_or_concat' second with rfl | ⟨rest, last, rfl⟩
    · rfl
    · rw [walk_concat] at atSecond
      obtain ⟨parent, _, step⟩ := Option.bind_eq_some_iff.1 atSecond
      have bounds := child_bounds step
      have top : root = index := Option.some.inj atFirst
      simp only [root] at top
      omega
  | append_singleton codes code ih =>
    rw [walk_concat] at atFirst
    obtain ⟨parent, above, step⟩ := Option.bind_eq_some_iff.1 atFirst
    rcases List.eq_nil_or_concat' second with rfl | ⟨rest, last, rfl⟩
    · have bounds := child_bounds step
      have top : root = index := Option.some.inj atSecond
      simp only [root] at top
      omega
    · rw [walk_concat] at atSecond
      obtain ⟨other, otherAbove, otherStep⟩ := Option.bind_eq_some_iff.1 atSecond
      obtain ⟨rfl, rfl⟩ := tree.onlyParent step otherStep
      rw [ih above otherAbove]

end Trie

end TokenTables
