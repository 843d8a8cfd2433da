import Mathlib.Data.Finset.Lattice.Fold
import Mathlib.Data.Finset.Union
import Mathlib.Order.Bounds.Basic
import Mathlib.Order.Lattice.Nat
import TokenTables.Proofs.Trie.Correspondence
import TokenTables.Proofs.Trie.Traversal

/-!
Size and shape of a trie, told from the spellings that are bound in it. Its nodes are the strict
prefixes of these spellings, each of them once, and its depth is the length of the longest one. Both
hold since no node is without use: each lies on the way to a bound spelling.
-/

namespace TokenTables

def strictPrefixes (spellings : Finset (List UInt8)) : Finset (List UInt8) :=
  spellings.biUnion fun spelling => (beginnings spelling).toFinset

theorem mem_strictPrefixes (spellings : Finset (List UInt8)) (codes : List UInt8) :
    codes ∈ strictPrefixes spellings ↔
      codes ≠ [] ∧ ∃ spelling ∈ spellings, Continues spelling codes := by
  simp only [strictPrefixes, Finset.mem_biUnion, List.mem_toFinset, mem_beginnings_iff]
  constructor
  · rintro ⟨spelling, member, notEmpty, continues⟩
    exact ⟨notEmpty, spelling, member, continues⟩
  · rintro ⟨notEmpty, spelling, member, continues⟩
    exact ⟨spelling, member, notEmpty, continues⟩

namespace Trie

/-! The nodes. -/

/-- Every node is at the end of one path, and the paths are the strict prefixes of what is bound. -/
theorem WellFormed.nodeCount_eq {trie : Trie} (tree : trie.WellFormed) (live : trie.Live)
    {spellings : Finset (List UInt8)}
    (bound : ∀ spelling, spelling ∈ spellings ↔ (trie.find? spelling).isSome) :
    trie.nodeCount = 1 + (strictPrefixes spellings).card := by
  have notEmpty : [] ∉ strictPrefixes spellings := by simp [mem_strictPrefixes]
  let paths := Finset.cons [] (strictPrefixes spellings) notEmpty
  have leads : ∀ codes, codes ∈ paths ↔ (trie.walk codes).isSome := by
    intro codes
    rw [live.walk_isSome_iff tree, Finset.mem_cons, mem_strictPrefixes]
    simp only [bound]
    by_cases nothing : codes = []
    · simp [nothing]
    · simp [nothing, and_comm]
  have ends : paths.card = (Finset.range trie.nodeCount).card := by
    apply Finset.card_bij fun codes member => (trie.walk codes).get ((leads codes).1 member)
    · intro codes member
      exact Finset.mem_range.2 (walk_inside (Option.some_get _).symm)
    · intro first firstLeads second secondLeads same
      apply tree.walk_injective (Option.some_get ((leads first).1 firstLeads)).symm
      rw [same, Option.some_get]
    · intro index inside
      obtain ⟨codes, path⟩ := live.exists_walk (Finset.mem_range.1 inside)
      exact ⟨codes, (leads codes).2 (by rw [path]; rfl), by simp [path]⟩
  rw [Finset.card_range, Finset.card_cons] at ends
  rw [← ends, Nat.add_comm]

/-! The depth. -/

theorem depthFrom_eq (trie : Trie) (index : Nat) :
    trie.depthFrom index =
      let deepest := (((trie.node index).children.entries.map fun slot =>
        trie.depthFrom slot.2 + 1).max?).getD 0
      if (trie.node index).tokens.isEmpty then deepest else max deepest 1 := by
  unfold depthFrom
  rw [fold_eq, List.map_map]
  rfl

def lengthsBelow (trie : Trie) (index : Nat) : Set Nat :=
  {length | ∃ spelling, (trie.findFrom index spelling).isSome ∧ spelling.length = length}

theorem positive_of_mem_lengthsBelow {trie : Trie} {index length : Nat}
    (member : length ∈ trie.lengthsBelow index) : 0 < length := by
  obtain ⟨spelling, found, rfl⟩ := member
  apply List.length_pos_iff.2
  rintro rfl
  contradiction

def lengthsThrough (trie : Trie) (index : Nat) : Set Nat :=
  {length | ∃ slot ∈ (trie.node index).children.entries, ∃ below ∈ trie.lengthsBelow slot.2,
    length = below + 1}

theorem mem_lengthsBelow_iff (trie : Trie) (index length : Nat) :
    length ∈ trie.lengthsBelow index ↔
      length = 1 ∧ (trie.node index).tokens.isEmpty = false ∨
        length ∈ trie.lengthsThrough index := by
  constructor
  · rintro ⟨spelling, found, rfl⟩
    obtain ⟨id, bound⟩ := Option.isSome_iff_exists.1 found
    rcases (findFrom_eq_some_iff ..).1 bound with
      ⟨code, member, rfl⟩ | ⟨slot, member, rest, deeper, rfl⟩
    · exact .inl ⟨rfl, List.isEmpty_eq_false_iff.2 (List.ne_nil_of_mem member)⟩
    · exact .inr ⟨slot, member, _, ⟨rest, Option.isSome_of_eq_some deeper, rfl⟩, rfl⟩
  · rintro (⟨rfl, some⟩ | ⟨slot, member, _, ⟨rest, found, rfl⟩, rfl⟩)
    · have notEmpty := List.isEmpty_eq_false_iff.1 some
      obtain ⟨⟨code, id⟩, member⟩ := List.exists_mem_of_ne_nil _ notEmpty
      have bound := (trie.findFrom_eq_some_iff index [code] id).2 (.inl ⟨code, member, rfl⟩)
      exact ⟨[code], Option.isSome_of_eq_some bound, rfl⟩
    · obtain ⟨id, deeper⟩ := Option.isSome_iff_exists.1 found
      have bound := (trie.findFrom_eq_some_iff index (slot.1 :: rest) id).2
        (.inr ⟨slot, member, rest, deeper, rfl⟩)
      exact ⟨slot.1 :: rest, Option.isSome_of_eq_some bound, rfl⟩

theorem max?_isGreatest (values : List Nat) :
    IsGreatest {value | value = 0 ∨ value ∈ values} (values.max?.getD 0) := by
  cases found : values.max? with
  | none => simp [List.max?_eq_none_iff.1 found]
  | some greatest =>
    obtain ⟨member, above⟩ := List.max?_eq_some_iff.1 found
    refine ⟨.inr member, ?_⟩
    rintro value (rfl | listed)
    · exact Nat.zero_le _
    · exact above value listed

/-- The deepest child decides what is greatest below the children. -/
theorem lengthsThrough_isGreatest {trie : Trie} {index : Nat}
    (child : ∀ slot ∈ (trie.node index).children.entries,
      IsGreatest (trie.lengthsBelow slot.2) (trie.depthFrom slot.2)) :
    IsGreatest {length | length = 0 ∨ length ∈ trie.lengthsThrough index}
      ((((trie.node index).children.entries.map fun slot =>
        trie.depthFrom slot.2 + 1).max?).getD 0) := by
  obtain ⟨reached, above⟩ := max?_isGreatest ((trie.node index).children.entries.map fun slot =>
    trie.depthFrom slot.2 + 1)
  constructor
  · apply reached.imp_right
    intro listed
    obtain ⟨slot, member, same⟩ := List.mem_map.1 listed
    exact ⟨slot, member, _, (child slot member).1, same.symm⟩
  · rintro length (rfl | ⟨slot, member, below, within, rfl⟩)
    · exact Nat.zero_le _
    · have bounded := (child slot member).2 within
      have listed := above (.inr (List.mem_map.2 ⟨slot, member, rfl⟩))
      omega

theorem Live.exists_length {trie : Trie} (live : trie.Live) {index : Nat} (notRoot : index ≠ root)
    (inside : index < trie.nodeCount) : ∃ length, length ∈ trie.lengthsBelow index := by
  obtain ⟨codes, below, code, path, token⟩ := live.exists_token notRoot inside
  exact ⟨_, codes ++ [code], by rw [findFrom_concat, path]; exact token, rfl⟩

/-- The depth below a node is the greatest of the lengths of what is bound below it, and 0 if
nothing is. -/
theorem depthFrom_isGreatest {trie : Trie} (live : trie.Live) (index : Nat) :
    IsGreatest {length | length = 0 ∨ length ∈ trie.lengthsBelow index} (trie.depthFrom index) := by
  induction index using trie.below_induction with
  | step index ih =>
    -- Below a child something is bound, so the depth there is the length of a binding.
    have child : ∀ slot ∈ (trie.node index).children.entries,
        IsGreatest (trie.lengthsBelow slot.2) (trie.depthFrom slot.2) := by
      intro slot member
      have edge := (child?_eq_some_iff ..).2 member
      have bounds := child_bounds edge
      obtain ⟨reached, above⟩ := ih slot.1 slot.2 edge
      refine ⟨reached.resolve_left ?_, fun length below => above (.inr below)⟩
      have notRoot : slot.2 ≠ root := Nat.ne_of_gt (Nat.zero_lt_of_lt bounds.1)
      obtain ⟨length, below⟩ := live.exists_length notRoot bounds.2
      have positive := positive_of_mem_lengthsBelow below
      have bounded := above (.inr below)
      omega
    have through := lengthsThrough_isGreatest child
    rw [depthFrom_eq]
    simp only [mem_lengthsBelow_iff]
    generalize (((trie.node index).children.entries.map fun slot =>
      trie.depthFrom slot.2 + 1).max?).getD 0 = deepest at through ⊢
    cases own : (trie.node index).tokens.isEmpty with
    | true => simpa using through
    | false =>
      constructor
      · by_cases shallow : deepest ≤ 1
        · exact .inr (.inl ⟨Nat.max_eq_right shallow, rfl⟩)
        · have deep : max deepest 1 = deepest := Nat.max_eq_left (by omega)
          rw [if_neg Bool.false_ne_true, deep]
          exact through.1.imp_right .inr
      · rintro length (rfl | ⟨rfl, _⟩ | below)
        · exact Nat.zero_le _
        · exact Nat.le_max_right ..
        · exact Nat.le_trans (through.2 (.inr below)) (Nat.le_max_left ..)

theorem Live.depth_eq {trie : Trie} (live : trie.Live) {spellings : Finset (List UInt8)}
    (bound : ∀ spelling, spelling ∈ spellings ↔ (trie.find? spelling).isSome) :
    trie.depth = spellings.sup List.length := by
  simp only [find?_eq_findFrom] at bound
  obtain ⟨reached, above⟩ := depthFrom_isGreatest live root
  apply Nat.le_antisymm
  · rcases reached with nothing | ⟨spelling, found, same⟩
    · rw [depth, nothing]
      exact Nat.zero_le _
    · rw [depth, ← same]
      exact Finset.le_sup ((bound spelling).2 found)
  · apply Finset.sup_le
    intro spelling member
    exact above (.inr ⟨spelling, (bound spelling).1 member, rfl⟩)

/-! What a history of insertions leaves. -/

def boundBy (history : List (List UInt8 × TokenId)) : Finset (List UInt8) :=
  ((empty.accepted history).map Prod.fst).toFinset

theorem mem_boundBy (history : List (List UInt8 × TokenId)) (spelling : List UInt8) :
    spelling ∈ boundBy history ↔ ((empty.insertAll history).find? spelling).isSome := by
  rw [boundBy, List.mem_toFinset, Option.isSome_iff_exists]
  simp only [wellFormed_empty.find?_insertAll_iff, find?_empty]
  simp

/-- The nodes and the depth of a trie, by the spellings that are bound in it. -/
structure ShapedBy (trie : Trie) (spellings : Finset (List UInt8)) : Prop where
  bound : ∀ spelling, spelling ∈ spellings ↔ (trie.find? spelling).isSome
  walk_isSome_iff : ∀ codes, (trie.walk codes).isSome ↔
    codes = [] ∨ ∃ spelling ∈ spellings, Continues spelling codes
  walk_injective : ∀ first second index,
    trie.walk first = some index → trie.walk second = some index → first = second
  nodeCount_eq_card : trie.nodeCount = 1 + (strictPrefixes spellings).card
  depth_eq_sup : trie.depth = spellings.sup List.length

/-- Every history of insertions leaves a trie whose size and shape are those of the spellings that
it has bound. -/
theorem insertAll_shapedBy (history : List (List UInt8 × TokenId)) :
    (empty.insertAll history).ShapedBy (boundBy history) := by
  have tree := wellFormed_empty.insertAll history
  have live := live_empty.insertAll wellFormed_empty history
  have bound := mem_boundBy history
  constructor
  case bound => exact bound
  case walk_isSome_iff =>
    intro codes
    simp only [live.walk_isSome_iff tree, bound, and_comm]
  case walk_injective => exact fun first second index => tree.walk_injective
  case nodeCount_eq_card => exact tree.nodeCount_eq live bound
  case depth_eq_sup => exact live.depth_eq bound

end Trie

end TokenTables
