import Mathlib.Data.List.Nodup
import TokenTables.Proofs.Trie.Binding
import TokenTables.Trie.Fold

/-!
The list of bindings is a sorted map. Its spellings ascend in the order of their bytes, a spelling
before those that continue it, so none is listed twice. It lists what is bound and nothing else, and
has one entry for each insertion that was accepted.
-/

namespace TokenTables

/-! The ASCII codes in order. -/

theorem mem_asciiCodes (code : UInt8) : code ∈ Trie.asciiCodes ↔ isAscii code = true := by
  have below := code.toNat_lt
  simp only [Trie.asciiCodes, List.mem_map, List.mem_range, isAscii, decide_eq_true_iff]
  constructor
  · intro listed
    obtain ⟨value, small, rfl⟩ := listed
    have wide : value < 256 := Nat.lt_trans small (by decide)
    rwa [UInt8.toNat_ofNat', Nat.mod_eq_of_lt wide]
  · intro ascii
    exact ⟨code.toNat, ascii, UInt8.ofNat_toNat⟩

theorem asciiCodes_ascending : Trie.asciiCodes.Pairwise (· < ·) := by
  rw [Trie.asciiCodes, List.pairwise_map]
  refine List.pairwise_lt_range.imp_of_mem ?_
  intro first second firstSmall secondSmall less
  rw [List.mem_range, asciiCount] at firstSmall secondSmall
  rw [UInt8.lt_iff_toNat_lt, UInt8.toNat_ofNat', UInt8.toNat_ofNat']
  omega

namespace Trie

/-! What is listed below a node. -/

theorem entriesFrom_eq (trie : Trie) (index : Nat) : trie.entriesFrom index =
    asciiCodes.flatMap fun code => ((trie.token? index code).map fun id => ([code], id)).toList ++
      (((trie.child? index code).map trie.entriesFrom).getD []).map fun (codes, id) =>
        (code :: codes, id) := by
  rw [entriesFrom, fold_eq]
  simp only [Slots.lookup_map_value, child?, Slots.get?]

theorem mem_entriesFrom_iff (trie : Trie) (index : Nat) (spelling : List UInt8) (id : TokenId) :
    (spelling, id) ∈ trie.entriesFrom index ↔
      ∃ code rest, spelling = code :: rest ∧ isAscii code = true ∧
        (rest = [] ∧ trie.token? index code = some id ∨
          ∃ child, trie.child? index code = some child ∧ (rest, id) ∈ trie.entriesFrom child) := by
  rw [entriesFrom_eq, List.mem_flatMap]
  constructor
  · intro listed
    obtain ⟨code, ascii, here⟩ := listed
    rcases List.mem_append.1 here with own | below
    · obtain ⟨held, slot, same⟩ := Option.map_eq_some_iff.1 (Option.mem_toList.1 own)
      cases same
      exact ⟨code, [], rfl, (mem_asciiCodes code).1 ascii, .inl ⟨rfl, slot⟩⟩
    · obtain ⟨⟨rest, held⟩, member, same⟩ := List.mem_map.1 below
      cases same
      cases edge : trie.child? index code with
      | none => simp [edge] at member
      | some child =>
        rw [edge] at member
        exact ⟨code, rest, rfl, (mem_asciiCodes code).1 ascii, .inr ⟨child, edge, member⟩⟩
  · intro placed
    obtain ⟨code, rest, rfl, ascii, slot⟩ := placed
    refine ⟨code, (mem_asciiCodes code).2 ascii, List.mem_append.2 ?_⟩
    rcases slot with ⟨rfl, token⟩ | ⟨child, edge, member⟩
    · exact .inl (by simp [token])
    · refine .inr (List.mem_map.2 ⟨(rest, id), ?_, rfl⟩)
      rwa [edge]

theorem findFrom_of_mem_entriesFrom {trie : Trie} {index : Nat} {spelling : List UInt8}
    {id : TokenId} (listed : (spelling, id) ∈ trie.entriesFrom index) :
    trie.findFrom index spelling = some id := by
  induction spelling generalizing index with
  | nil =>
    obtain ⟨code, rest, impossible, _⟩ := (mem_entriesFrom_iff ..).1 listed
    contradiction
  | cons code rest ih =>
    obtain ⟨first, later, same, _, slot⟩ := (mem_entriesFrom_iff ..).1 listed
    obtain ⟨rfl, rfl⟩ := List.cons.inj same
    rcases slot with ⟨rfl, token⟩ | ⟨child, edge, member⟩
    · exact token
    · have found := ih member
      have more : rest ≠ [] := by
        intro nothing
        rw [nothing] at found
        contradiction
      rw [findFrom_cons trie index code more, edge]
      exact found

/-- All slots are at ASCII codes, so the list leaves no binding out. -/
theorem WellFormed.mem_entriesFrom_iff_findFrom {trie : Trie} (tree : trie.WellFormed) (index : Nat)
    (spelling : List UInt8) (id : TokenId) :
    (spelling, id) ∈ trie.entriesFrom index ↔ trie.findFrom index spelling = some id := by
  constructor
  · exact findFrom_of_mem_entriesFrom
  · intro found
    induction spelling generalizing index with
    | nil => contradiction
    | cons code rest ih =>
      apply (mem_entriesFrom_iff ..).2
      refine ⟨code, rest, rfl, (tree.bindable_of_findFrom found).2 code List.mem_cons_self, ?_⟩
      by_cases last : rest = []
      · subst last
        exact .inl ⟨rfl, found⟩
      · rw [findFrom_cons trie index code last] at found
        obtain ⟨child, edge, later⟩ := Option.bind_eq_some_iff.1 found
        exact .inr ⟨child, edge, ih child later⟩

theorem exists_token_of_findFrom {trie : Trie} {index : Nat} {spelling : List UInt8} {id : TokenId}
    (found : trie.findFrom index spelling = some id) :
    ∃ node code, trie.token? node code = some id := by
  rcases List.eq_nil_or_concat' spelling with rfl | ⟨codes, last, rfl⟩
  · contradiction
  · rw [findFrom_concat] at found
    obtain ⟨node, _, slot⟩ := Option.bind_eq_some_iff.1 found
    exact ⟨node, last, slot⟩

/-! The order of the list. -/

def Ascends (first second : List UInt8 × TokenId) : Prop := List.Lex (· < ·) first.1 second.1

theorem entriesFrom_ascending (trie : Trie) (index : Nat) :
    (trie.entriesFrom index).Pairwise Ascends := by
  induction index using trie.below_induction with
  | step index ih =>
    rw [entriesFrom_eq, List.pairwise_flatMap]
    constructor
    · -- At one code the token comes first, and what is below the child goes on from there.
      intro code _
      cases edge : trie.child? index code with
      | none => cases trie.token? index code <;> simp
      | some child =>
        apply List.pairwise_append.2
        refine ⟨?_, ?_, ?_⟩
        · cases trie.token? index code <;> simp
        · exact List.pairwise_map.2 ((ih code child edge).imp List.Lex.cons)
        · intro own isOwn entry below
          obtain ⟨held, _, rfl⟩ := Option.map_eq_some_iff.1 (Option.mem_toList.1 isOwn)
          obtain ⟨⟨codes, id⟩, listed, rfl⟩ := List.mem_map.1 below
          obtain ⟨next, rest, more, _⟩ := (mem_entriesFrom_iff ..).1 listed
          rw [Ascends, more]
          exact .cons .nil
    · have first : ∀ code, ∀ entry ∈ ((trie.token? index code).map fun id => ([code], id)).toList ++
          (((trie.child? index code).map trie.entriesFrom).getD []).map (fun (codes, id) =>
            (code :: codes, id)), ∃ rest, entry.1 = code :: rest := by
        intro code entry listed
        rcases List.mem_append.1 listed with own | below
        · obtain ⟨_, _, rfl⟩ := Option.map_eq_some_iff.1 (Option.mem_toList.1 own)
          exact ⟨[], rfl⟩
        · obtain ⟨⟨rest, _⟩, _, rfl⟩ := List.mem_map.1 below
          exact ⟨rest, rfl⟩
      refine asciiCodes_ascending.imp ?_
      intro code other less entry listed later laterListed
      obtain ⟨rest, here⟩ := first code entry listed
      obtain ⟨others, there⟩ := first other later laterListed
      rw [Ascends, here, there]
      exact .rel less

theorem nodup_of_ascending {entries : List (List UInt8 × TokenId)}
    (ascending : entries.Pairwise Ascends) : (entries.map Prod.fst).Nodup := by
  apply List.pairwise_map.2
  refine ascending.imp ?_
  intro first second less same
  rw [Ascends, same] at less
  exact List.lex_irrefl UInt8.lt_irrefl _ less

/-! The accepted insertions of a history. -/

theorem WellFormed.accepted_distinct {trie : Trie} (tree : trie.WellFormed)
    (history : List (List UInt8 × TokenId)) :
    ((trie.accepted history).map Prod.fst).Nodup ∧
      ∀ binding ∈ trie.accepted history, trie.find? binding.1 = none := by
  induction history generalizing trie with
  | nil => simp [accepted]
  | cons insertion later ih =>
    obtain ⟨spelling, id⟩ := insertion
    obtain ⟨distinct, free⟩ := ih (tree.insert spelling id)
    simp only [accepted, refusal_insert]
    cases outcome : trie.refusal? spelling with
    | some refusal =>
      rw [insert_refused outcome] at distinct free ⊢
      exact ⟨distinct, free⟩
    | none =>
      have bindings := tree.find?_insert outcome id
      have apart : ∀ binding ∈ (trie.insert spelling id).trie.accepted later,
          binding.1 ≠ spelling := by
        intro binding member same
        have none := free binding member
        rw [bindings, if_pos same] at none
        contradiction
      constructor
      · rw [List.map_cons, List.nodup_cons]
        refine ⟨fun member => ?_, distinct⟩
        obtain ⟨binding, listed, same⟩ := List.mem_map.1 member
        exact apart binding listed same
      · refine List.forall_mem_cons.2 ⟨((refusal?_eq_none_iff trie spelling).1 outcome).2, ?_⟩
        intro binding member
        rw [← free binding member, bindings, if_neg (apart binding member)]

/-- The list of bindings of a trie with this history is a sorted map. -/
structure Lists (trie : Trie) (history : List (List UInt8 × TokenId)) : Prop where
  ascending : trie.entries.Pairwise fun first second => List.Lex (· < ·) first.1 second.1
  distinct : (trie.entries.map Prod.fst).Nodup
  mem_iff_accepted : ∀ spelling id,
    (spelling, id) ∈ trie.entries ↔ (spelling, id) ∈ empty.accepted history
  /-- All but the last code lead to a node that has the token in its slot for the last one. -/
  mem_iff_slot : ∀ spelling id, (spelling, id) ∈ trie.entries ↔
    ∃ codes last index, spelling = codes ++ [last] ∧ trie.walk codes = some index ∧
      trie.token? index last = some id
  length_eq : trie.entries.length = (empty.accepted history).length

theorem WellFormed.mem_entries_iff {trie : Trie} (tree : trie.WellFormed) (spelling : List UInt8)
    (id : TokenId) : (spelling, id) ∈ trie.entries ↔ trie.find? spelling = some id := by
  rw [entries, tree.mem_entriesFrom_iff_findFrom, find?_eq_findFrom]

theorem find?_eq_some_iff_slot (trie : Trie) (spelling : List UInt8) (id : TokenId) :
    trie.find? spelling = some id ↔
      ∃ codes last index, spelling = codes ++ [last] ∧ trie.walk codes = some index ∧
        trie.token? index last = some id := by
  constructor
  · intro found
    rcases List.eq_nil_or_concat' spelling with rfl | ⟨codes, last, rfl⟩
    · contradiction
    · rw [find?_concat] at found
      obtain ⟨index, path, slot⟩ := Option.bind_eq_some_iff.1 found
      exact ⟨codes, last, index, rfl, path, slot⟩
  · intro placed
    obtain ⟨codes, last, index, rfl, path, slot⟩ := placed
    rw [find?_concat, path]
    exact slot

/-- Every history of insertions leaves a trie that lists what was accepted. -/
theorem insertAll_lists (history : List (List UInt8 × TokenId)) :
    (empty.insertAll history).Lists history := by
  have tree := wellFormed_empty.insertAll history
  have ascending := entriesFrom_ascending (empty.insertAll history) root
  have distinct := nodup_of_ascending ascending
  have accepted : ∀ spelling id, (spelling, id) ∈ (empty.insertAll history).entries ↔
      (spelling, id) ∈ empty.accepted history := by
    intro spelling id
    rw [tree.mem_entries_iff, wellFormed_empty.find?_insertAll_iff, find?_empty]
    simp
  refine ⟨ascending, distinct, accepted, ?_, ?_⟩
  · intro spelling id
    rw [tree.mem_entries_iff, find?_eq_some_iff_slot]
  · have same : (empty.insertAll history).entries.Perm (empty.accepted history) := by
      apply (List.perm_ext_iff_of_nodup (List.Nodup.of_map _ distinct)
        (List.Nodup.of_map _ (wellFormed_empty.accepted_distinct history).1)).2
      intro binding
      exact accepted binding.1 binding.2
    exact same.length_eq

/-- A spelling comes before those that continue it, whatever the order of insertion; the second
binding of a spelling is refused and the empty spelling is. -/
example : (empty.insertAll [([60, 61], ⟨0⟩), ([60, 60, 61], ⟨1⟩), ([60], ⟨2⟩), ([60], ⟨3⟩),
    ([], ⟨4⟩)]).entries = [([60], ⟨2⟩), ([60, 60, 61], ⟨1⟩), ([60, 61], ⟨0⟩)] := by cbv

end Trie

end TokenTables
