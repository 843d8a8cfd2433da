import TokenTables.Proofs.Emit.DenseTables
import TokenTables.Proofs.Trie.LongestMatch

/-!
What the tables for C say about recognition. Read from their texts, they are the tables of the trie,
and the number at the end of a spelling is the position of its token, or zero where no token is.
Zero is also the position of the first declaration. So the tables determine the longest match but
for the spelling of the first declaration, which leaves no trace in them.

This takes names that C allows. A name that breaks its line can be mistaken for the slot of another
token, and then even the texts are the same.
-/

namespace TokenTables

namespace Trie

def dense (trie : Trie) : Nat → DenseNode :=
  trie.fold fun index below => .ofSlots (trie.node index).tokens.entries below

theorem dense_eq (trie : Trie) (index : Nat) :
    trie.dense index = .ofSlots (trie.node index).tokens.entries
      ((trie.node index).children.entries.map fun slot => (slot.1, trie.dense slot.2)) :=
  fold_eq ..

/-- Following a spelling in memory finds its token, and zero where there is none. -/
theorem WellFormed.value_dense {trie : Trie} (tree : trie.WellFormed) (start : Nat)
    (spelling : List UInt8) :
    (trie.dense start).value spelling =
      ((trie.findFrom start spelling).map TokenId.index).getD 0 := by
  induction spelling generalizing start with
  | nil => rw [DenseNode.value]; rfl
  | cons code rest ih =>
    rw [dense_eq, DenseNode.ofSlots]
    cases rest with
    | nil => exact DenseNode.getD_array? _ (fun _ _ => tree.asciiToken) 0 TokenId.index code
    | cons next rest =>
      have below := DenseNode.getD_array? (trie.node start).children
        (fun _ _ => tree.asciiChild) none (fun child => some (trie.dense child)) code
      simp only [List.map_map, Function.comp_def, DenseNode.value, below]
      rw [findFrom_cons trie start code (by simp), ← child?]
      cases trie.child? start code with
      | none => rfl
      | some child => exact ih child

theorem WellFormed.index_find?_eq {first second : Trie} (firstTree : first.WellFormed)
    (secondTree : second.WellFormed) (same : first.dense root = second.dense root)
    (spelling : List UInt8) :
    ((first.find? spelling).map TokenId.index).getD 0 =
      ((second.find? spelling).map TokenId.index).getD 0 := by
  rw [find?_eq_findFrom, find?_eq_findFrom, ← firstTree.value_dense, ← secondTree.value_dense, same]

end Trie

/-! What the texts come to. -/

section

variable {vocabulary : Vocabulary}

/-- The outline of a node comes to the node in memory, if each name is worth the position of its
token. -/
theorem dense?_outline {trie : Trie} (value : String → Option Nat)
    (declared : ∀ index code id, trie.token? index code = some id → (vocabulary.get? id).isSome)
    (worth : ∀ id, (vocabulary.get? id).isSome → value (vocabulary.nameOf id) = some id.index)
    (index : Nat) : (trie.outline vocabulary index).dense? value = some (trie.dense index) := by
  induction index using trie.below_induction with
  | step index ih =>
    have tokens : (Outline.table? (vocabulary.named (trie.node index).tokens.entries)).mapM
        (Outline.numbers? value) = some (DenseNode.array? 0
          ((trie.node index).tokens.entries.map fun slot => (slot.1, slot.2.index))) := by
      refine Outline.mapM_table? value TokenId.index (fun slot member => worth slot.2 ?_) 0
      exact declared index slot.1 slot.2 ((trie.token?_eq_some_iff ..).2 member)
    have children : (Outline.table? ((trie.node index).children.entries.map fun slot =>
        (slot.1, trie.outline vocabulary slot.2))).mapM
          (fun slots => (Outline.pointers? value slots).map (DenseNode.fill none)) =
        some (DenseNode.array? none ((trie.node index).children.entries.map fun slot =>
          (slot.1, some (trie.dense slot.2)))) := by
      simp only [Outline.pointers?_eq]
      refine Outline.mapM_table? (fun child : Outline => (child.dense? value).map some)
        (fun child => some (trie.dense child)) (fun slot member => ?_) none
      rw [ih slot.1 slot.2 ((trie.child?_eq_some_iff ..).2 member), Option.map_some]
    rw [Trie.outline_eq, Outline.dense?_node, tokens, children, Trie.dense_eq, DenseNode.ofSlots,
      List.map_map]
    rfl

theorem idxOf?_enumerator {id : TokenId} (declared : (vocabulary.get? id).isSome) (lead : String) :
    (vocabulary.names.map (lead ++ ·)).idxOf? (lead ++ vocabulary.nameOf id) = some id.index := by
  obtain ⟨declaration, found⟩ := Option.isSome_iff_exists.1 declared
  have named : vocabulary.names[id.index]? = some declaration.name := by
    rw [Vocabulary.get?] at found
    rw [Vocabulary.names, List.getElem?_map, found, Option.map_some]
  obtain ⟨inside, here⟩ := List.getElem?_eq_some_iff.1 named
  rw [Vocabulary.nameOf_eq found]
  refine List.idxOf?_eq_some_iff.2 ⟨by simpa using inside, ?_, fun other before => ?_⟩
  · simp [here]
  · simp only [List.getElem_map, String.append_right_inj, ← here]
    intro same
    exact absurd (vocabulary.distinct.getElem_inj_iff.1 same) (by omega)

theorem Dialect.Worded.oneLine {dialect : Dialect} (worded : dialect.Worded)
    (words : vocabulary.Worded) : dialect.OneLine vocabulary where
  identifierLead := worded.identifierLead.isPath.notMem (by decide)
  kindPath := worded.kindPath.notMem (by decide)
  names name named := (words name named).isPath.notMem (by decide)

theorem denotedTables_buildTrie {lead : String} (word : IsWord lead) (words : vocabulary.Worded)
    (kindPath : String) (policy : OverlapPolicy) (file : Option String) :
    denotedTables lead kindPath vocabulary (buildTrie vocabulary policy file).trie =
      some ((buildTrie vocabulary policy file).trie.dense Trie.root) := by
  have noPath : IsPath "" := by decide
  have worded : Dialect.Worded ⟨.c, lead, ""⟩ := ⟨word, noPath⟩
  have declared : ∀ index code id,
      (buildTrie vocabulary policy file).trie.token? index code = some id →
        (vocabulary.get? id).isSome := fun _ _ _ => declared_of_token?
  obtain ⟨text, written, read⟩ := (Dispatch.describes_trie (worded.oneLine words)
    (wellFormed_buildTrie vocabulary policy file) declared).whole
  -- The path of the kinds does not show in C.
  have tables : Dispatch.trieText ⟨.c, lead, kindPath⟩ vocabulary
      (buildTrie vocabulary policy file).trie = .ok text := written
  have list : readEnumerators? (layOut (enumeratorList ⟨.c, lead, kindPath⟩ vocabulary)) =
      some (vocabulary.names.map (lead ++ ·)) := by
    rw [Vocabulary.names, List.map_map]
    exact readEnumerators?_layOut worded words
  have dense := dense?_outline
    (fun name => (vocabulary.names.map (lead ++ ·)).idxOf? (lead ++ name)) declared
    (fun _ named => idxOf?_enumerator named lead) Trie.root
  simp only [denotedTables, tables, DenseNode.ofTexts?, list, read, Except.toOption,
    Option.bind_eq_bind, Option.bind_some, dense]

end

theorem eq_of_index_getD {first second : Option TokenId}
    (same : (first.map TokenId.index).getD 0 = (second.map TokenId.index).getD 0)
    (zero : first = some (.ofNat 0) ↔ second = some (.ofNat 0)) : first = second := by
  cases first with
  | none =>
    cases second with
    | none => rfl
    | some held =>
      have position : 0 = held.index := same
      have missing := zero.2 (by rw [position, TokenId.ofNat_index])
      contradiction
  | some id =>
    cases second with
    | none =>
      have position : id.index = 0 := same
      have missing := zero.1 (by rw [← position, TokenId.ofNat_index])
      contradiction
    | some held =>
      have position : id.index = held.index := same
      rw [← id.ofNat_index, position, TokenId.ofNat_index]

/-- Of vocabularies with the same names, tables that are read the same determine the longest match
on every input, if the first declarations are spelled the same, and only then: a slot of the first
token is as empty as a slot that is not written. -/
theorem recognition_of_denotedTables {lead : String} (word : IsWord lead) (kindPath : String)
    {first second : Vocabulary} (names : second.names = first.names) (words : first.Worded)
    {firstPolicy secondPolicy : OverlapPolicy} {firstFile secondFile : Option String}
    (firstClean : Diagnostic.hasErrors (buildTrie first firstPolicy firstFile).report = false)
    (secondClean : Diagnostic.hasErrors (buildTrie second secondPolicy secondFile).report = false)
    (same : denotedTables lead kindPath first (buildTrie first firstPolicy firstFile).trie =
      denotedTables lead kindPath second (buildTrie second secondPolicy secondFile).trie) :
    (denotedTables lead kindPath first (buildTrie first firstPolicy firstFile).trie).isSome ∧
      ((∀ input, (buildTrie first firstPolicy firstFile).trie.longestMatch input =
          (buildTrie second secondPolicy secondFile).trie.longestMatch input) ↔
        ∀ text, first.Spells (.ofNat 0) text ↔ second.Spells (.ofNat 0) text) := by
  have secondWords : second.Worded := fun name named => words name (names ▸ named)
  have firstTree := wellFormed_buildTrie first firstPolicy firstFile
  have secondTree := wellFormed_buildTrie second secondPolicy secondFile
  have firstRead := denotedTables_buildTrie word words kindPath firstPolicy firstFile
  have secondRead := denotedTables_buildTrie word secondWords kindPath secondPolicy secondFile
  rw [firstRead, secondRead, Option.some.injEq] at same
  refine ⟨by rw [firstRead]; rfl, ?_⟩
  rw [firstTree.longestMatch_eq_iff secondTree]
  constructor
  · intro bound text
    have zero := bound (utf8Bytes text)
    have firstSpells := find?_of_clean firstClean (utf8Bytes text) (.ofNat 0)
    have secondSpells := find?_of_clean secondClean (utf8Bytes text) (.ofNat 0)
    simp only [utf8Bytes_injective.eq_iff, exists_eq_right] at firstSpells secondSpells
    rw [← firstSpells, ← secondSpells, zero]
  · intro spelled spelling
    refine eq_of_index_getD (firstTree.index_find?_eq secondTree same spelling) ?_
    simp only [find?_of_clean firstClean, find?_of_clean secondClean, spelled]

def spelledFirst : Vocabulary where
  declarations := [.make "A" (some "x") 1, .make "B" (some "y") 2]
  distinct := by decide

def unspelledFirst : Vocabulary where
  declarations := [.make "A" none 1, .make "B" (some "y") 2]
  distinct := by decide

theorem denotedTables_spelledFirst :
    denotedTables "TOK_" "Kind" spelledFirst (buildTrie spelledFirst .warn none).trie =
      denotedTables "TOK_" "Kind" unspelledFirst (buildTrie unspelledFirst .warn none).trie := by
  have word : IsWord "TOK_" := by decide
  have spelled : spelledFirst.Worded := by decide
  have unspelled : unspelledFirst.Worded := by decide
  rw [denotedTables_buildTrie word spelled, denotedTables_buildTrie word unspelled]
  cbv

/-- The two have the same tables, which cannot determine whether `x` is matched. -/
theorem spelledFirst_recognition :
    IsWord "TOK_" ∧ unspelledFirst.names = spelledFirst.names ∧ spelledFirst.Worded ∧
      Diagnostic.hasErrors (buildTrie spelledFirst .warn none).report = false ∧
      Diagnostic.hasErrors (buildTrie unspelledFirst .warn none).report = false ∧
      denotedTables "TOK_" "Kind" spelledFirst (buildTrie spelledFirst .warn none).trie =
        denotedTables "TOK_" "Kind" unspelledFirst (buildTrie unspelledFirst .warn none).trie ∧
      (denotedTables "TOK_" "Kind" spelledFirst (buildTrie spelledFirst .warn none).trie).isSome ∧
      ((∀ input, (buildTrie spelledFirst .warn none).trie.longestMatch input =
          (buildTrie unspelledFirst .warn none).trie.longestMatch input) ↔
        ∀ text, spelledFirst.Spells (.ofNat 0) text ↔ unspelledFirst.Spells (.ofNat 0) text) := by
  have word : IsWord "TOK_" := by decide
  have names : unspelledFirst.names = spelledFirst.names := by decide
  have words : spelledFirst.Worded := by decide
  have spelledClean : Diagnostic.hasErrors (buildTrie spelledFirst .warn none).report = false := by
    decide
  have unspelledClean :
      Diagnostic.hasErrors (buildTrie unspelledFirst .warn none).report = false := by
    decide
  have recognition := recognition_of_denotedTables word "Kind" names words spelledClean
    unspelledClean denotedTables_spelledFirst
  exact ⟨word, names, words, spelledClean, unspelledClean, denotedTables_spelledFirst, recognition⟩

/-- The last name breaks its line and goes on like a slot of `y`. -/
def brokenSpelled : Vocabulary where
  declarations := [.make "None" none 1, .make "x" none 2, .make "y" none 3,
    .make "x,\n        ['b'] = TOK_y" (some "a") 4]
  distinct := by decide

def brokenUnspelled : Vocabulary where
  declarations := [.make "None" none 1, .make "x" (some "a") 2, .make "y" (some "b") 3,
    .make "x,\n        ['b'] = TOK_y" none 4]
  distinct := by decide

theorem trieText_brokenSpelled :
    Dispatch.trieText ⟨.c, "TOK_", "Kind"⟩ brokenSpelled (buildTrie brokenSpelled .warn none).trie =
      Dispatch.trieText ⟨.c, "TOK_", "Kind"⟩ brokenUnspelled
        (buildTrie brokenUnspelled .warn none).trie := by
  have spelled : Dispatch.nodeSteps ⟨.c, "TOK_", "Kind"⟩ brokenSpelled
      (buildTrie brokenSpelled .warn none).trie Trie.root =
        .ok [.opening "(const int[ASCII_SET])\x7b",
          .line "['a'] = TOK_x,\n        ['b'] = TOK_y,",
          .closing "\x7d,",
          .line "NULL,"] := by
    cbv
  have unspelled : Dispatch.nodeSteps ⟨.c, "TOK_", "Kind"⟩ brokenUnspelled
      (buildTrie brokenUnspelled .warn none).trie Trie.root =
        .ok [.opening "(const int[ASCII_SET])\x7b",
          .line "['a'] = TOK_x,",
          .line "['b'] = TOK_y,",
          .closing "\x7d,",
          .line "NULL,"] := by
    cbv
  rw [Dispatch.trieText, Dispatch.trieText, OutlineReading.trieSteps_eq spelled,
    OutlineReading.trieSteps_eq unspelled]
  apply congrArg Except.ok
  decide +kernel

/-- Equal tables do not make equal longest matches. With names that break their lines, equal texts
do not either, though the first declarations are spelled alike. -/
theorem denotedTables_not_injective :
    (spelledFirst.names = unspelledFirst.names ∧
      Diagnostic.hasErrors (buildTrie spelledFirst .warn none).report = false ∧
      Diagnostic.hasErrors (buildTrie unspelledFirst .warn none).report = false ∧
      denotedTables "TOK_" "Kind" spelledFirst (buildTrie spelledFirst .warn none).trie =
        denotedTables "TOK_" "Kind" unspelledFirst (buildTrie unspelledFirst .warn none).trie ∧
      (denotedTables "TOK_" "Kind" spelledFirst (buildTrie spelledFirst .warn none).trie).isSome ∧
      (buildTrie spelledFirst .warn none).trie.longestMatch [120] = some (.ofNat 0, 1) ∧
      (buildTrie unspelledFirst .warn none).trie.longestMatch [120] = none) ∧
    brokenSpelled.names = brokenUnspelled.names ∧
      Diagnostic.hasErrors (buildTrie brokenSpelled .warn none).report = false ∧
      Diagnostic.hasErrors (buildTrie brokenUnspelled .warn none).report = false ∧
      layOut (enumeratorList ⟨.c, "TOK_", "Kind"⟩ brokenSpelled) =
        layOut (enumeratorList ⟨.c, "TOK_", "Kind"⟩ brokenUnspelled) ∧
      Dispatch.trieText ⟨.c, "TOK_", "Kind"⟩ brokenSpelled
          (buildTrie brokenSpelled .warn none).trie =
        Dispatch.trieText ⟨.c, "TOK_", "Kind"⟩ brokenUnspelled
          (buildTrie brokenUnspelled .warn none).trie ∧
      (∀ text, brokenSpelled.Spells (.ofNat 0) text ↔ brokenUnspelled.Spells (.ofNat 0) text) ∧
      (buildTrie brokenSpelled .warn none).trie.longestMatch [97] = some (.ofNat 3, 1) ∧
      (buildTrie brokenUnspelled .warn none).trie.longestMatch [97] = some (.ofNat 1, 1) := by
  have words : spelledFirst.Worded := by decide
  have readable : (denotedTables "TOK_" "Kind" spelledFirst
      (buildTrie spelledFirst .warn none).trie).isSome := by
    rw [denotedTables_buildTrie (by decide) words]
    rfl
  have unspelled : ∀ vocabulary : Vocabulary,
      (∀ entry ∈ vocabulary.spelled, entry.1 ≠ .ofNat 0) →
        ∀ text, ¬vocabulary.Spells (.ofNat 0) text := by
    intro vocabulary others text spells
    obtain ⟨declaration, listed⟩ := spells
    exact others _ listed rfl
  refine ⟨⟨by decide, by decide, by decide, denotedTables_spelledFirst, readable, by decide,
    by decide⟩, by decide, by decide, by decide, ?list, trieText_brokenSpelled, ?spells, by decide,
    by decide⟩
  case list =>
    apply congrArg layOut
    decide
  case spells =>
    exact fun text => iff_of_false (unspelled _ (by decide) text) (unspelled _ (by decide) text)

end TokenTables
