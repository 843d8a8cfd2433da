import TokenTables.Proofs.Emit.Counterparts

/-!
The tables that are indexed by token lose nothing. Two vocabularies with the same text of these
tables have the same names in the same order, and they spell each token alike. The literals are read
back as their bytes, and since names are distinct, a token without a slot in the spelling table is
told from one that has its slot.

What is generated besides refers to tokens by name, and to none that the list of enumerators lacks.
-/

namespace TokenTables

open OutlineReading (pageLines)

namespace Vocabulary

def nameSlots (vocabulary : Vocabulary) : List (String × String) :=
  vocabulary.declarations.map fun declaration => (declaration.name, declaration.name)

theorem names_eq (vocabulary : Vocabulary) :
    vocabulary.names = vocabulary.nameSlots.map Prod.fst := by
  rw [nameSlots, List.map_map]
  rfl

end Vocabulary

/-! Reading the tables back. -/

def tableContents (table : String) (slots : List (String × String)) : List Line :=
  .strings table :: (slots.map fun slot => .text slot.1 (utf8Bytes slot.2)) ++ [.closing "\x7d;"]

theorem tableContents_injective (table : String) : Function.Injective (tableContents table) := by
  intro first second same
  have texts := List.append_cancel_right (List.cons.inj same).2
  have each : Function.Injective fun slot : String × String =>
      Line.text slot.1 (utf8Bytes slot.2) := by
    rintro ⟨name, text⟩ ⟨otherName, otherText⟩ lines
    obtain ⟨names, bytes⟩ := Line.text.inj lines
    exact Prod.ext names (utf8Bytes_injective bytes)
  exact List.map_injective_iff.2 each texts

theorem blank_notMem_tableContents (table : String) (slots : List (String × String)) :
    Line.blank ∉ tableContents table slots := by
  simp [tableContents]

def LinesSay (dialect : Dialect) : List (List Char) → List Line → Prop :=
  List.Forall₂ fun line content => readLine? dialect line = some content

section

variable {dialect : Dialect} (worded : dialect.Worded)
include worded

theorem reads_stringTable {table : String} (word : IsWord table) {slots : List (String × String)}
    (words : ∀ slot ∈ slots, IsWord slot.1) (zeroFree : ∀ slot ∈ slots, '\x00' ∉ slot.2.toList)
    (level : Nat) :
    LinesSay dialect (Layout.linesAt level (stringTable dialect table slots))
      (tableContents table slots) := by
  have slotRead : ∀ slot ∈ slots, readLine? dialect (LayoutStep.atLevel (level + 1)
      (Dialect.slot (dialect.index slot.1) (Literal.string slot.2))) =
        some (.text slot.1 (utf8Bytes slot.2)) := by
    intro slot member
    have literal : Literal.asRead (utf8Bytes slot.2) = utf8Bytes slot.2 :=
      Literal.asRead_of_zero_notMem (zero_notMem_utf8Bytes (zeroFree slot member))
    rw [(tells_text worded (words slot member) slot.2).readLine?_atLevel, literal]
  have opening := (tells_strings worded word).readLine?_atLevel level
  have closing : Tells dialect "\x7d;" (.closing "\x7d;") :=
    tells_fixed (by simp [Dialect.fixedLines])
  unfold LinesSay tableContents
  rw [stringTable_eq, Layout.linesAt_block, List.map_map]
  apply List.rel_append
  · exact .cons opening (Layout.forall₂_map_same slotRead)
  · exact .cons (closing.readLine?_atLevel level) .nil

variable {vocabulary : Vocabulary} (names : vocabulary.Worded)
include names

theorem parallel_nameTables : Parallel dialect dialect vocabulary.names
    (nameTables dialect vocabulary) (nameTables dialect vocabulary) :=
  .of_twins (twins_nameTables worded worded names)

/-- The whole text is read: the spellings, a blank line and the names. -/
theorem reads_nameTables (zeroFree : vocabulary.ZeroFree) :
    LinesSay dialect (pageLines (layOut (nameTables dialect vocabulary)).toList)
      (tableContents "tokenToStrMap" vocabulary.spellingSlots ++
        .blank :: tableContents "tokenToNameMap" vocabulary.nameSlots) := by
  have spellings : LinesSay dialect (Layout.linesAt 0 (spellingTable dialect vocabulary))
      (tableContents "tokenToStrMap" vocabulary.spellingSlots) := by
    apply reads_stringTable worded (by decide)
    · intro slot member
      obtain ⟨declaration, declared, named, _⟩ := vocabulary.mem_spellingSlots slot member
      exact named ▸ names _ (List.mem_map_of_mem declared)
    · intro slot member
      obtain ⟨declaration, declared, _, spelt⟩ := vocabulary.mem_spellingSlots slot member
      exact zeroFree declaration declared slot.2 spelt
  have texts : LinesSay dialect (Layout.linesAt 0 (nameTable dialect vocabulary))
      (tableContents "tokenToNameMap" vocabulary.nameSlots) := by
    have word : ∀ slot ∈ vocabulary.nameSlots, IsWord slot.1 ∧ IsWord slot.2 := by
      intro slot member
      obtain ⟨declaration, declared, rfl⟩ := List.mem_map.1 member
      have name := names _ (List.mem_map_of_mem declared)
      exact ⟨name, name⟩
    apply reads_stringTable worded (by decide)
    · exact fun slot member => (word slot member).1
    · exact fun slot member => (word slot member).2.isPath.notMem (by decide)
  have outermost : Layout.levelAfter 0 (spellingTable dialect vocabulary ++ [.blank]) = 0 := by
    rw [Layout.levelAfter_append, spellingTable, levelAfter_stringTable]
    rfl
  rw [Layout.pageLines_layOut (parallel_nameTables worded names).unbroken, nameTables,
    Layout.linesAt_append, Layout.linesAt_append, outermost, List.append_cons]
  exact List.rel_append (List.rel_append spellings (.cons (readLine?_blank dialect) .nil)) texts

theorem slots_eq_of_nameTables_eq (zeroFree : vocabulary.ZeroFree) {other : Vocabulary}
    (otherNames : other.Worded) (otherZeroFree : other.ZeroFree)
    (same : layOut (nameTables dialect other) = layOut (nameTables dialect vocabulary)) :
    other.spellingSlots = vocabulary.spellingSlots ∧ other.nameSlots = vocabulary.nameSlots := by
  have read := Layout.mapM_eq_some (reads_nameTables worded names zeroFree)
  have otherRead := Layout.mapM_eq_some (reads_nameTables worded otherNames otherZeroFree)
  rw [same, read] at otherRead
  -- No line of a table is blank, so the blank line parts the two tables in the same place.
  have blankNotMem := blank_notMem_tableContents
  obtain ⟨spellings, _, texts⟩ :=
    (List.append_cons_inj_of_notMem (blankNotMem _ _) (blankNotMem _ _)).1
      (Option.some.inj otherRead)
  exact ⟨(tableContents_injective _ spellings).symm, (tableContents_injective _ texts).symm⟩

end

/-! The list of enumerators, and what refers to it. -/

/-- The enumerators of a list, if each of its lines is one with its comma. -/
def readEnumerators? (text : String) : Option (List String) :=
  (pageLines text.toList).mapM OutlineReading.stripComma

theorem Dialect.Worded.isWord_enumerator {dialect : Dialect} (worded : dialect.Worded)
    {name : String} (word : IsWord name) : IsWord (dialect.enumerator name) := by
  unfold Dialect.enumerator
  cases dialect.target with
  | c =>
    unfold IsWord
    rw [String.toList_append, List.forall_mem_append]
    exact ⟨worded.identifierLead, word⟩
  | cpp => exact word

theorem readEnumerators?_layOut {dialect : Dialect} (worded : dialect.Worded)
    {vocabulary : Vocabulary} (names : vocabulary.Worded) :
    readEnumerators? (layOut (enumeratorList dialect vocabulary)) =
      some (vocabulary.declarations.map fun declaration =>
        dialect.enumerator declaration.name) := by
  have steps : enumeratorList dialect vocabulary =
      (vocabulary.declarations.map fun declaration =>
        dialect.enumerator declaration.name ++ ",").map .line := by
    rw [enumeratorList, List.map_map]
    rfl
  have unbroken : ∀ step ∈ enumeratorList dialect vocabulary, '\n' ∉ step.text.toList := by
    intro step member
    obtain ⟨declaration, declared, rfl⟩ := List.mem_map.1 member
    have word := worded.isWord_enumerator (names _ (List.mem_map_of_mem declared))
    have enumerator : '\n' ∉ (dialect.enumerator declaration.name).toList :=
      word.isPath.notMem (by decide)
    simp [LayoutStep.text, enumerator]
  rw [readEnumerators?, Layout.pageLines_layOut unbroken, steps, Layout.linesAt_lines,
    List.map_map]
  apply Layout.mapM_eq_some
  apply Layout.forall₂_map_same
  intro declaration _
  rw [Function.comp_apply, Layout.atLevel_zero, OutlineReading.stripComma_append]

/-- Every line of a text is one that the target has in its own words, which have no token in them,
or says something of a token that is listed or of none. -/
def RefersTo (dialect : Dialect) (listed : List String) (text : String) : Prop :=
  ∀ line ∈ pageLines text.toList, line ∈ dialect.ownLines ∨
    ∃ content, readLine? dialect line = some content ∧
      ∀ name ∈ content.name?, dialect.enumerator name ∈ listed

theorem Parallel.refersTo {dialect : Dialect} {names : List String} {steps : List LayoutStep}
    (parallel : Parallel dialect dialect names steps steps) :
    RefersTo dialect (names.map dialect.enumerator) (layOut steps) := by
  unfold RefersTo
  rw [Layout.pageLines_layOut parallel.unbroken]
  intro line member
  rcases List.forall₂_same.1 parallel.lines line member with same | own
  · obtain ⟨content, told, _, listed⟩ := same.told
    exact .inr ⟨content, told, fun name named => List.mem_map_of_mem (listed name named)⟩
  · exact .inl (List.of_mem_zip own).1

/-- The name tables, the tables of the trie and every chain of a vocabulary are written and refer to
tokens that are listed. -/
structure ReferencesListed (dialect : Dialect) (vocabulary : Vocabulary) (listed : List String) :
    Prop where
  nameTables : RefersTo dialect listed (layOut (nameTables dialect vocabulary))
  trie : ∀ policy file, ∃ steps,
    Dispatch.trieSteps dialect vocabulary (buildTrie vocabulary policy file).trie = .ok steps ∧
      RefersTo dialect listed (layOut steps)
  chain : ∀ noMatch ∈ vocabulary.names, ∃ chain, Chain.ofVocabulary? vocabulary noMatch =
    some chain ∧ RefersTo dialect listed (layOut (chain.steps dialect vocabulary))

theorem referencesListed {dialect : Dialect} (worded : dialect.Worded) {vocabulary : Vocabulary}
    (names : vocabulary.Worded) :
    ReferencesListed dialect vocabulary (vocabulary.names.map dialect.enumerator) where
  nameTables := (parallel_nameTables worded names).refersTo
  trie policy file := by
    have declared : ∀ index code id,
        (buildTrie vocabulary policy file).trie.token? index code = some id →
          (vocabulary.get? id).isSome := fun _ _ _ => declared_of_token?
    obtain ⟨steps, written⟩ := Dispatch.exists_trieSteps dialect declared
    have alike := alike_trieSteps worded worded names (buildTrie vocabulary policy file).trie
    rw [written] at alike
    cases alike with
    | ok parallel => exact ⟨steps, written, parallel.refersTo⟩
  chain noMatch declared := by
    obtain ⟨chain, made⟩ := Option.isSome_iff_exists.1
      ((Chain.isSome_ofVocabulary?_iff vocabulary noMatch).2 declared)
    exact ⟨chain, made, (parallel_chain worded worded names made).refersTo⟩

/-- The text of the name tables tells the names in their order and how each token is spelled. The
list has one enumerator for each declaration, in order, and every token that is referred to, in the
name tables, in the tables of the trie and in each chain, has its enumerator there. -/
theorem nameTables_lossless {dialect : Dialect} (worded : dialect.Worded) {vocabulary : Vocabulary}
    (names : vocabulary.Worded) (zeroFree : vocabulary.ZeroFree) :
    (∀ other : Vocabulary, other.Worded → other.ZeroFree →
      layOut (nameTables dialect other) = layOut (nameTables dialect vocabulary) →
        other.names = vocabulary.names ∧
          other.declarations.map Declaration.spelling =
            vocabulary.declarations.map Declaration.spelling) ∧
      ∃ listed, readEnumerators? (layOut (enumeratorList dialect vocabulary)) = some listed ∧
        listed = (vocabulary.declarations.map fun declaration =>
          dialect.enumerator declaration.name) ∧
        ReferencesListed dialect vocabulary listed := by
  constructor
  · intro other otherNames otherZeroFree same
    obtain ⟨spellings, texts⟩ :=
      slots_eq_of_nameTables_eq worded names zeroFree otherNames otherZeroFree same
    have sameNames : other.names = vocabulary.names := by
      rw [other.names_eq, vocabulary.names_eq, texts]
    refine ⟨sameNames, ?_⟩
    rw [other.spellings_eq, vocabulary.spellings_eq, sameNames, spellings]
  · have references := referencesListed worded names
    rw [Vocabulary.names, List.map_map] at references
    exact ⟨_, readEnumerators?_layOut worded names, rfl, references⟩

def awkward : Vocabulary where
  declarations := [.make "None" none 1, .make "Quoted" (some "\"],\n") 2,
    .make "Escape" (some "\\n") 3, .make "COMMA" none 4, .make "Accent" (some "é") 5]
  distinct := by decide

def awkwardLater : Vocabulary where
  declarations := [.make "None" none 3, .make "Quoted" (some "\"],\n") 4,
    .make "Escape" (some "\\n") 6, .make "COMMA" none 7, .make "Accent" (some "é") 9]
  distinct := by decide

/-- The lines of the declarations do not show in the tables, and everything else does. -/
theorem awkward_lossless :
    Dialect.Worded ⟨.c, "TOK_", "Token::Kind"⟩ ∧ awkward.Worded ∧ awkward.ZeroFree ∧
      awkwardLater.Worded ∧ awkwardLater.ZeroFree ∧
      layOut (nameTables ⟨.c, "TOK_", "Token::Kind"⟩ awkwardLater) =
        layOut (nameTables ⟨.c, "TOK_", "Token::Kind"⟩ awkward) ∧
      awkwardLater.names = awkward.names ∧
      awkwardLater.declarations.map Declaration.spelling =
        awkward.declarations.map Declaration.spelling ∧
      readEnumerators? (layOut (enumeratorList ⟨.c, "TOK_", "Token::Kind"⟩ awkward)) =
        some ["TOK_None", "TOK_Quoted", "TOK_Escape", "TOK_COMMA", "TOK_Accent"] ∧
      ReferencesListed ⟨.c, "TOK_", "Token::Kind"⟩ awkward
        ["TOK_None", "TOK_Quoted", "TOK_Escape", "TOK_COMMA", "TOK_Accent"] := by
  have worded : Dialect.Worded ⟨.c, "TOK_", "Token::Kind"⟩ := ⟨by decide, by decide⟩
  have names : awkward.Worded := by decide
  have zeroFree : awkward.ZeroFree := by decide
  have laterNames : awkwardLater.Worded := by decide
  have laterZeroFree : awkwardLater.ZeroFree := by decide
  have same : layOut (nameTables ⟨.c, "TOK_", "Token::Kind"⟩ awkwardLater) =
      layOut (nameTables ⟨.c, "TOK_", "Token::Kind"⟩ awkward) := by
    apply congrArg layOut
    decide +kernel
  obtain ⟨determined, listed, read, inOrder, references⟩ :=
    nameTables_lossless worded names zeroFree
  obtain ⟨sameNames, spellings⟩ := determined awkwardLater laterNames laterZeroFree same
  subst inOrder
  exact ⟨worded, names, zeroFree, laterNames, laterZeroFree, same, sameNames, spellings, read,
    references⟩

end TokenTables
