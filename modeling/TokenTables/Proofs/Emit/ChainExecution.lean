import TokenTables.Proofs.Emit.Chain
import TokenTables.Proofs.Emit.Description
import TokenTables.Proofs.Emit.Statement

/-!
The text of a comparison chain computes the lookup. Its lines are read as statements, and executing
them in order on the bytes of a text returns the token that the chain looks up, also where two
declarations share a spelling and where a spelling looks like a statement itself.
-/

namespace TokenTables

theorem Vocabulary.nameOf_eq {vocabulary : Vocabulary} {id : TokenId} {declaration : Declaration}
    (found : vocabulary.get? id = some declaration) :
    vocabulary.nameOf id = declaration.name := by
  rw [nameOf, found, Option.map_some, Option.getD_some]

theorem Vocabulary.Worded.nameOf {vocabulary : Vocabulary} (worded : vocabulary.Worded)
    (id : TokenId) : IsWord (vocabulary.nameOf id) := by
  cases found : vocabulary.get? id with
  | none =>
    rw [Vocabulary.nameOf, found]
    exact List.forall_mem_nil _
  | some declaration =>
    rw [nameOf_eq found]
    exact worded _ (List.mem_map_of_mem (List.mem_of_getElem? found))

namespace Chain

open OutlineReading (pageLines)

/-- The statements on the lines of a function, if the lines are those of the lookup function. -/
def readFunction? (dialect : Dialect) (text : String) : Option (List Statement) :=
  match pageLines text.toList with
  | [] => none
  | signature :: rest => do
    guard (signature = dialect.chainSignature.toList)
    guard (rest.getLast? = some "\x7d".toList)
    rest.dropLast.mapM fun line => Statement.read? dialect (Layout.content line)

def comparisons (chain : Chain) (value : TokenId → String) : List (List UInt8 × String) :=
  chain.tests.map fun test => (utf8Bytes test.1, value test.2)

/-- The first comparison that holds decides, as the first test decides in the lookup. -/
theorem run_comparisons (chain : Chain) (value : TokenId → String) (text : String) :
    Statement.run (Statement.function (chain.comparisons value) (value chain.fallback))
        (utf8Bytes text) =
      some (value (chain.lookup text)) := by
  unfold Statement.function comparisons lookup
  induction chain.tests with
  | nil => rfl
  | cons test rest ih =>
    obtain ⟨spelling, id⟩ := test
    rw [List.map_cons, List.map_cons, List.cons_append, Statement.run, List.lookup_cons]
    by_cases same : spelling = text
    · subst same
      rw [if_pos rfl, beq_self_eq_true]
      rfl
    · have different : utf8Bytes spelling ≠ utf8Bytes text := fun bytes =>
        same (utf8Bytes_injective bytes)
      rw [if_neg different, beq_eq_false_iff_ne.2 (Ne.symm same)]
      exact ih

def bodyTexts (chain : Chain) (dialect : Dialect) (vocabulary : Vocabulary) : List String :=
  chain.tests.map (fun test =>
      dialect.testLine (Literal.string test.1) (dialect.kind (vocabulary.nameOf test.2))) ++
    ["return " ++ dialect.kind (vocabulary.nameOf chain.fallback) ++ ";"]

theorem steps_eq (chain : Chain) (dialect : Dialect) (vocabulary : Vocabulary) :
    chain.steps dialect vocabulary =
      .opening dialect.chainSignature :: (chain.bodyTexts dialect vocabulary).map .line ++
        [.closing "\x7d"] := by
  simp [steps, bodyTexts, Dialect.testLine, Vocabulary.nameOf]

/-! The text of the function. -/

theorem chainSignature_unbroken {dialect : Dialect} (worded : dialect.Worded) :
    '\n' ∉ dialect.chainSignature.toList := by
  have path : '\n' ∉ dialect.kindPath.toList := worded.kindPath.notMem (by decide)
  unfold Dialect.chainSignature
  cases dialect.target <;> simp [path]

section

variable {dialect : Dialect} {vocabulary : Vocabulary} (worded : dialect.Worded)
  (names : vocabulary.Worded) (chain : Chain)
include worded names

theorem solid_bodyTexts : ∀ text ∈ chain.bodyTexts dialect vocabulary, Layout.Solid text := by
  have path : ∀ id, IsPath (dialect.kind (vocabulary.nameOf id)) := fun id =>
    worded.isPath_kind (names.nameOf id)
  unfold bodyTexts
  rw [List.forall_mem_append, List.forall_mem_map, List.forall_mem_singleton]
  exact ⟨fun test _ => Statement.solid_test test.1 (path test.2),
    Statement.solid_result (path chain.fallback)⟩

theorem steps_unbroken : ∀ step ∈ chain.steps dialect vocabulary, '\n' ∉ step.text.toList := by
  rw [steps_eq, List.cons_append, List.forall_mem_cons, List.forall_mem_append,
    List.forall_mem_map, List.forall_mem_singleton]
  exact ⟨chainSignature_unbroken worded,
    fun text member => (solid_bodyTexts worded names chain text member).unbroken, by decide⟩

theorem pageLines_layOut_steps : pageLines (layOut (chain.steps dialect vocabulary)).toList =
    dialect.chainSignature.toList ::
      (chain.bodyTexts dialect vocabulary).map (LayoutStep.atLevel 1) ++ ["\x7d".toList] := by
  rw [Layout.pageLines_layOut (steps_unbroken worded names chain), steps_eq, Layout.linesAt_block,
    Layout.atLevel_zero, Layout.atLevel_zero]

theorem readFunction?_layOut
    (literals : ∀ test ∈ chain.tests, Literal.asRead (utf8Bytes test.1) = utf8Bytes test.1) :
    readFunction? dialect (layOut (chain.steps dialect vocabulary)) =
      some (Statement.function (chain.comparisons fun id => dialect.kind (vocabulary.nameOf id))
        (dialect.kind (vocabulary.nameOf chain.fallback))) := by
  have path : ∀ id, IsPath (dialect.kind (vocabulary.nameOf id)) := fun id =>
    worded.isPath_kind (names.nameOf id)
  have body : ((chain.bodyTexts dialect vocabulary).map (LayoutStep.atLevel 1)).mapM
      (fun line => Statement.read? dialect (Layout.content line)) =
        some (Statement.function (chain.comparisons fun id => dialect.kind (vocabulary.nameOf id))
          (dialect.kind (vocabulary.nameOf chain.fallback))) := by
    apply Layout.mapM_eq_some
    apply List.forall₂_map_left_iff.2
    unfold bodyTexts Statement.function comparisons
    rw [List.map_map]
    apply List.rel_append
    · apply Layout.forall₂_map_same
      intro test member
      have solid : Layout.Solid (dialect.testLine (Literal.string test.1)
          (dialect.kind (vocabulary.nameOf test.2))) := Statement.solid_test test.1 (path test.2)
      rw [solid.content_atLevel, Statement.read?_test _ _ (path test.2), literals test member]
      rfl
    · apply List.Forall₂.cons _ .nil
      rw [(Statement.solid_result (path chain.fallback)).content_atLevel,
        Statement.read?_result _ (path chain.fallback)]
  simp only [readFunction?, pageLines_layOut_steps worded names chain, List.cons_append,
    List.getLast?_concat, List.dropLast_concat, guard_true, body]
  rfl

end

theorem isSome_ofVocabulary?_iff (vocabulary : Vocabulary) (noMatch : String) :
    (ofVocabulary? vocabulary noMatch).isSome ↔ noMatch ∈ vocabulary.names := by
  rw [ofVocabulary?, Option.isSome_map, Vocabulary.idOf?, Option.isSome_map,
    vocabulary.position?_isSome_iff]

section

variable {vocabulary : Vocabulary} {noMatch : String} {chain : Chain}
  (made : ofVocabulary? vocabulary noMatch = some chain)
include made

theorem declared_tests : ∀ test ∈ chain.tests, (vocabulary.get? test.2).isSome := by
  obtain ⟨fallback, _, rfl⟩ := Option.map_eq_some_iff.1 made
  intro test member
  obtain ⟨⟨id, declaration, spelling⟩, listed, rfl⟩ := List.mem_map.1 member
  exact Vocabulary.Spells.get?_isSome ⟨declaration, listed⟩

theorem declared_fallback : (vocabulary.get? chain.fallback).isSome := by
  obtain ⟨fallback, named, rfl⟩ := Option.map_eq_some_iff.1 made
  obtain ⟨position, found, rfl⟩ := Option.map_eq_some_iff.1 named
  have inside : position < vocabulary.names.length := (List.idxOf?_eq_some_iff.1 found).1
  rw [Vocabulary.names, List.length_map] at inside
  exact Vocabulary.get?_ofNat_isSome inside

theorem declared_lookup (text : String) : (vocabulary.get? (chain.lookup text)).isSome := by
  rw [lookup]
  cases found : chain.tests.lookup text with
  | none => exact declared_fallback made
  | some id =>
    obtain ⟨before, after, split, _⟩ := List.lookup_eq_some_iff.1 found
    have member : (text, id) ∈ chain.tests := by
      rw [split]
      exact List.mem_append_right before List.mem_cons_self
    exact declared_tests made (text, id) member

theorem spelling_of_mem_tests : ∀ test ∈ chain.tests, ∃ declaration ∈ vocabulary.declarations,
    declaration.spelling = some test.1 := by
  obtain ⟨fallback, _, rfl⟩ := Option.map_eq_some_iff.1 made
  intro test member
  obtain ⟨⟨id, declaration, spelling⟩, listed, rfl⟩ := List.mem_map.1 member
  obtain ⟨entry, spelt⟩ := (vocabulary.mem_spelled_iff ..).1 listed
  obtain ⟨position, held, _⟩ := (vocabulary.mem_entries_iff ..).1 entry
  exact ⟨declaration, List.mem_of_getElem? held, spelt⟩

end

/-- For every declared no-match token there is a chain. Its text is read as comparisons that a plain
return ends. No literal has a zero byte, so comparing bytes is what the targets do, and executing
the lines on the bytes of any text returns the token that the chain looks up. -/
theorem text_computes_lookup {dialect : Dialect} (worded : dialect.Worded)
    {vocabulary : Vocabulary} (names : vocabulary.Worded) (zeroFree : vocabulary.ZeroFree)
    {noMatch : String} (declared : noMatch ∈ vocabulary.names) :
    ∃ chain tests result, ofVocabulary? vocabulary noMatch = some chain ∧
      readFunction? dialect (layOut (chain.steps dialect vocabulary)) =
        some (Statement.function tests result) ∧
      (∀ test ∈ tests, 0 ∉ test.1) ∧
      ∀ text, ∃ declaration, vocabulary.get? (chain.lookup text) = some declaration ∧
        Statement.run (Statement.function tests result) (utf8Bytes text) =
          some (dialect.kind declaration.name) := by
  obtain ⟨chain, made⟩ :=
    Option.isSome_iff_exists.1 ((isSome_ofVocabulary?_iff vocabulary noMatch).2 declared)
  have spelt := spelling_of_mem_tests made
  have zero : ∀ test ∈ chain.tests, 0 ∉ utf8Bytes test.1 := by
    intro test member
    obtain ⟨declaration, listed, spelling⟩ := spelt test member
    exact zero_notMem_utf8Bytes (zeroFree declaration listed test.1 spelling)
  have read := readFunction?_layOut worded names chain fun test member =>
    Literal.asRead_of_zero_notMem (zero test member)
  refine ⟨chain, _, _, made, read, ?_, fun text => ?_⟩
  · unfold comparisons
    exact List.forall_mem_map.2 zero
  · obtain ⟨declaration, held⟩ := Option.isSome_iff_exists.1 (declared_lookup made text)
    have value := run_comparisons chain (fun id => dialect.kind (vocabulary.nameOf id)) text
    rw [Vocabulary.nameOf_eq held] at value
    exact ⟨declaration, held, value⟩

def confusing : Vocabulary where
  declarations := [.make "None" none 1, .make "Closed" (some "\") return Token::Kind::None;") 2,
    .make "Called" (some "\") == 0) return TOK_None;\n") 3, .make "Accent" (some "é") 4,
    .make "Again" (some "é") 5]
  distinct := by decide

/-- The chain of `confusing` returns the first of the two tokens with one spelling, and the token of
a spelling that looks like a statement. -/
theorem confusing_computes_lookup :
    Dialect.Worded ⟨.cpp, "TOK_", "Token::Kind"⟩ ∧ confusing.Worded ∧ confusing.ZeroFree ∧
      "None" ∈ confusing.names ∧
      ∃ chain tests result, ofVocabulary? confusing "None" = some chain ∧
        readFunction? ⟨.cpp, "TOK_", "Token::Kind"⟩
            (layOut (chain.steps ⟨.cpp, "TOK_", "Token::Kind"⟩ confusing)) =
          some (Statement.function tests result) ∧
        Statement.run (Statement.function tests result) (utf8Bytes "é") =
          some "Token::Kind::Accent" ∧
        Statement.run (Statement.function tests result)
            (utf8Bytes "\") return Token::Kind::None;") = some "Token::Kind::Closed" ∧
        Statement.run (Statement.function tests result) (utf8Bytes "other") =
          some "Token::Kind::None" := by
  have worded : Dialect.Worded ⟨.cpp, "TOK_", "Token::Kind"⟩ :=
    ⟨by decide, by decide⟩
  have names : confusing.Worded := by decide
  have zeroFree : confusing.ZeroFree := by decide
  have declared : "None" ∈ confusing.names := by decide
  obtain ⟨chain, tests, result, made, read, _, computes⟩ :=
    text_computes_lookup worded names zeroFree declared
  have value : ∀ text declaration, confusing.get? (chain.lookup text) = some declaration →
      Statement.run (Statement.function tests result) (utf8Bytes text) =
        some ("Token::Kind::" ++ declaration.name) := by
    intro text declaration held
    obtain ⟨found, here, returned⟩ := computes text
    rw [Option.some.inj (held.symm.trans here), returned]
    rfl
  cases made
  exact ⟨worded, names, zeroFree, declared, _, tests, result, rfl, read,
    value "é" (.make "Accent" (some "é") 4) (by decide +kernel),
    value "\") return Token::Kind::None;"
      (.make "Closed" (some "\") return Token::Kind::None;") 2) (by decide +kernel),
    value "other" (.make "None" none 1) (by decide +kernel)⟩

end Chain

end TokenTables
