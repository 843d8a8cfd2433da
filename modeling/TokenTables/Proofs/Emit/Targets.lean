import TokenTables.Proofs.Emit.Counterparts

/-!
The targets differ in their words only. The data file for C and the one for C++ are written line by
line alike, whatever the tokens, the trie and the includes are, if both settings name the same
no-match token and no namespace is put around the C++ tables. Both are written or both fail, and a
line of one says what the line at its place in the other says, at the same indentation. There is one
exception: without a path of the enumeration type the signature of the C++ function starts with the
blank after it.
-/

namespace TokenTables

def Settings.withTarget (settings : Settings) (target : Target) : Settings :=
  { settings with target := target }

/-- A line for C and the line at its place for C++. -/
structure Aligned (c cpp : Dialect) (line other : List Char) : Prop where
  blank_iff : Layout.content line = [] ↔ Layout.content other = []
  indentation_eq : Layout.indentation line = Layout.indentation other ∨
    cpp.kindPath = "" ∧ line = c.chainSignature.toList ∧ other = cpp.chainSignature.toList ∧
      Layout.indentation other = Layout.indentation line + 1
  /-- Both lines say the same, or both are the same line of what the targets have in words of their
  own. -/
  content : (∃ content, readLine? c line = some content ∧ readLine? cpp other = some content) ∨
    (line, other) ∈ c.ownLines.zip cpp.ownLines

section

variable {lead path : String}

/-- The signature has visible text after the path. -/
theorem content_chainSignature (dialect : Dialect) :
    Layout.content dialect.chainSignature.toList ≠ [] := by
  have visible : 't' ∈ dialect.chainSignature.toList := by
    unfold Dialect.chainSignature
    cases dialect.target <;> simp
  intro nothing
  have blank := List.dropWhile_eq_nil_iff.1 nothing 't' visible
  contradiction

theorem indentation_chainSignature (lead : String) {path : String} (worded : IsPath path) :
    Layout.indentation (Dialect.chainSignature ⟨.c, lead, path⟩).toList = 0 ∧
      Layout.indentation (Dialect.chainSignature ⟨.cpp, lead, path⟩).toList =
        if path = "" then 1 else 0 := by
  have signature : (Dialect.chainSignature ⟨.cpp, lead, path⟩).toList =
      path.toList ++ " tokenFromStr(std::string_view str) \x7b".toList := String.toList_append ..
  constructor
  · have flush : Layout.indentation "static int tokenFromStr(const char *str) \x7b".toList = 0 := by
      decide
    exact flush
  · rw [signature]
    cases letters : path.toList with
    | nil =>
      rw [if_pos (String.toList_eq_nil_iff.1 letters)]
      decide
    | cons first rest =>
      have inside : first ∈ path.toList := letters ▸ List.mem_cons_self
      have visible : ¬(first == ' ') = true := by
        intro blank
        have same : first = ' ' := by simpa using blank
        have word := worded first inside
        rw [same] at word
        contradiction
      have some : path ≠ "" := by
        intro nothing
        rw [nothing] at letters
        contradiction
      rw [if_neg some, Layout.indentation, List.cons_append, List.takeWhile_cons, if_neg visible]
      rfl

theorem aligned_nodeType : ∀ pair ∈
    ((Dialect.nodeType ⟨.c, "", ""⟩).map String.toList).zip
      ((Dialect.nodeType ⟨.cpp, "", ""⟩).map String.toList),
    Layout.content pair.1 ≠ [] ∧ Layout.content pair.2 ≠ [] ∧
      Layout.indentation pair.1 = Layout.indentation pair.2 := by
  decide

theorem Counterpart.aligned (worded : IsPath path) {names : List String} {line other : List Char}
    (counterpart : Counterpart ⟨.c, lead, path⟩ ⟨.cpp, lead, path⟩ names line other) :
    Aligned ⟨.c, lead, path⟩ ⟨.cpp, lead, path⟩ line other := by
  rcases counterpart with same | own
  · obtain ⟨content, told, otherTold, _⟩ := same.told
    exact ⟨same.blank_iff, .inl same.indentation_eq, .inl ⟨content, told, otherTold⟩⟩
  · rcases List.mem_cons.1 own with signature | nodeType
    · obtain ⟨here, there⟩ := Prod.mk.inj signature
      subst here there
      obtain ⟨flush, shifted⟩ := indentation_chainSignature lead worded
      refine ⟨iff_of_false (content_chainSignature _) (content_chainSignature _), ?_, .inr own⟩
      by_cases empty : path = ""
      · rw [if_pos empty] at shifted
        exact .inr ⟨empty, rfl, rfl, by rw [shifted, flush]⟩
      · rw [if_neg empty] at shifted
        exact .inl (flush.trans shifted.symm)
    · obtain ⟨visible, otherVisible, same⟩ := aligned_nodeType _ nodeType
      exact ⟨iff_of_false visible otherVisible, .inl same, .inr own⟩

end

/-! The parts of a data file. -/

section

variable {first second : Dialect} {names : List String}

theorem Agree.includeLine {name : String} (unbroken : '\n' ∉ name.toList) :
    Agree first second names (Artifact.includeLine name) (Artifact.includeLine name) := by
  have nameless : ∀ file, (if file ∈ LineReading.comparisonHeaders then Line.inclusion none
      else .inclusion (some file)).name? = none := by
    intro file
    split <;> rfl
  have header : ∀ file : String, '\n' ∉ file.toList →
      Agree first second names ("#include " ++ file) ("#include " ++ file) := by
    intro file whole
    exact .of_nameless (tells_inclusion whole) (tells_inclusion whole) (nameless file)
  unfold Artifact.includeLine
  split
  next => exact header name unbroken
  next =>
    have quoted : "#include \"" ++ name ++ "\"" = "#include " ++ ("\"" ++ name ++ "\"") := by
      have lead : "#include \"" = "#include " ++ "\"" := by decide
      simp only [lead, String.append_assoc]
    rw [quoted]
    exact header _ (by simp [unbroken])

theorem Agree.chainInclude : Agree first second names first.chainInclude second.chainInclude := by
  have tells : ∀ dialect : Dialect, Tells dialect dialect.chainInclude (.inclusion none) := by
    intro dialect
    have c : Tells dialect ("#include " ++ "<string.h>") (.inclusion none) :=
      tells_inclusion (by decide)
    have cpp : Tells dialect ("#include " ++ "<string_view>") (.inclusion none) :=
      tells_inclusion (by decide)
    unfold Dialect.chainInclude
    cases dialect.target with
    | c => exact c
    | cpp => exact cpp
  exact .of_nameless (tells first) (tells second) rfl

end

def includeTexts (settings : Settings) (dialect : Dialect) : List String :=
  settings.includes.map Artifact.includeLine ++
    match settings.strategy with
    | .linear => [dialect.chainInclude]
    | .trie => []

def separated (texts : List String) : List LayoutStep :=
  if texts.isEmpty then [] else texts.map .line ++ [.blank]

theorem includeSteps_eq (settings : Settings) :
    Artifact.includeSteps settings =
      separated (includeTexts settings (Dialect.ofSettings settings)) :=
  rfl

theorem levelAfter_separated (texts : List String) :
    Layout.levelAfter 0 (separated texts) = 0 := by
  unfold separated
  split
  next => rfl
  next =>
    rw [Layout.levelAfter_append, Layout.levelAfter_lines]
    rfl

section

variable {first second : Dialect} {names : List String}

theorem agree_includeTexts {settings : Settings}
    (unbroken : ∀ name ∈ settings.includes, '\n' ∉ name.toList) :
    List.Forall₂ (Agree first second names) (includeTexts settings first)
      (includeTexts settings second) := by
  apply List.rel_append
  · exact Layout.forall₂_map_same fun name member => .includeLine (unbroken name member)
  · cases settings.strategy with
    | linear => exact .cons .chainInclude .nil
    | trie => exact .nil

theorem twins_separated {texts others : List String}
    (agree : List.Forall₂ (Agree first second names) texts others) :
    List.Forall₂ (Twins first second names) (separated texts) (separated others) := by
  have lines : List.Forall₂ (Twins first second names) (texts.map .line) (others.map .line) :=
    List.rel_map (fun _ _ both => .line both) agree
  cases agree with
  | nil => exact .nil
  | cons => exact List.rel_append lines (.cons .blank .nil)

end

theorem levelAfter_nameTables (dialect : Dialect) (vocabulary : Vocabulary) :
    Layout.levelAfter 0 (nameTables dialect vocabulary ++ [.blank]) = 0 := by
  have blank : ∀ level, Layout.levelAfter level [.blank] = level := fun _ => rfl
  simp only [nameTables, spellingTable, nameTable, Layout.levelAfter_append,
    levelAfter_stringTable, blank]

/-! A data file. -/

theorem levelAfter_before (settings : Settings) (vocabulary : Vocabulary) :
    Layout.levelAfter 0 (Artifact.header :: Artifact.includeSteps settings ++
      (nameTables (Dialect.ofSettings settings) vocabulary ++ [.blank])) = 0 := by
  have header : Layout.levelAfter 0 (Artifact.header :: Artifact.includeSteps settings) =
      Layout.levelAfter 0 (Artifact.includeSteps settings) := rfl
  rw [Layout.levelAfter_append, header, includeSteps_eq, levelAfter_separated,
    levelAfter_nameTables]

section

variable {settings : Settings} {vocabulary : Vocabulary}
  (lead : IsWord settings.identifierLead) (path : IsPath settings.kindPath)
  (words : vocabulary.Worded)
include lead path words

theorem alike_recogniser (explicit : settings.noMatch.isSome) (trie : Trie)
    (target other : Target) :
    Alike (Parallel (Dialect.ofSettings (settings.withTarget target))
        (Dialect.ofSettings (settings.withTarget other)) vocabulary.names)
      (Artifact.recogniser (settings.withTarget target) vocabulary trie)
      (Artifact.recogniser (settings.withTarget other) vocabulary trie) := by
  have worded : ∀ target, (Dialect.ofSettings (settings.withTarget target)).Worded :=
    fun _ => ⟨lead, path⟩
  obtain ⟨noMatch, named⟩ := Option.isSome_iff_exists.1 explicit
  have fallback : ∀ target, (settings.withTarget target).noMatchName = noMatch := by
    intro target
    rw [Settings.noMatchName, Settings.withTarget, named]
  have strategy : ∀ target, (settings.withTarget target).strategy = settings.strategy :=
    fun _ => rfl
  unfold Artifact.recogniser
  rw [strategy, strategy, fallback, fallback]
  cases settings.strategy with
  | trie => exact alike_trieSteps (worded target) (worded other) words trie
  | linear =>
    cases made : Chain.ofVocabulary? vocabulary noMatch with
    | none => exact .error _
    | some chain => exact .ok (parallel_chain (worded target) (worded other) words made)

theorem parallel_before (includes : ∀ name ∈ settings.includes, '\n' ∉ name.toList)
    (target other : Target) :
    Parallel (Dialect.ofSettings (settings.withTarget target))
      (Dialect.ofSettings (settings.withTarget other)) vocabulary.names
      (Artifact.header :: Artifact.includeSteps (settings.withTarget target) ++
        (nameTables (Dialect.ofSettings (settings.withTarget target)) vocabulary ++ [.blank]))
      (Artifact.header :: Artifact.includeSteps (settings.withTarget other) ++
        (nameTables (Dialect.ofSettings (settings.withTarget other)) vocabulary ++ [.blank])) := by
  have worded : ∀ target, (Dialect.ofSettings (settings.withTarget target)).Worded :=
    fun _ => ⟨lead, path⟩
  have header : Agree (Dialect.ofSettings (settings.withTarget target))
      (Dialect.ofSettings (settings.withTarget other)) vocabulary.names
      "/* Auto Generated File */" "/* Auto Generated File */" :=
    .fixed (by simp [Dialect.fixedLines])
  apply Parallel.of_twins
  apply List.rel_append
  · exact .cons (.line header) (twins_separated (agree_includeTexts includes))
  · exact List.rel_append (twins_nameTables (worded target) (worded other) words)
      (.cons .blank .nil)

end

theorem dataText_eq {settings : Settings} (unscoped : Artifact.namedScope settings = none)
    (vocabulary : Vocabulary) (trie : Trie) :
    Artifact.dataText settings vocabulary trie =
      (Artifact.recogniser settings vocabulary trie).map fun steps =>
        layOut ((Artifact.header :: Artifact.includeSteps settings ++
          (nameTables (Dialect.ofSettings settings) vocabulary ++ [.blank])) ++ steps) := by
  have scope : ∀ contents, Artifact.inScope settings contents = contents := by
    intro contents
    unfold Artifact.inScope
    rw [unscoped]
    cases settings.target <;> rfl
  unfold Artifact.dataText
  cases Artifact.recogniser settings vocabulary trie with
  | error cause => rfl
  | ok steps =>
    simp only [scope, List.append_assoc]
    rfl

/-- The data files for C and C++ are written from the same input or fail with the same error. Where
they are written, they have line for line the same indentation and say the same. -/
theorem dataText_alike {settings : Settings} {vocabulary : Vocabulary}
    (lead : IsWord settings.identifierLead) (path : IsPath settings.kindPath)
    (words : vocabulary.Worded) (includes : ∀ name ∈ settings.includes, '\n' ∉ name.toList)
    (explicit : settings.noMatch.isSome) (unscoped : Artifact.namedScope settings = none)
    (trie : Trie) :
    Alike (fun text other => List.Forall₂
        (Aligned (Dialect.ofSettings (settings.withTarget .c))
          (Dialect.ofSettings (settings.withTarget .cpp)))
        (OutlineReading.pageLines text.toList) (OutlineReading.pageLines other.toList))
      (Artifact.dataText (settings.withTarget .c) vocabulary trie)
      (Artifact.dataText (settings.withTarget .cpp) vocabulary trie) := by
  have anywhere : ∀ target, Artifact.namedScope (settings.withTarget target) = none :=
    fun _ => unscoped
  rw [dataText_eq (anywhere .c), dataText_eq (anywhere .cpp)]
  apply (alike_recogniser lead path words explicit trie .c .cpp).map
  intro steps others parallel
  have whole := (parallel_before lead path words includes .c .cpp).append parallel
    (levelAfter_before ..) (levelAfter_before ..)
  rw [Layout.pageLines_layOut whole.unbroken, Layout.pageLines_layOut whole.otherUnbroken]
  exact whole.lines.imp fun _ _ counterpart => counterpart.aligned path

def quotedSettings : Settings := { includes := ["<ctype.h>", "token.h"], noMatch := some "Quote" }

/-- The tables for bindings of which one continues another are written for both targets. -/
theorem quotedSettings_alike :
    IsWord quotedSettings.identifierLead ∧ IsPath quotedSettings.kindPath ∧ quoteAndComma.Worded ∧
      (∀ name ∈ quotedSettings.includes, '\n' ∉ name.toList) ∧ quotedSettings.noMatch.isSome ∧
      Artifact.namedScope quotedSettings = none ∧
      ∃ text other,
        Artifact.dataText (quotedSettings.withTarget .c) quoteAndComma
          (Trie.empty.insertAll quotedBindings) = .ok text ∧
        Artifact.dataText (quotedSettings.withTarget .cpp) quoteAndComma
          (Trie.empty.insertAll quotedBindings) = .ok other ∧
        List.Forall₂ (Aligned ⟨.c, "TOK_", "Token::Kind"⟩ ⟨.cpp, "TOK_", "Token::Kind"⟩)
          (OutlineReading.pageLines text.toList) (OutlineReading.pageLines other.toList) := by
  have lead : IsWord quotedSettings.identifierLead := by decide
  have path : IsPath quotedSettings.kindPath := by decide
  have words : quoteAndComma.Worded := by decide
  have includes : ∀ name ∈ quotedSettings.includes, '\n' ∉ name.toList := by decide
  have explicit : quotedSettings.noMatch.isSome := by decide
  have unscoped : Artifact.namedScope quotedSettings = none := by decide
  have anywhere : Artifact.namedScope (quotedSettings.withTarget .c) = none := unscoped
  have alike := dataText_alike lead path words includes explicit unscoped
    (Trie.empty.insertAll quotedBindings)
  have declares : quoteAndComma.Declares quotedBindings := by
    unfold Vocabulary.Declares
    decide
  obtain ⟨steps, written⟩ := Dispatch.exists_trieSteps
    (Dialect.ofSettings (quotedSettings.withTarget .c)) declares.get?_isSome
  have recognised : Artifact.recogniser (quotedSettings.withTarget .c) quoteAndComma
      (Trie.empty.insertAll quotedBindings) = .ok steps := written
  generalize c : Artifact.dataText (quotedSettings.withTarget .c) quoteAndComma
    (Trie.empty.insertAll quotedBindings) = outcome at alike
  generalize cpp : Artifact.dataText (quotedSettings.withTarget .cpp) quoteAndComma
    (Trie.empty.insertAll quotedBindings) = otherOutcome at alike
  cases alike with
  | error cause =>
    rw [dataText_eq anywhere, recognised] at c
    contradiction
  | @ok text other aligned =>
    exact ⟨lead, path, words, includes, explicit, unscoped, text, other, rfl, rfl, aligned⟩

def pathless : Settings := { strategy := .linear, kindPath := "", noMatch := some "A" }

def oneName : Vocabulary where
  declarations := [.make "A" none 1]
  distinct := by decide

/-- Without a path the signatures stand at different indentations. -/
theorem pathless_not_same_indentation :
    IsWord pathless.identifierLead ∧ IsPath pathless.kindPath ∧ oneName.Worded ∧
      (∀ name ∈ pathless.includes, '\n' ∉ name.toList) ∧ pathless.noMatch.isSome ∧
      Artifact.namedScope pathless = none ∧
      ∃ text other,
        Artifact.dataText (pathless.withTarget .c) oneName .empty = .ok text ∧
        Artifact.dataText (pathless.withTarget .cpp) oneName .empty = .ok other ∧
        ¬ ∀ pair ∈ (OutlineReading.pageLines text.toList).zip
          (OutlineReading.pageLines other.toList),
            Layout.indentation pair.1 = Layout.indentation pair.2 := by
  have c : Artifact.dataText (pathless.withTarget .c) oneName .empty =
      .ok (layOut [.line "/* Auto Generated File */", .line "#include <string.h>", .blank,
        .opening "static const char *tokenToStrMap[NUM_TOKENS] = \x7b", .closing "\x7d;", .blank,
        .opening "static const char *tokenToNameMap[NUM_TOKENS] = \x7b",
        .line "[TOK_A] = \"A\",", .closing "\x7d;", .blank,
        .opening "static int tokenFromStr(const char *str) \x7b", .line "return TOK_A;",
        .closing "\x7d"]) := by
    apply congrArg Except.ok
    apply congrArg layOut
    decide +kernel
  have cpp : Artifact.dataText (pathless.withTarget .cpp) oneName .empty =
      .ok (layOut [.line "/* Auto Generated File */", .line "#include <string_view>", .blank,
        .opening "static const char *tokenToStrMap[(int)::NumTokens] = \x7b", .closing "\x7d;",
        .blank, .opening "static const char *tokenToNameMap[(int)::NumTokens] = \x7b",
        .line "[(int)::A] = \"A\",", .closing "\x7d;", .blank,
        .opening " tokenFromStr(std::string_view str) \x7b", .line "return ::A;",
        .closing "\x7d"]) := by
    apply congrArg Except.ok
    apply congrArg layOut
    decide +kernel
  refine ⟨by decide, by decide, by decide, by decide, by decide, by decide, _, _, c, cpp, ?_⟩
  rw [Layout.pageLines_layOut (by decide), Layout.pageLines_layOut (by decide)]
  decide +kernel

end TokenTables
