import Mathlib.Data.List.Forall2
import TokenTables.Proofs.Token.Spelled
import TokenTables.Proofs.Trie.Binding
import TokenTables.Trie.Construction

/-!
The trie of a vocabulary answers for its declarations. An ASCII text is looked up to the first
declaration with that spelling, any other text to nothing. Each spelled declaration is either
bound to its own id or has the one error that says why it is not, and no other error about a
spelling is reported.
-/

namespace TokenTables

open Vocabulary (SpelledEntry)

def bindings (entries : List SpelledEntry) : List (List UInt8 × TokenId) :=
  entries.map fun entry => (utf8Bytes entry.2.2, entry.1)

def Diagnostic.refusesSpelling (diagnostic : Diagnostic) : Bool :=
  diagnostic.code = 3001 || diagnostic.code = 3002

theorem mem_bindings_iff (entries : List SpelledEntry) (spelling : List UInt8) (id : TokenId) :
    (spelling, id) ∈ bindings entries ↔
      ∃ declaration text, (id, declaration, text) ∈ entries ∧ utf8Bytes text = spelling := by
  simp only [bindings, List.mem_map, Prod.exists, Prod.mk.injEq]
  constructor
  · rintro ⟨_, declaration, text, member, bytes, rfl⟩
    exact ⟨declaration, text, member, bytes⟩
  · rintro ⟨declaration, text, member, bytes⟩
    exact ⟨id, declaration, text, member, bytes, rfl⟩

theorem listed_of_lookup {entries : List SpelledEntry} {spelling : List UInt8} {id : TokenId}
    (found : (bindings entries).lookup spelling = some id) :
    ∃ declaration text, (id, declaration, text) ∈ entries ∧ utf8Bytes text = spelling := by
  obtain ⟨before, after, listed, _⟩ := List.lookup_eq_some_iff.1 found
  exact (mem_bindings_iff ..).1 (by simp [listed])

theorem bindable_utf8Bytes {text : String} (ascii : IsAsciiText text) (notEmpty : text ≠ "") :
    Trie.Bindable (utf8Bytes text) :=
  ⟨fun nothing => notEmpty ((utf8Bytes_eq_nil_iff text).1 nothing),
    (utf8Bytes_ascii_iff text).2 ascii⟩

theorem refusal?_of_not_ascii (trie : Trie) {text : String} (foreign : ¬IsAsciiText text) :
    ∃ byte, trie.refusal? (utf8Bytes text) = some (.nonAscii byte) := by
  have notEmpty : utf8Bytes text ≠ [] := fun nothing =>
    foreign ((utf8Bytes_ascii_iff text).1 (by simp [nothing]))
  cases found : (utf8Bytes text).find? fun code => !isAscii code with
  | some byte => exact ⟨byte, by simp [Trie.refusal?, notEmpty, found]⟩
  | none =>
    refine absurd ((utf8Bytes_ascii_iff text).1 fun byte member => ?_) foreign
    simpa using List.find?_eq_none.1 found byte member

theorem OverlapPolicy.code_of_message? {policy : OverlapPolicy} {message : Message}
    (found : policy.message? = some message) : message.code = 3003 := by
  cases policy with
  | allow => contradiction
  | warn => exact Option.some.inj found ▸ rfl
  | deny => exact Option.some.inj found ▸ rfl

namespace TrieBuild

/-! The three outcomes of binding one spelling. -/

variable (context : Context) (build : TrieBuild) (id : TokenId)

theorem bind_foreign {spelling : String} {character : Char}
    (foreign : firstNonAscii spelling = some character) :
    build.bind context id spelling = build.addDiagnostic (context.nonAscii id character) := by
  rw [bind, foreign]

theorem bind_taken {spelling : String} {holder : TokenId} (ascii : IsAsciiText spelling)
    (notEmpty : spelling ≠ "")
    (taken : build.trie.find? (utf8Bytes spelling) = some holder) :
    build.bind context id spelling =
      build.addDiagnostic (context.taken id holder spelling) := by
  have refused := Trie.refusal?_occupied (bindable_utf8Bytes ascii notEmpty) taken
  rw [bind, (firstNonAscii_eq_none_iff spelling).2 ascii]
  simp only [Trie.insert_refused refused]

theorem bind_free {spelling : String} (ascii : IsAsciiText spelling) (notEmpty : spelling ≠ "")
    (free : build.trie.find? (utf8Bytes spelling) = none) :
    build.bind context id spelling = {
      trie := (build.trie.insert (utf8Bytes spelling) id).trie
      report := build.report ++
        context.overlapReport id (build.trie.overlaps id (utf8Bytes spelling))
      boundCount := build.boundCount + 1 } := by
  have accepted := (Trie.refusal?_eq_none_iff build.trie (utf8Bytes spelling)).2
    ⟨bindable_utf8Bytes ascii notEmpty, free⟩
  rw [bind, (firstNonAscii_eq_none_iff spelling).2 ascii]
  simp only [Trie.refusal_insert, accepted]

theorem bind_cases {spelling : String} (notEmpty : spelling ≠ "") :
    (∃ character, firstNonAscii spelling = some character ∧
      build.bind context id spelling = build.addDiagnostic (context.nonAscii id character)) ∨
    (∃ holder, IsAsciiText spelling ∧ build.trie.find? (utf8Bytes spelling) = some holder ∧
      build.bind context id spelling = build.addDiagnostic (context.taken id holder spelling)) ∨
    (IsAsciiText spelling ∧ build.trie.find? (utf8Bytes spelling) = none ∧
      build.bind context id spelling = {
        trie := (build.trie.insert (utf8Bytes spelling) id).trie
        report := build.report ++
          context.overlapReport id (build.trie.overlaps id (utf8Bytes spelling))
        boundCount := build.boundCount + 1 }) := by
  cases first : firstNonAscii spelling with
  | some character => exact .inl ⟨character, rfl, bind_foreign context build id first⟩
  | none =>
    have ascii := (firstNonAscii_eq_none_iff spelling).1 first
    cases found : build.trie.find? (utf8Bytes spelling) with
    | some holder =>
      exact .inr (.inl ⟨holder, ascii, rfl, bind_taken context build id ascii notEmpty found⟩)
    | none => exact .inr (.inr ⟨ascii, rfl, bind_free context build id ascii notEmpty found⟩)

theorem bind_trie {spelling : String} (notEmpty : spelling ≠ "") :
    (build.bind context id spelling).trie =
      (build.trie.insert (utf8Bytes spelling) id).trie := by
  rcases bind_cases context build id notEmpty with
    ⟨character, first, foreign⟩ | ⟨holder, ascii, found, taken⟩ | ⟨_, _, free⟩
  · have notAscii : ¬IsAsciiText spelling := by simp [← firstNonAscii_eq_none_iff, first]
    obtain ⟨byte, refused⟩ := refusal?_of_not_ascii build.trie notAscii
    rw [foreign, Trie.insert_refused refused]
    rfl
  · have refused := Trie.refusal?_occupied (bindable_utf8Bytes ascii notEmpty) found
    rw [taken, Trie.insert_refused refused]
    rfl
  · rw [free]

theorem filter_overlapReport (pairs : List (TokenId × TokenId)) :
    (context.overlapReport id pairs).filter Diagnostic.refusesSpelling = [] := by
  unfold Context.overlapReport
  split
  next message found =>
    refine List.filter_eq_nil_iff.2 fun diagnostic member => ?_
    obtain ⟨pair, _, rfl⟩ := List.mem_map.1 member
    have number : (context.overlap id message pair).code = 3003 :=
      OverlapPolicy.code_of_message? found
    rw [Diagnostic.refusesSpelling, number]
    decide
  next => rfl

/-! The run over all spelled declarations. -/

def bindAll (entries : List SpelledEntry) : TrieBuild :=
  entries.foldl (fun build entry => build.bind context entry.1 entry.2.2) build

theorem bindAll_trie (entries : List SpelledEntry) (notEmpty : ∀ entry ∈ entries, entry.2.2 ≠ "") :
    (build.bindAll context entries).trie = build.trie.insertAll (bindings entries) := by
  induction entries generalizing build with
  | nil => rfl
  | cons entry later ih =>
    obtain ⟨first, rest⟩ := List.forall_mem_cons.1 notEmpty
    exact (ih _ rest).trans (by rw [bind_trie context build entry.1 first]; rfl)

theorem bind_trie_concat {context : Context} {before after : List SpelledEntry}
    {entry : SpelledEntry} (split : context.vocabulary.spelled = before ++ entry :: after)
    (build : TrieBuild) (built : build.trie = Trie.empty.insertAll (bindings before)) :
    (build.bind context entry.1 entry.2.2).trie =
      Trie.empty.insertAll (bindings (before ++ [entry])) := by
  have member : entry ∈ context.vocabulary.spelled := by simp [split]
  rw [bind_trie context build entry.1 (Vocabulary.spelling_ne_empty member), built]
  simp [Trie.insertAll, bindings]

end TrieBuild

theorem buildTrie_eq_bindAll (vocabulary : Vocabulary) (policy : OverlapPolicy)
    (file : Option String) :
    buildTrie vocabulary policy file =
      TrieBuild.bindAll ⟨vocabulary, policy, file⟩ {} vocabulary.spelled := rfl

/-- The policy and the file decide what is reported and never what is built. -/
theorem trie_buildTrie (vocabulary : Vocabulary) (policy : OverlapPolicy)
    (file : Option String) :
    (buildTrie vocabulary policy file).trie =
      Trie.empty.insertAll (bindings vocabulary.spelled) := by
  rw [buildTrie_eq_bindAll]
  exact TrieBuild.bindAll_trie _ _ _ fun _ member => Vocabulary.spelling_ne_empty member

theorem wellFormed_buildTrie (vocabulary : Vocabulary) (policy : OverlapPolicy)
    (file : Option String) : (buildTrie vocabulary policy file).trie.WellFormed := by
  rw [trie_buildTrie]
  exact Trie.wellFormed_empty.insertAll _

theorem declared_of_token? {vocabulary : Vocabulary} {policy : OverlapPolicy}
    {file : Option String} {index : Nat} {code : UInt8} {id : TokenId}
    (slot : (buildTrie vocabulary policy file).trie.token? index code = some id) :
    (vocabulary.get? id).isSome := by
  rw [trie_buildTrie] at slot
  rcases Trie.token?_insertAll slot with before | brought
  · rw [Trie.token?_empty] at before
    contradiction
  · obtain ⟨⟨spelling, held⟩, member, rfl⟩ := List.mem_map.1 brought
    obtain ⟨declaration, text, spelled, _⟩ := (mem_bindings_iff ..).1 member
    exact Vocabulary.Spells.get?_isSome ⟨declaration, spelled⟩

theorem lookup_insertAll {text : String} (ascii : IsAsciiText text) (notEmpty : text ≠ "")
    (entries : List SpelledEntry) :
    (Trie.empty.insertAll (bindings entries)).lookup text =
      (bindings entries).lookup (utf8Bytes text) := by
  rw [Trie.lookup, Trie.wellFormed_empty.find?_insertAll _ (bindable_utf8Bytes ascii notEmpty),
    Trie.find?_empty, Option.none_or]

/-- The spelling of an entry is bound to the first of the entries before it with that spelling, or
else to its own id, whatever comes after. -/
theorem lookup_own {before after : List SpelledEntry} {entry : SpelledEntry}
    (ascii : IsAsciiText entry.2.2) (notEmpty : entry.2.2 ≠ "") :
    (Trie.empty.insertAll (bindings (before ++ entry :: after))).lookup entry.2.2 =
      ((bindings before).lookup (utf8Bytes entry.2.2)).or (some entry.1) := by
  rw [lookup_insertAll ascii notEmpty, bindings, List.map_append, List.lookup_append,
    List.map_cons, List.lookup_cons_self]
  rfl

theorem Trie.WellFormed.lookup_of_not_ascii {trie : Trie} (tree : trie.WellFormed)
    {text : String} (foreign : ¬IsAsciiText text) : trie.lookup text = none := by
  refine Option.eq_none_iff_forall_ne_some.2 fun id found => foreign ?_
  exact (utf8Bytes_ascii_iff text).1 (tree.bindable_of_find? found).2

theorem Vocabulary.firstSpelled_empty (vocabulary : Vocabulary) :
    vocabulary.firstSpelled "" = none := by
  rw [firstSpelled, Option.map_eq_none_iff, List.find?_eq_none]
  intro entry _
  simpa using entry.2.spelling_ne_empty

theorem lookup_buildTrie (vocabulary : Vocabulary) (policy : OverlapPolicy)
    (file : Option String) (text : String) :
    (buildTrie vocabulary policy file).trie.lookup text =
      if IsAsciiText text then vocabulary.firstSpelled text else none := by
  split
  next ascii =>
    by_cases empty : text = ""
    · subst empty
      exact vocabulary.firstSpelled_empty.symm
    · rw [trie_buildTrie, lookup_insertAll ascii empty]
      exact Vocabulary.lookup_spelled utf8Bytes_injective vocabulary text
  next foreign => exact (wellFormed_buildTrie vocabulary policy file).lookup_of_not_ascii foreign

/-! The errors about spellings. -/

/-- What one spelled declaration comes to in the finished trie, with all errors about its
spelling: it is bound, its spelling is not ASCII, or an earlier declaration holds it. -/
inductive Verdict (vocabulary : Vocabulary) (file : Option String) (trie : Trie) :
    SpelledEntry → List Diagnostic → Prop
  | bound {id : TokenId} {declaration : Declaration} {spelling : String}
      (found : trie.lookup spelling = some id) :
      Verdict vocabulary file trie (id, declaration, spelling) []
  | nonAscii {id : TokenId} {declaration : Declaration} {spelling : String}
      {diagnostic : Diagnostic} (foreign : ¬IsAsciiText spelling)
      (unbound : trie.lookup spelling = none) (number : diagnostic.code = 3001)
      (category : diagnostic.category = .error) (place : diagnostic.file = file)
      (line : diagnostic.line = some declaration.line) (alone : diagnostic.related = []) :
      Verdict vocabulary file trie (id, declaration, spelling) [diagnostic]
  | taken {id holder : TokenId} {declaration other : Declaration} {spelling : String}
      {diagnostic note : Diagnostic} (ascii : IsAsciiText spelling)
      (held : (holder, other, spelling) ∈ vocabulary.spelled) (earlier : holder.index < id.index)
      (found : trie.lookup spelling = some holder) (number : diagnostic.code = 3002)
      (category : diagnostic.category = .error) (place : diagnostic.file = file)
      (line : diagnostic.line = some declaration.line) (related : diagnostic.related = [note])
      (noteNumber : note.code = 2002) (noteCategory : note.category = .note)
      (notePlace : note.file = file) (noteLine : note.line = some other.line) :
      Verdict vocabulary file trie (id, declaration, spelling) [diagnostic]

namespace TrieBuild

theorem lineOf_eq {context : Context} (few : context.vocabulary.size < UInt32.size)
    {entry : SpelledEntry} (member : entry ∈ context.vocabulary.spelled) :
    context.lineOf entry.1 = entry.2.1.line := by
  rw [Context.lineOf, Vocabulary.get?_of_mem_spelled few member]
  rfl

theorem nameOf_eq {context : Context} (few : context.vocabulary.size < UInt32.size)
    {entry : SpelledEntry} (member : entry ∈ context.vocabulary.spelled) :
    context.nameOf entry.1 = entry.2.1.name := by
  rw [Context.nameOf, Vocabulary.get?_of_mem_spelled few member]
  rfl

theorem spellingOf_eq {context : Context} (few : context.vocabulary.size < UInt32.size)
    {entry : SpelledEntry} (member : entry ∈ context.vocabulary.spelled) :
    context.spellingOf entry.1 = entry.2.2 := by
  have spelt := ((context.vocabulary.mem_spelled_iff entry.1 entry.2.1 entry.2.2).1 member).2
  rw [Context.spellingOf, Vocabulary.get?_of_mem_spelled few member, Option.bind_some, spelt]
  rfl

theorem filter_addDiagnostic (build : TrieBuild) {diagnostic : Diagnostic}
    (refuses : diagnostic.refusesSpelling = true) :
    (build.addDiagnostic diagnostic).report.filter Diagnostic.refusesSpelling =
      build.report.filter Diagnostic.refusesSpelling ++ [diagnostic] := by
  rw [addDiagnostic, List.filter_append, List.filter_cons_of_pos refuses, List.filter_nil]

/-- One entry, between those before it and those after it, gets its verdict in the trie of all. -/
theorem verdict_bind {context : Context} (few : context.vocabulary.size < UInt32.size)
    {before after : List SpelledEntry} {entry : SpelledEntry}
    (split : context.vocabulary.spelled = before ++ entry :: after) (build : TrieBuild)
    (built : build.trie = Trie.empty.insertAll (bindings before)) :
    ∃ news, (build.bind context entry.1 entry.2.2).report.filter Diagnostic.refusesSpelling =
        build.report.filter Diagnostic.refusesSpelling ++ news ∧
      Verdict context.vocabulary context.file
        (Trie.empty.insertAll (bindings context.vocabulary.spelled)) entry news := by
  obtain ⟨id, declaration, spelling⟩ := entry
  have member : (id, declaration, spelling) ∈ context.vocabulary.spelled := by simp [split]
  have notEmpty : spelling ≠ "" := Vocabulary.spelling_ne_empty member
  have line := lineOf_eq few member
  cases first : firstNonAscii spelling with
  | some character =>
    have foreign : ¬IsAsciiText spelling := by simp [← firstNonAscii_eq_none_iff, first]
    refine ⟨[context.nonAscii id character], ?_,
      .nonAscii foreign ?_ rfl rfl rfl (congrArg some line) rfl⟩
    · rw [bind_foreign context build id first]
      exact filter_addDiagnostic build rfl
    · exact (Trie.wellFormed_empty.insertAll _).lookup_of_not_ascii foreign
  | none =>
    have ascii := (firstNonAscii_eq_none_iff spelling).1 first
    -- What the trie so far binds the spelling to is what the trie of all does, if anything.
    have sofar : build.trie.find? (utf8Bytes spelling) =
        (bindings before).lookup (utf8Bytes spelling) := by
      rw [built]
      exact lookup_insertAll ascii notEmpty before
    have final : (Trie.empty.insertAll (bindings context.vocabulary.spelled)).lookup spelling =
        (build.trie.find? (utf8Bytes spelling)).or (some id) := by
      rw [split, sofar]
      exact lookup_own ascii notEmpty
    cases found : build.trie.find? (utf8Bytes spelling) with
    | none =>
      refine ⟨[], ?_, .bound (by rw [final, found]; rfl)⟩
      rw [bind_free context build id ascii notEmpty found, List.filter_append,
        filter_overlapReport]
    | some holder =>
      obtain ⟨owner, text, isBefore, bytes⟩ := listed_of_lookup (sofar.symm.trans found)
      obtain rfl := utf8Bytes_injective bytes
      have held : (holder, owner, text) ∈ context.vocabulary.spelled := by simp [split, isBefore]
      have ascending := Vocabulary.spelled_ascending few
      rw [split] at ascending
      have order := (List.pairwise_append.1 ascending).2.2 _ isBefore _ List.mem_cons_self
      refine ⟨[context.taken id holder text], ?_,
        .taken ascii held order (by rw [final, found]; rfl) rfl rfl rfl (congrArg some line) rfl
          rfl rfl rfl (congrArg some (lineOf_eq few held))⟩
      rw [bind_taken context build id ascii notEmpty found]
      exact filter_addDiagnostic build rfl

theorem verdicts_bindAll (context : Context) (few : context.vocabulary.size < UInt32.size)
    (before after : List SpelledEntry) (split : context.vocabulary.spelled = before ++ after)
    (build : TrieBuild) (built : build.trie = Trie.empty.insertAll (bindings before)) :
    ∃ verdicts, (build.bindAll context after).report.filter Diagnostic.refusesSpelling =
        build.report.filter Diagnostic.refusesSpelling ++ verdicts.flatten ∧
      List.Forall₂ (Verdict context.vocabulary context.file
        (Trie.empty.insertAll (bindings context.vocabulary.spelled))) after verdicts := by
  induction after generalizing before build with
  | nil => exact ⟨[], by simp [bindAll], .nil⟩
  | cons entry later ih =>
    obtain ⟨news, step, verdict⟩ := verdict_bind few split build built
    obtain ⟨verdicts, rest, all⟩ :=
      ih (before ++ [entry]) (by simp [split]) _ (bind_trie_concat split build built)
    refine ⟨news :: verdicts, ?_, .cons verdict all⟩
    rw [List.flatten_cons, ← List.append_assoc, ← step]
    exact rest

/-! Nothing that is reported is taken back. -/

theorem report_bind (context : Context) (build : TrieBuild) (id : TokenId) {spelling : String}
    (notEmpty : spelling ≠ "") : build.report ⊆ (build.bind context id spelling).report := by
  rcases bind_cases context build id notEmpty with
    ⟨_, _, foreign⟩ | ⟨_, _, _, taken⟩ | ⟨_, _, free⟩
  · rw [foreign]
    exact List.subset_append_left ..
  · rw [taken]
    exact List.subset_append_left ..
  · rw [free]
    exact List.subset_append_left ..

theorem report_bindAll (context : Context) (build : TrieBuild) (entries : List SpelledEntry)
    (notEmpty : ∀ entry ∈ entries, entry.2.2 ≠ "") :
    build.report ⊆ (build.bindAll context entries).report := by
  induction entries generalizing build with
  | nil => exact List.Subset.refl _
  | cons entry later ih =>
    obtain ⟨first, rest⟩ := List.forall_mem_cons.1 notEmpty
    exact List.Subset.trans (report_bind context build entry.1 first) (ih _ rest)

/-- What binding one entry of a run reports is in the report of the whole run. -/
theorem report_step {context : Context} {build : TrieBuild} {before after : List SpelledEntry}
    {entry : SpelledEntry} (notEmpty : ∀ other ∈ after, other.2.2 ≠ "") :
    ((build.bindAll context before).bind context entry.1 entry.2.2).report ⊆
      (build.bindAll context (before ++ entry :: after)).report := by
  have whole : build.bindAll context (before ++ entry :: after) =
      ((build.bindAll context before).bind context entry.1 entry.2.2).bindAll context after :=
    List.foldl_append
  rw [whole]
  exact report_bindAll context _ after notEmpty

end TrieBuild

theorem nonAscii_mem_report {vocabulary : Vocabulary} (policy : OverlapPolicy)
    (file : Option String) {entry : SpelledEntry} (member : entry ∈ vocabulary.spelled)
    {character : Char} (foreign : firstNonAscii entry.2.2 = some character) :
    TrieBuild.Context.nonAscii ⟨vocabulary, policy, file⟩ entry.1 character ∈
      (buildTrie vocabulary policy file).report := by
  obtain ⟨before, after, split⟩ := List.append_of_mem member
  rw [buildTrie_eq_bindAll, split]
  refine TrieBuild.report_step (fun other later => ?_) ?_
  · have listed : other ∈ vocabulary.spelled := by simp [split, later]
    exact Vocabulary.spelling_ne_empty listed
  · rw [TrieBuild.bind_foreign _ _ _ foreign]
    exact List.mem_append_right _ (List.mem_singleton_self _)

theorem bound_of_clean {vocabulary : Vocabulary} {policy : OverlapPolicy} {file : Option String}
    (clean : Diagnostic.hasErrors (buildTrie vocabulary policy file).report = false)
    {entry : SpelledEntry} (member : entry ∈ vocabulary.spelled) :
    IsAsciiText entry.2.2 ∧
      (buildTrie vocabulary policy file).trie.lookup entry.2.2 = some entry.1 := by
  have harmless := List.any_eq_false.1 clean
  have notEmpty := Vocabulary.spelling_ne_empty member
  have ascii : IsAsciiText entry.2.2 := by
    refine (firstNonAscii_eq_none_iff _).1 (Option.eq_none_iff_forall_ne_some.2 ?_)
    intro character foreign
    exact harmless _ (nonAscii_mem_report policy file member foreign) rfl
  refine ⟨ascii, ?_⟩
  obtain ⟨before, after, split⟩ := List.append_of_mem member
  rw [trie_buildTrie, split, lookup_own ascii notEmpty]
  -- An earlier holder would have been reported.
  cases found : (bindings before).lookup (utf8Bytes entry.2.2) with
  | none => rfl
  | some holder =>
    refine absurd rfl (harmless (TrieBuild.Context.taken ⟨vocabulary, policy, file⟩ entry.1 holder
      entry.2.2) ?_)
    have others : ∀ other ∈ before ++ entry :: after, other.2.2 ≠ "" := by
      rw [← split]
      exact fun _ => Vocabulary.spelling_ne_empty
    have sofar : (TrieBuild.bindAll ⟨vocabulary, policy, file⟩ {} before).trie.find?
        (utf8Bytes entry.2.2) = some holder := by
      rw [TrieBuild.bindAll_trie _ _ before fun other isBefore => others other (by simp [isBefore])]
      exact (lookup_insertAll ascii notEmpty before).trans found
    rw [buildTrie_eq_bindAll, split]
    refine TrieBuild.report_step (fun other later => others other (by simp [later])) ?_
    rw [TrieBuild.bind_taken _ _ _ ascii notEmpty sofar]
    exact List.mem_append_right _ (List.mem_singleton_self _)

theorem find?_of_clean {vocabulary : Vocabulary} {policy : OverlapPolicy} {file : Option String}
    (clean : Diagnostic.hasErrors (buildTrie vocabulary policy file).report = false)
    (spelling : List UInt8) (id : TokenId) :
    (buildTrie vocabulary policy file).trie.find? spelling = some id ↔
      ∃ text, vocabulary.Spells id text ∧ utf8Bytes text = spelling := by
  constructor
  · intro found
    have bindable := (wellFormed_buildTrie vocabulary policy file).bindable_of_find? found
    rw [trie_buildTrie, Trie.wellFormed_empty.find?_insertAll _ bindable, Trie.find?_empty,
      Option.none_or] at found
    obtain ⟨declaration, text, member, bytes⟩ := listed_of_lookup found
    exact ⟨text, ⟨declaration, member⟩, bytes⟩
  · rintro ⟨text, ⟨declaration, member⟩, rfl⟩
    exact (bound_of_clean clean member).2

/-- How a finished trie and its report answer for a vocabulary. -/
structure TrieBuild.Accounts (vocabulary : Vocabulary) (file : Option String)
    (build : TrieBuild) : Prop where
  lookup_eq : ∀ text, build.trie.lookup text =
    if IsAsciiText text then vocabulary.firstSpelled text else none
  /-- The errors about spellings are those of the verdicts and no others, in order. -/
  verdicts : ∃ verdicts,
    List.Forall₂ (Verdict vocabulary file build.trie) vocabulary.spelled verdicts ∧
      build.report.filter Diagnostic.refusesSpelling = verdicts.flatten
  /-- An ASCII spelling is refused for its holder only, whatever the trie so far. -/
  occupied : ∀ (trie : Trie), ∀ entry ∈ vocabulary.spelled, IsAsciiText entry.2.2 →
    ∀ refusal, (trie.insert (utf8Bytes entry.2.2) entry.1).refusal = some refusal →
      ∃ holder, refusal = .occupied holder
  bound_of_clean : Diagnostic.hasErrors build.report = false →
    ∀ entry ∈ vocabulary.spelled, build.trie.lookup entry.2.2 = some entry.1

/-- Every vocabulary whose positions fit their words is answered for, under every policy. -/
theorem buildTrie_accounts (vocabulary : Vocabulary) (policy : OverlapPolicy)
    (file : Option String) (few : vocabulary.size < UInt32.size) :
    (buildTrie vocabulary policy file).Accounts vocabulary file where
  lookup_eq := lookup_buildTrie vocabulary policy file
  verdicts := by
    obtain ⟨verdicts, report, all⟩ := TrieBuild.verdicts_bindAll ⟨vocabulary, policy, file⟩ few
      [] vocabulary.spelled rfl {} rfl
    refine ⟨verdicts, ?_, report⟩
    rw [trie_buildTrie]
    exact all
  occupied trie entry member ascii refusal refused := by
    have bindable := bindable_utf8Bytes ascii (Vocabulary.spelling_ne_empty member)
    rw [Trie.refusal_insert] at refused
    cases found : trie.find? (utf8Bytes entry.2.2) with
    | some holder =>
      rw [Trie.refusal?_occupied bindable found] at refused
      exact ⟨holder, (Option.some.inj refused).symm⟩
    | none =>
      rw [(Trie.refusal?_eq_none_iff ..).2 ⟨bindable, found⟩] at refused
      contradiction
  bound_of_clean clean _ member := (bound_of_clean clean member).2

/-- A spelling that is taken and one that is not ASCII, after one that is bound. -/
def clashing : Vocabulary where
  declarations :=
    [.make "MINUS" (some "-") 1, .make "ARROW" (some "→") 2, .make "DASH" (some "-") 3]
  distinct := by decide

theorem clashing_accounts :
    clashing.size < UInt32.size ∧ (buildTrie clashing .deny none).Accounts clashing none ∧
      (buildTrie clashing .deny none).report.map Diagnostic.code = [3001, 3002] ∧
      (buildTrie clashing .deny none).trie.lookup "-" = some ⟨0⟩ :=
  ⟨by decide, buildTrie_accounts clashing .deny none (by decide), by decide, by decide⟩

end TokenTables
