import TokenTables.Proofs.Diagnostic.Filling
import TokenTables.Proofs.Trie.OverlapReport

/-!
What the diagnostics about two spellings say. Each one is made of the string literals of the
spellings and of the names of their tokens. The text holds these word for word where no literal and
no name has a placeholder of a later one; otherwise such placeholders are replaced in it, and a
spelling that is a placeholder itself is not shown at all.
-/

namespace TokenTables

open Vocabulary (SpelledEntry)

namespace TrieBuild

variable {context : Context}

structure Context.Loses (context : Context) (trie : Trie) (owner entry : SpelledEntry) :
    Prop where
  owns : context.vocabulary.Binds trie owner
  listed : entry ∈ context.vocabulary.spelled
  earlier : context.vocabulary.Before owner entry
  same : owner.2.2 = entry.2.2

inductive Context.Reports (context : Context) (trie : Trie) : Diagnostic → Prop
  | nonAscii (id : TokenId) (character : Char) :
      Reports context trie (context.nonAscii id character)
  | taken {owner entry : SpelledEntry} (loses : context.Loses trie owner entry) :
      Reports context trie (context.taken entry.1 owner.1 entry.2.2)
  | overlap (id : TokenId) {message : Message} (named : context.policy.message? = some message)
      (pair : TokenId × TokenId) : Reports context trie (context.overlap id message pair)

theorem Context.Reports.of_overlapReport {id : TokenId} {pairs : List (TokenId × TokenId)}
    {diagnostic : Diagnostic} (reported : diagnostic ∈ context.overlapReport id pairs)
    (trie : Trie) : context.Reports trie diagnostic := by
  unfold overlapReport at reported
  split at reported
  next message named =>
    obtain ⟨pair, _, rfl⟩ := List.mem_map.1 reported
    exact .overlap id named pair
  next => contradiction

theorem loses_of_holder {before after : List SpelledEntry} {owner entry : SpelledEntry}
    (split : context.vocabulary.spelled = before ++ entry :: after)
    (listed : entry ∈ context.vocabulary.spelled)
    (held : holder before (utf8Bytes entry.2.2) = some owner) :
    context.Loses (Trie.empty.insertAll (bindings context.vocabulary.spelled)) owner entry := by
  have holds := (holds_before_iff before (entry :: after) owner).1 (holds_of_holder held)
  rw [← split] at holds
  constructor
  case owns => exact (Vocabulary.binds_iff rfl owner).2 holds.1
  case listed => exact listed
  case earlier => exact (Vocabulary.before_iff_mem split owner).2 holds.2
  case same => exact utf8Bytes_injective (spelling_of_holder held).2

theorem reports_bind {before after : List SpelledEntry} {entry : SpelledEntry}
    (split : context.vocabulary.spelled = before ++ entry :: after) (build : TrieBuild)
    (built : build.trie = Trie.empty.insertAll (bindings before)) {diagnostic : Diagnostic}
    (reported : diagnostic ∈ (build.bind context entry.1 entry.2.2).report) :
    diagnostic ∈ build.report ∨
      context.Reports (Trie.empty.insertAll (bindings context.vocabulary.spelled)) diagnostic := by
  have listed : entry ∈ context.vocabulary.spelled := by simp [split]
  rcases bind_cases context build entry.1 (Vocabulary.spelling_ne_empty listed) with
    ⟨character, _, outcome⟩ | ⟨id, _, found, outcome⟩ | ⟨_, _, outcome⟩
  · rw [outcome] at reported
    rcases List.mem_append.1 reported with old | new
    · exact .inl old
    · rw [List.mem_singleton.1 new]
      exact .inr (.nonAscii entry.1 character)
  · rw [outcome] at reported
    rcases List.mem_append.1 reported with old | new
    · exact .inl old
    · rw [find?_so_far split build built, Option.map_eq_some_iff] at found
      obtain ⟨owner, held, rfl⟩ := found
      rw [List.mem_singleton.1 new]
      exact .inr (.taken (loses_of_holder split listed held))
  · rw [outcome] at reported
    rcases List.mem_append.1 reported with old | new
    · exact .inl old
    · exact .inr (.of_overlapReport new _)

/-- The run over the entries from some place on. -/
theorem reports_bindAll (context : Context) (before after : List SpelledEntry)
    (split : context.vocabulary.spelled = before ++ after) (build : TrieBuild)
    (built : build.trie = Trie.empty.insertAll (bindings before)) {diagnostic : Diagnostic}
    (reported : diagnostic ∈ (build.bindAll context after).report) :
    diagnostic ∈ build.report ∨
      context.Reports (Trie.empty.insertAll (bindings context.vocabulary.spelled)) diagnostic := by
  induction after generalizing before build with
  | nil => exact .inl reported
  | cons entry rest ih =>
    have run := ih (before ++ [entry]) (by simp [split]) _ (bind_trie_concat split build built)
      reported
    rcases run with here | later
    · exact reports_bind split build built here
    · exact .inr later

/-- The diagnostics about two spellings say what they are given: the string literals of the spellings
and the names of the tokens. -/
structure Wording (context : Context) (build : TrieBuild) : Prop where
  taken : ∀ diagnostic ∈ build.report, diagnostic.code = 3002 → ∃ owner entry,
    context.Loses build.trie owner entry ∧
      Message.spellingTaken.Says
        [Literal.string entry.2.2, context.nameOf entry.1, context.nameOf owner.1] diagnostic.text
  overlap : ∀ diagnostic ∈ build.report, diagnostic.code = 3003 → ∃ message shorter longer,
    context.policy.message? = some message ∧
      context.vocabulary.Overlaps build.trie shorter longer ∧
      message.Says
        [Literal.string (context.spellingOf shorter.1), context.nameOf shorter.1,
          Literal.string (context.spellingOf longer.1), context.nameOf longer.1] diagnostic.text
  /-- While positions fit their words, ids lead back to the entries. -/
  entries : context.vocabulary.size < UInt32.size → ∀ entry ∈ context.vocabulary.spelled,
    context.nameOf entry.1 = entry.2.1.name ∧ context.spellingOf entry.1 = entry.2.2

end TrieBuild

theorem framed_of_message? {policy : OverlapPolicy} {message : Message}
    (named : policy.message? = some message) : Framed message.template := by
  cases policy with
  | allow => contradiction
  | warn => exact Option.some.inj named ▸ framed_overlapWarning
  | deny => exact Option.some.inj named ▸ framed_overlapDenied

theorem reports_buildTrie {vocabulary : Vocabulary} {policy : OverlapPolicy} {file : Option String}
    {diagnostic : Diagnostic} (reported : diagnostic ∈ (buildTrie vocabulary policy file).report) :
    TrieBuild.Context.Reports ⟨vocabulary, policy, file⟩ (buildTrie vocabulary policy file).trie
      diagnostic := by
  have run := TrieBuild.reports_bindAll ⟨vocabulary, policy, file⟩ [] vocabulary.spelled rfl {} rfl
    reported
  rw [trie_buildTrie]
  exact run.resolve_left List.not_mem_nil

/-- Under every policy, the diagnostics about two spellings say what they are given. -/
theorem buildTrie_wording (vocabulary : Vocabulary) (policy : OverlapPolicy)
    (file : Option String) :
    (buildTrie vocabulary policy file).Wording ⟨vocabulary, policy, file⟩ where
  taken diagnostic reported number := by
    cases reports_buildTrie reported with
    | nonAscii id character => exact absurd (show 3001 = 3002 from number) (by decide)
    | taken loses => exact ⟨_, _, loses, Message.says_fill framed_spellingTaken _⟩
    | overlap id named pair =>
      have other := OverlapPolicy.code_of_message? named
      exact absurd (other.symm.trans number) (by decide)
  overlap diagnostic reported number := by
    have named : ∃ message, policy.message? = some message := by
      cases reports_buildTrie reported with
      | nonAscii id character => exact absurd (show 3001 = 3003 from number) (by decide)
      | taken loses => exact absurd (show 3002 = 3003 from number) (by decide)
      | overlap id named pair => exact ⟨_, named⟩
    obtain ⟨message, named⟩ := named
    have said : (⟨vocabulary, policy, file⟩ : TrieBuild.Context).policy.message? = some message :=
      named
    have told := TrieBuild.tellsOnce_bindAll said
    obtain ⟨shorter, longer, noticed, rfl⟩ := (told.mem_report_iff diagnostic).1 ⟨reported, number⟩
    exact ⟨message, shorter, longer, named, noticed.overlaps,
      Message.says_fill (framed_of_message? named) _⟩
  entries few _ member := ⟨TrieBuild.nameOf_eq few member, TrieBuild.spellingOf_eq few member⟩

def braced : Vocabulary where
  declarations := [.make "HOLE" (some "\x7b1\x7d") 1, .make "SLOT" (some "\x7b1\x7d") 2]
  distinct := by decide

/-- In place of the spelling the text has the name of the token. -/
theorem braced_not_verbatim :
    ¬∀ diagnostic ∈ (buildTrie braced .warn none).report, diagnostic.code = 3002 →
      ∃ owner ∈ braced.spelled, ∃ entry ∈ braced.spelled,
        diagnostic.text = fillAtOnce Message.spellingTaken.template
          [Literal.string entry.2.2, entry.2.1.name, owner.2.1.name] := by
  intro verbatim
  let text := "Spelling \"SLOT\" of 'SLOT' is already bound to 'HOLE'."
  have told : (buildTrie braced .warn none).report.map
      (fun diagnostic => (diagnostic.code, diagnostic.text)) = [(3002, text)] := by
    decide +kernel
  have other : ∀ owner ∈ braced.spelled, ∀ entry ∈ braced.spelled,
      text ≠ fillAtOnce Message.spellingTaken.template
        [Literal.string entry.2.2, entry.2.1.name, owner.2.1.name] := by
    decide +kernel
  have member : (3002, text) ∈ (buildTrie braced .warn none).report.map
      (fun diagnostic => (diagnostic.code, diagnostic.text)) := by
    rw [told]
    exact List.mem_singleton_self _
  obtain ⟨diagnostic, reported, same⟩ := List.mem_map.1 member
  obtain ⟨number, words⟩ := Prod.mk.inj same
  obtain ⟨owner, isOwner, entry, isEntry, shown⟩ := verbatim diagnostic reported number
  exact other owner isOwner entry isEntry (words.symm.trans shown)

end TokenTables
