import TokenTables.Proofs.Trie.Overlap

/-!
The overlaps that are reported. Binding one entry adds to the report the pairs that the entry
notices, and no other entry notices them again. So the report has one diagnostic for each overlap
that is noticed, at the line of its later entry, and it has one at all just where spellings overlap.
-/

namespace TokenTables

open Vocabulary (SpelledEntry)

def Diagnostic.tellsOverlap (diagnostic : Diagnostic) : Bool := diagnostic.code = 3003

namespace TrieBuild

def Context.overlapOf (context : Context) (message : Message)
    (pair : SpelledEntry × SpelledEntry) : Diagnostic :=
  context.overlap (context.vocabulary.later pair.1 pair.2).1 message (pair.1.1, pair.2.1)

def Context.overlapShown (context : Context) (message : Message)
    (pair : SpelledEntry × SpelledEntry) : Diagnostic :=
  Diagnostic.onLine context.file (context.vocabulary.later pair.1 pair.2).2.1.line message
    [Literal.string pair.1.2.2, pair.1.2.1.name, Literal.string pair.2.2.2, pair.2.2.1.name]

/-- Of all overlaps the report tells those that are related, each by one diagnostic. -/
def TellsOnce (build : TrieBuild) (tell : SpelledEntry × SpelledEntry → Diagnostic)
    (related : SpelledEntry → SpelledEntry → Prop) : Prop :=
  ∃ pairs : List (SpelledEntry × SpelledEntry), pairs.Nodup ∧
    (∀ shorter longer, (shorter, longer) ∈ pairs ↔ related shorter longer) ∧
    build.report.filter Diagnostic.tellsOverlap = pairs.map tell

theorem TellsOnce.mem_report_iff {build : TrieBuild}
    {tell : SpelledEntry × SpelledEntry → Diagnostic}
    {related : SpelledEntry → SpelledEntry → Prop} (once : build.TellsOnce tell related)
    (diagnostic : Diagnostic) :
    diagnostic ∈ build.report ∧ diagnostic.code = 3003 ↔
      ∃ shorter longer, related shorter longer ∧ tell (shorter, longer) = diagnostic := by
  obtain ⟨pairs, _, member, report⟩ := once
  have told : diagnostic ∈ build.report ∧ diagnostic.code = 3003 ↔ diagnostic ∈ pairs.map tell := by
    rw [← report, List.mem_filter, Diagnostic.tellsOverlap, decide_eq_true_iff]
  rw [told, List.mem_map, Prod.exists]
  simp only [member]

def TellsNext (build next : TrieBuild) (tell : SpelledEntry × SpelledEntry → Diagnostic)
    (related : SpelledEntry → SpelledEntry → Prop) : Prop :=
  ∃ pairs : List (SpelledEntry × SpelledEntry), pairs.Nodup ∧
    (∀ shorter longer, (shorter, longer) ∈ pairs ↔ related shorter longer) ∧
    next.report.filter Diagnostic.tellsOverlap =
      build.report.filter Diagnostic.tellsOverlap ++ pairs.map tell

namespace TellsNext

variable {first second third : TrieBuild} {tell : SpelledEntry × SpelledEntry → Diagnostic}
  {earlier later related : SpelledEntry → SpelledEntry → Prop}

theorem nothing (none : ∀ shorter longer, ¬related shorter longer)
    (same : second.report.filter Diagnostic.tellsOverlap =
      first.report.filter Diagnostic.tellsOverlap) : TellsNext first second tell related :=
  ⟨[], List.nodup_nil, fun shorter longer => by simp [none shorter longer], by simp [same]⟩

theorem trans (step : TellsNext first second tell earlier) (run : TellsNext second third tell later)
    (apart : ∀ shorter longer, earlier shorter longer → ¬later shorter longer)
    (either : ∀ shorter longer, related shorter longer ↔
      earlier shorter longer ∨ later shorter longer) : TellsNext first third tell related := by
  obtain ⟨news, newsNodup, newsMember, newsReport⟩ := step
  obtain ⟨others, othersNodup, othersMember, othersReport⟩ := run
  refine ⟨news ++ others, ?_, fun shorter longer => ?_, ?_⟩
  · apply List.Nodup.append newsNodup othersNodup
    intro pair left right
    exact apart _ _ ((newsMember ..).1 left) ((othersMember ..).1 right)
  · rw [List.mem_append, newsMember, othersMember, either]
  · rw [othersReport, newsReport, List.map_append, List.append_assoc]

end TellsNext

def Context.NoticedAt (context : Context) (entries : List SpelledEntry)
    (shorter longer : SpelledEntry) : Prop :=
  context.vocabulary.Noticed (Trie.empty.insertAll (bindings context.vocabulary.spelled))
      shorter longer ∧
    context.vocabulary.later shorter longer ∈ entries

variable {context : Context} {message : Message}
  (named : context.policy.message? = some message)

section

variable {before after : List SpelledEntry} {entry : SpelledEntry}
  (split : context.vocabulary.spelled = before ++ entry :: after) (build : TrieBuild)
  (built : build.trie = Trie.empty.insertAll (bindings before))

include split built

theorem find?_so_far : build.trie.find? (utf8Bytes entry.2.2) =
    (holder before (utf8Bytes entry.2.2)).map Prod.fst := by
  rw [built, find?_bindings (Vocabulary.spellings_ne_empty split)]

theorem tellsNext_refused (refused : ¬Holds context.vocabulary.spelled entry) :
    TellsNext build (build.bind context entry.1 entry.2.2) (context.overlapOf message)
      (context.NoticedAt [entry]) := by
  apply TellsNext.nothing
  · rintro shorter longer ⟨noticed, last⟩
    rw [← List.mem_singleton.1 last] at refused
    exact refused (noticed.holds_later rfl)
  · have listed : entry ∈ context.vocabulary.spelled := by simp [split]
    rcases bind_cases context build entry.1 (Vocabulary.spelling_ne_empty listed) with
      ⟨character, _, outcome⟩ | ⟨id, _, _, outcome⟩ | ⟨ascii, free, _⟩
    · rw [outcome, addDiagnostic, List.filter_append]
      exact List.append_nil _
    · rw [outcome, addDiagnostic, List.filter_append]
      exact List.append_nil _
    · rw [find?_so_far split build built, Option.map_eq_none_iff] at free
      exact absurd ((holds_iff_free split).2 ⟨ascii, free⟩) refused

include named in
/-- A bound entry is reported with each pair that it forms with those before it. -/
theorem tellsNext_bound (holds : Holds context.vocabulary.spelled entry) :
    TellsNext build (build.bind context entry.1 entry.2.2) (context.overlapOf message)
      (context.NoticedAt [entry]) := by
  obtain ⟨ascii, held⟩ := (holds_iff_free split).1 holds
  have free := find?_so_far split build built
  rw [held] at free
  obtain ⟨pairs, overlaps, nodup, meets⟩ := exists_overlaps_bindings
    (Vocabulary.spellings_ne_empty split) (Vocabulary.notMem_before split)
  have noticed : ∀ shorter longer, (shorter, longer) ∈ pairs ↔
      context.NoticedAt [entry] shorter longer := by
    intro shorter longer
    rw [meets, Context.NoticedAt, List.mem_singleton]
    exact (Vocabulary.noticed_at_iff rfl split holds shorter longer).symm
  have told : context.overlapReport entry.1 (build.trie.overlaps entry.1 (utf8Bytes entry.2.2)) =
      pairs.map (context.overlapOf message) := by
    simp only [built, Context.overlapReport, named, overlaps, List.map_map]
    apply List.map_congr_left
    intro pair member
    rw [Context.overlapOf, List.mem_singleton.1 ((noticed ..).1 member).2]
    rfl
  have kept : (pairs.map (context.overlapOf message)).filter Diagnostic.tellsOverlap =
      pairs.map (context.overlapOf message) := by
    apply List.filter_eq_self.2
    intro diagnostic member
    obtain ⟨pair, _, rfl⟩ := List.mem_map.1 member
    exact decide_eq_true (OverlapPolicy.code_of_message? named)
  refine ⟨pairs, nodup, noticed, ?_⟩
  rw [bind_free context build entry.1 ascii (Vocabulary.spelling_ne_empty holds.mem) free, told,
    List.filter_append, kept]

end

include named in
/-- The run over the entries from some place on. An overlap has one later entry, so it is noticed at
one of them only. -/
theorem tellsNext_bindAll (before after : List SpelledEntry)
    (split : context.vocabulary.spelled = before ++ after) (build : TrieBuild)
    (built : build.trie = Trie.empty.insertAll (bindings before)) :
    TellsNext build (build.bindAll context after) (context.overlapOf message)
      (context.NoticedAt after) := by
  induction after generalizing before build with
  | nil => exact TellsNext.nothing (fun shorter longer noticed => by simpa using noticed.2) rfl
  | cons entry rest ih =>
    have step : TellsNext build (build.bind context entry.1 entry.2.2) (context.overlapOf message)
        (context.NoticedAt [entry]) := by
      by_cases holds : Holds context.vocabulary.spelled entry
      · exact tellsNext_bound named split build built holds
      · exact tellsNext_refused split build built holds
    have run := ih (before ++ [entry]) (by simp [split]) _ (bind_trie_concat split build built)
    have once : entry ∉ rest := by
      have nodup := context.vocabulary.nodup_spelled
      rw [split] at nodup
      exact (List.nodup_cons.1 (List.nodup_append.1 nodup).2.1).1
    apply step.trans run
    · rintro shorter longer ⟨_, here⟩ ⟨_, there⟩
      exact once (List.mem_singleton.1 here ▸ there)
    · intro shorter longer
      simp only [Context.NoticedAt, List.mem_cons, List.not_mem_nil, or_false, and_or_left]

include named in
theorem tellsOnce_bindAll :
    TellsOnce (bindAll context {} context.vocabulary.spelled) (context.overlapOf message)
      (context.vocabulary.Noticed (bindAll context {} context.vocabulary.spelled).trie) := by
  have complete := trie_buildTrie context.vocabulary context.policy context.file
  rw [buildTrie_eq_bindAll] at complete
  obtain ⟨pairs, nodup, member, report⟩ :=
    tellsNext_bindAll named [] context.vocabulary.spelled rfl {} rfl
  refine ⟨pairs, nodup, fun shorter longer => ?_, report⟩
  rw [member, complete]
  constructor
  · intro noticed
    exact noticed.1
  · intro noticed
    exact ⟨noticed, (noticed.holds_later rfl).mem⟩

theorem Context.overlapOf_eq_shown (context : Context) (message : Message)
    (few : context.vocabulary.size < UInt32.size) {shorter longer : SpelledEntry}
    (short : shorter ∈ context.vocabulary.spelled) (long : longer ∈ context.vocabulary.spelled) :
    context.overlapOf message (shorter, longer) =
      context.overlapShown message (shorter, longer) := by
  have last : context.vocabulary.later shorter longer ∈ context.vocabulary.spelled := by
    unfold Vocabulary.later
    split
    next => exact long
    next => exact short
  rw [overlapOf, overlap, diagnostic, lineOf_eq few last, nameOf_eq few short, nameOf_eq few long,
    spellingOf_eq few short, spellingOf_eq few long]
  rfl

end TrieBuild

/-! What the report of a finished trie says of overlaps. -/

/-- Every overlap that is noticed is reported once, and no other one. -/
theorem buildTrie_tells_noticed_once (vocabulary : Vocabulary) {policy : OverlapPolicy}
    {message : Message} (named : policy.message? = some message) (file : Option String) :
    (buildTrie vocabulary policy file).TellsOnce
        (TrieBuild.Context.overlapOf ⟨vocabulary, policy, file⟩ message)
        (vocabulary.Noticed (buildTrie vocabulary policy file).trie) ∧
      (vocabulary.size < UInt32.size → ∀ shorter longer,
        vocabulary.Noticed (buildTrie vocabulary policy file).trie shorter longer →
          TrieBuild.Context.overlapOf ⟨vocabulary, policy, file⟩ message (shorter, longer) =
            TrieBuild.Context.overlapShown ⟨vocabulary, policy, file⟩ message
              (shorter, longer)) := by
  constructor
  · have said : (⟨vocabulary, policy, file⟩ : TrieBuild.Context).policy.message? = some message :=
      named
    exact TrieBuild.tellsOnce_bindAll said
  · intro few shorter longer noticed
    exact TrieBuild.Context.overlapOf_eq_shown ⟨vocabulary, policy, file⟩ message few
      noticed.overlaps.short.mem noticed.overlaps.long.mem

def branching : Vocabulary where
  declarations := [.make "A" (some "ab") 1, .make "B" (some "ac") 2, .make "C" (some "a") 3]
  distinct := by decide

theorem branching_tells_noticed_once :
    OverlapPolicy.warn.message? = some .overlapWarning ∧
      (buildTrie branching .warn none).TellsOnce
        (TrieBuild.Context.overlapOf ⟨branching, .warn, none⟩ .overlapWarning)
        (branching.Noticed (buildTrie branching .warn none).trie) ∧
      (∀ shorter longer, branching.Noticed (buildTrie branching .warn none).trie shorter longer →
        TrieBuild.Context.overlapOf ⟨branching, .warn, none⟩ .overlapWarning (shorter, longer) =
          TrieBuild.Context.overlapShown ⟨branching, .warn, none⟩ .overlapWarning
            (shorter, longer)) ∧
      (buildTrie branching .warn none).report.map (fun diagnostic =>
        (diagnostic.code, diagnostic.line)) = [(3003, some 3)] :=
  have told := buildTrie_tells_noticed_once branching rfl none
  ⟨rfl, told.1, told.2 (by decide), by decide +kernel⟩

/-- Two spellings continue the last one, and only the first of them is reported with it. -/
theorem branching_not_tells_overlaps_once :
    ¬(buildTrie branching .warn none).TellsOnce
      (TrieBuild.Context.overlapOf ⟨branching, .warn, none⟩ .overlapWarning)
      (branching.Overlaps (buildTrie branching .warn none).trie) := by
  rintro ⟨pairs, _, member, report⟩
  let first : SpelledEntry := (⟨0⟩, .make "A" (some "ab") 1, "ab")
  let second : SpelledEntry := (⟨1⟩, .make "B" (some "ac") 2, "ac")
  let short : SpelledEntry := (⟨2⟩, .make "C" (some "a") 3, "a")
  have one : pairs.length = 1 := by
    rw [← List.length_map, ← report]
    decide +kernel
  have left : (short, first) ∈ pairs :=
    (member ..).2 ⟨⟨by decide, by decide⟩, ⟨by decide, by decide⟩, [98], by decide, by decide⟩
  have right : (short, second) ∈ pairs :=
    (member ..).2 ⟨⟨by decide, by decide⟩, ⟨by decide, by decide⟩, [99], by decide, by decide⟩
  obtain ⟨pair, rfl⟩ := List.length_eq_one_iff.1 one
  have same := (List.mem_singleton.1 left).trans (List.mem_singleton.1 right).symm
  exact absurd same (by decide)

/-- How a finished trie and its report answer for overlaps. -/
structure TrieBuild.AnswersOverlaps (context : TrieBuild.Context) (message : Message)
    (build : TrieBuild) : Prop where
  reported_iff_overlaps : Diagnostic.mentions build.report 3003 = true ↔
    ∃ shorter longer, context.vocabulary.Overlaps build.trie shorter longer
  overlaps_iff_shared : (∃ shorter longer, context.vocabulary.Overlaps build.trie shorter longer) ↔
    ∃ index code, build.trie.Shared index code
  /-- What is reported is an overlap, at the line of its later entry. -/
  genuine : ∀ diagnostic ∈ build.report, diagnostic.code = 3003 →
    ∃ shorter longer, context.vocabulary.Overlaps build.trie shorter longer ∧
      diagnostic = context.overlapOf message (shorter, longer) ∧
      (context.vocabulary.size < UInt32.size →
        diagnostic = context.overlapShown message (shorter, longer))
  unshared_of_clean : context.policy = .deny → Diagnostic.hasErrors build.report = false →
    ∀ index code, ¬build.trie.Shared index code

theorem buildTrie_answers_overlaps (vocabulary : Vocabulary) {policy : OverlapPolicy}
    {message : Message} (named : policy.message? = some message) (file : Option String) :
    (buildTrie vocabulary policy file).AnswersOverlaps ⟨vocabulary, policy, file⟩ message := by
  have said : (⟨vocabulary, policy, file⟩ : TrieBuild.Context).policy.message? = some message :=
    named
  have complete := trie_buildTrie vocabulary policy file
  have reported := (TrieBuild.tellsOnce_bindAll said).mem_report_iff
  have mentioned : Diagnostic.mentions (buildTrie vocabulary policy file).report 3003 = true ↔
      ∃ shorter longer,
        vocabulary.Overlaps (buildTrie vocabulary policy file).trie shorter longer := by
    rw [Diagnostic.mentions, List.any_eq_true]
    constructor
    · rintro ⟨diagnostic, listed, number⟩
      obtain ⟨shorter, longer, noticed, _⟩ :=
        (reported diagnostic).1 ⟨listed, of_decide_eq_true number⟩
      exact ⟨shorter, longer, noticed.overlaps⟩
    · rintro ⟨_, _, overlaps⟩
      obtain ⟨shorter, longer, noticed⟩ := Vocabulary.exists_noticed complete overlaps
      obtain ⟨listed, number⟩ := (reported _).2 ⟨shorter, longer, noticed, rfl⟩
      exact ⟨_, listed, decide_eq_true number⟩
  have shared := (Vocabulary.exists_shared_iff_overlaps complete).symm
  refine ⟨mentioned, shared, fun diagnostic listed number => ?_, ?_⟩
  · obtain ⟨shorter, longer, noticed, rfl⟩ := (reported diagnostic).1 ⟨listed, number⟩
    refine ⟨shorter, longer, noticed.overlaps, rfl, fun few => ?_⟩
    exact TrieBuild.Context.overlapOf_eq_shown _ message few noticed.overlaps.short.mem
      noticed.overlaps.long.mem
  · intro deny clean index code both
    obtain ⟨diagnostic, listed, number⟩ :=
      List.any_eq_true.1 (mentioned.2 (shared.2 ⟨index, code, both⟩))
    obtain ⟨_, _, _, rfl⟩ := (reported diagnostic).1 ⟨listed, of_decide_eq_true number⟩
    have denied : message.category = .error := by
      change policy = .deny at deny
      rw [deny] at named
      exact Option.some.inj named ▸ rfl
    exact List.any_eq_false.1 clean _ listed (decide_eq_true denied)

theorem branching_answers_overlaps :
    OverlapPolicy.deny.message? = some .overlapDenied ∧
      (buildTrie branching .deny none).AnswersOverlaps ⟨branching, .deny, none⟩ .overlapDenied ∧
      Diagnostic.mentions (buildTrie branching .deny none).report 3003 = true ∧
      (buildTrie branching .deny none).trie.Shared Trie.root 97 :=
  ⟨rfl, buildTrie_answers_overlaps branching rfl none, by decide +kernel, by decide, by decide⟩

end TokenTables
