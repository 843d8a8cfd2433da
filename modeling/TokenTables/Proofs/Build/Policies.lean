import Mathlib.Data.List.Forall2
import TokenTables.Proofs.Build.Emission
import TokenTables.Proofs.Diagnostic.Sorting

/-!
Policies decide how problems are reported and never what is built. Under all policies a source has
the same vocabulary and the same trie, and if the files are generated, they are the same files. The
reports differ only in what the policies are about: in the words and the weight of the lines without
a name, and in those of the overlaps, which are left out where overlaps are allowed.
-/

namespace TokenTables

def Settings.withPolicies (settings : Settings) (malformed : MalformedPolicy)
    (overlap : OverlapPolicy) : Settings :=
  { settings with
    format := { settings.format with malformed := malformed }
    overlap := overlap }

namespace Diagnostic

/-- The diagnostics are the same, unless their code is this one: then the category and the text may
differ. -/
structure Reworded (number : Nat) (first second : Diagnostic) : Prop where
  file : first.file = second.file
  line : first.line = second.line
  code : first.code = second.code
  related : first.related = second.related
  same : first.code ≠ number → first = second

theorem Reworded.refl (number : Nat) (diagnostic : Diagnostic) :
    Reworded number diagnostic diagnostic :=
  ⟨rfl, rfl, rfl, rfl, fun _ => rfl⟩

theorem reworded_self (number : Nat) (report : List Diagnostic) :
    List.Forall₂ (Reworded number) report report :=
  List.forall₂_same.2 fun diagnostic _ => .refl number diagnostic

theorem reworded_sort {number : Nat} {report others : List Diagnostic}
    (reworded : List.Forall₂ (Reworded number) report others) :
    List.Forall₂ (Reworded number) (sort report) (sort others) :=
  forall₂_sort (fun both => ⟨both.file, both.line⟩) reworded

theorem filter_eq_of_reworded {number : Nat} (keep : Nat → Bool) (without : keep number = false)
    {report others : List Diagnostic}
    (reworded : List.Forall₂ (Reworded number) report others) :
    report.filter (fun diagnostic => keep diagnostic.code) =
      others.filter (fun diagnostic => keep diagnostic.code) := by
  induction reworded with
  | nil => rfl
  | @cons first second rest others both _ ih =>
    cases kept : keep first.code with
    | true =>
      have another : first.code ≠ number := by
        intro same
        rw [same, without] at kept
        contradiction
      rw [← both.same another]
      simp only [List.filter_cons, kept, if_true, ih]
    | false =>
      have left : keep second.code = false := both.code ▸ kept
      simp only [List.filter_cons, kept, left, Bool.false_eq_true, if_false, ih]

end Diagnostic

/-! Lines without a name. -/

def SpecFormat.withPolicy (format : SpecFormat) (malformed : MalformedPolicy) : SpecFormat :=
  { format with malformed := malformed }

namespace Reading

structure Reworded (first second : Reading) : Prop where
  vocabulary : first.vocabulary = second.vocabulary
  report : List.Forall₂ (Diagnostic.Reworded 1001) first.report second.report
  /-- The reader does not speak of overlaps. -/
  noOverlap : ∀ diagnostic ∈ first.report, diagnostic.code ≠ 3003

variable {first second : Reading} (file : Option String)

theorem Reworded.addDiagnostic (both : first.Reworded second) {diagnostic other : Diagnostic}
    (number : Nat) (code : diagnostic.code = number) (noOverlap : number ≠ 3003)
    (reworded : Diagnostic.Reworded 1001 diagnostic other) :
    (first.addDiagnostic diagnostic).Reworded (second.addDiagnostic other) where
  vocabulary := both.vocabulary
  report := List.rel_append both.report (.cons reworded .nil)
  noOverlap := List.forall_mem_append.2
    ⟨both.noOverlap, List.forall_mem_singleton.2 (code ▸ noOverlap)⟩

theorem Reworded.noteExtraFields (both : first.Reworded second) (line fieldCount : Nat)
    (name : String) :
    (first.noteExtraFields file line fieldCount name).Reworded
      (second.noteExtraFields file line fieldCount name) := by
  unfold Reading.noteExtraFields
  split
  next => exact both.addDiagnostic 1003 rfl (by decide) (.refl ..)
  next => exact both

theorem Reworded.declare (both : first.Reworded second) (declaration : Declaration) :
    (first.declare file declaration).Reworded (second.declare file declaration) := by
  unfold Reading.declare
  rw [both.vocabulary]
  cases second.vocabulary.declare declaration with
  | ok vocabulary => exact ⟨rfl, both.report, both.noOverlap⟩
  | error held => exact both.addDiagnostic 2001 rfl (by decide) (.refl ..)

theorem code_malformedMessage (policy : MalformedPolicy) :
    (malformedMessage policy).code = 1001 := by
  cases policy <;> rfl

theorem reworded_malformed (line : Nat) (policy other : MalformedPolicy)
    (arguments : List String) :
    Diagnostic.Reworded 1001 (.onLine file line (malformedMessage policy) arguments)
      (.onLine file line (malformedMessage other) arguments) where
  file := rfl
  line := rfl
  code := (code_malformedMessage policy).trans (code_malformedMessage other).symm
  related := rfl
  same different := absurd (code_malformedMessage policy) different

theorem Reworded.readLine (both : first.Reworded second) (format : SpecFormat)
    (policy other : MalformedPolicy) (line : Nat) (text : String) :
    (first.readLine (format.withPolicy policy) file line text).Reworded
      (second.readLine (format.withPolicy other) file line text) := by
  have content : ∀ policy, LineContent.ofLine (format.withPolicy policy) text =
      LineContent.ofLine format text := fun _ => rfl
  unfold Reading.readLine
  rw [content, content]
  cases LineContent.ofLine format text with
  | nothing => exact both
  | unterminated name => exact both.addDiagnostic 1004 rfl (by decide) (.refl ..)
  | nameless =>
    exact both.addDiagnostic 1001 (code_malformedMessage policy) (by decide)
      (reworded_malformed file line policy other _)
  | token name spelling fieldCount =>
    exact (both.noteExtraFields file line fieldCount name).declare file _

end Reading

theorem readSpec_reworded (format : SpecFormat) (file : Option String) (source : String)
    (policy other : MalformedPolicy) :
    (readSpec (format.withPolicy policy) file source).Reworded
      (readSpec (format.withPolicy other) file source) := by
  have start : Reading.start.Reworded Reading.start := ⟨rfl, .nil, List.forall_mem_nil _⟩
  apply List.foldl_rel start
  rintro ⟨text, position⟩ _ first second both
  exact both.readLine file format policy other (position + 1) text

/-! Overlaps. -/

structure ByPolicy (told : OverlapPolicy → List Diagnostic) : Prop where
  denied : List.Forall₂ (Diagnostic.Reworded 3003) (told .deny) (told .warn)
  allowed : told .allow = (told .warn).filter fun diagnostic => diagnostic.code ≠ 3003

namespace ByPolicy

theorem append {told later : OverlapPolicy → List Diagnostic} (first : ByPolicy told)
    (second : ByPolicy later) : ByPolicy fun policy => told policy ++ later policy where
  denied := List.rel_append first.denied second.denied
  allowed := by rw [first.allowed, second.allowed, List.filter_append]

theorem always {report : List Diagnostic} (others : ∀ diagnostic ∈ report, diagnostic.code ≠ 3003) :
    ByPolicy fun _ => report where
  denied := Diagnostic.reworded_self 3003 report
  allowed := (List.filter_eq_self.2 fun diagnostic member => decide_eq_true
    (others diagnostic member)).symm

theorem sort {told : OverlapPolicy → List Diagnostic} (byPolicy : ByPolicy told) :
    ByPolicy fun policy => Diagnostic.sort (told policy) where
  denied := Diagnostic.reworded_sort byPolicy.denied
  allowed := by rw [Diagnostic.filter_sort, byPolicy.allowed]

end ByPolicy

namespace TrieBuild

variable (vocabulary : Vocabulary) (file : Option String)

theorem byPolicy_overlapReport (id : TokenId) (pairs : List (TokenId × TokenId)) :
    ByPolicy fun policy => Context.overlapReport ⟨vocabulary, policy, file⟩ id pairs where
  denied := by
    apply List.rel_map _ (List.forall₂_same.2 fun _ _ => rfl)
    rintro pair _ rfl
    exact ⟨rfl, rfl, rfl, rfl, fun different => absurd rfl different⟩
  allowed := by
    symm
    apply List.filter_eq_nil_iff.2
    intro diagnostic member
    obtain ⟨pair, _, rfl⟩ := List.mem_map.1 member
    have code : (Context.overlap ⟨vocabulary, .warn, file⟩ id .overlapWarning pair).code = 3003 :=
      rfl
    simp [code]

/-- One entry, bound after the same entries under each policy. -/
theorem byPolicy_bind {trie : Trie} {builds : OverlapPolicy → TrieBuild}
    (sameTrie : ∀ policy, (builds policy).trie = trie)
    (byPolicy : ByPolicy fun policy => (builds policy).report) (id : TokenId) {spelling : String}
    (notEmpty : spelling ≠ "") :
    ByPolicy fun policy =>
      ((builds policy).bind ⟨vocabulary, policy, file⟩ id spelling).report := by
  have refused : ∀ (diagnostic : Diagnostic) (number : Nat), diagnostic.code = number →
      number ≠ 3003 → ByPolicy fun policy => ((builds policy).addDiagnostic diagnostic).report := by
    intro diagnostic number code other
    exact byPolicy.append (.always (List.forall_mem_singleton.2 (code ▸ other)))
  cases first : firstNonAscii spelling with
  | some character =>
    have foreign := fun policy =>
      bind_foreign ⟨vocabulary, policy, file⟩ (builds policy) id first
    simp only [foreign]
    exact refused (Context.nonAscii ⟨vocabulary, .warn, file⟩ id character) 3001 rfl (by decide)
  | none =>
    have ascii := (firstNonAscii_eq_none_iff spelling).1 first
    have found : ∀ policy, (builds policy).trie.find? (utf8Bytes spelling) =
        trie.find? (utf8Bytes spelling) := fun policy => by rw [sameTrie]
    cases held : trie.find? (utf8Bytes spelling) with
    | some holder =>
      have taken := fun policy => bind_taken ⟨vocabulary, policy, file⟩ (builds policy) id ascii
        notEmpty ((found policy).trans held)
      simp only [taken]
      exact refused (Context.taken ⟨vocabulary, .warn, file⟩ id holder spelling) 3002 rfl
        (by decide)
    | none =>
      have free := fun policy => bind_free ⟨vocabulary, policy, file⟩ (builds policy) id ascii
        notEmpty ((found policy).trans held)
      simp only [free, sameTrie]
      exact byPolicy.append (byPolicy_overlapReport vocabulary file id _)

theorem byPolicy_bindAll {entries : List Vocabulary.SpelledEntry}
    (notEmpty : ∀ entry ∈ entries, entry.2.2 ≠ "") {trie : Trie}
    {builds : OverlapPolicy → TrieBuild} (sameTrie : ∀ policy, (builds policy).trie = trie)
    (byPolicy : ByPolicy fun policy => (builds policy).report) :
    ByPolicy fun policy =>
      ((builds policy).bindAll ⟨vocabulary, policy, file⟩ entries).report := by
  induction entries generalizing trie builds with
  | nil => exact byPolicy
  | cons entry rest ih =>
    obtain ⟨first, later⟩ := List.forall_mem_cons.1 notEmpty
    have nextTrie : ∀ policy,
        ((builds policy).bind ⟨vocabulary, policy, file⟩ entry.1 entry.2.2).trie =
          (trie.insert (utf8Bytes entry.2.2) entry.1).trie := by
      intro policy
      rw [bind_trie _ _ _ first, sameTrie]
    exact ih later nextTrie (byPolicy_bind vocabulary file sameTrie byPolicy entry.1 first)

end TrieBuild

theorem buildTrie_byPolicy (vocabulary : Vocabulary) (file : Option String) :
    ByPolicy fun policy => (buildTrie vocabulary policy file).report :=
  TrieBuild.byPolicy_bindAll vocabulary file (fun _ => Vocabulary.spelling_ne_empty)
    (fun _ => rfl) (.always (List.forall_mem_nil _))

/-! The whole analysis. -/

namespace Analysis

variable (settings : Settings) (source : Source)

theorem vocabulary_withPolicies (malformed : MalformedPolicy) (overlap : OverlapPolicy) :
    (ofSource (settings.withPolicies malformed overlap) source).vocabulary =
      (ofSource settings source).vocabulary :=
  (readSpec_reworded settings.format (some source.fileName) source.text malformed
    settings.format.malformed).vocabulary

theorem trie_withPolicies (malformed : MalformedPolicy) (overlap : OverlapPolicy) :
    (ofSource (settings.withPolicies malformed overlap) source).trie =
      (ofSource settings source).trie := by
  have built : ∀ settings, (ofSource settings source).trie =
      Trie.empty.insertAll (bindings (ofSource settings source).vocabulary.spelled) :=
    fun _ => trie_buildTrie ..
  rw [built, built, vocabulary_withPolicies]

/-- The report before it is sorted. Only its first part depends on the one policy, and only its
second part on the other. -/
theorem report_withPolicies (malformed : MalformedPolicy) (overlap : OverlapPolicy) :
    (ofSource (settings.withPolicies malformed overlap) source).report =
      Diagnostic.sort
        ((readSpec (settings.format.withPolicy malformed) (some source.fileName)
            source.text).report ++
          (buildTrie (ofSource settings source).vocabulary overlap (some source.fileName)).report ++
          emissionReport settings (ofSource settings source).vocabulary) := by
  rw [← vocabulary_withPolicies settings source malformed overlap]
  rfl

theorem malformed_reworded (malformed malformed' : MalformedPolicy) (overlap : OverlapPolicy) :
    List.Forall₂ (Diagnostic.Reworded 1001)
      (ofSource (settings.withPolicies malformed overlap) source).report
      (ofSource (settings.withPolicies malformed' overlap) source).report := by
  rw [report_withPolicies, report_withPolicies]
  apply Diagnostic.reworded_sort
  apply List.rel_append _ (Diagnostic.reworded_self 1001 _)
  apply List.rel_append _ (Diagnostic.reworded_self 1001 _)
  exact (readSpec_reworded settings.format _ source.text malformed malformed').report

theorem noOverlap_emissionReport (vocabulary : Vocabulary) :
    ∀ diagnostic ∈ emissionReport settings vocabulary, diagnostic.code ≠ 3003 := by
  unfold emissionReport
  split
  next =>
    have code : (Diagnostic.general .undeclaredNoMatch [settings.noMatchName]).code = 4001 := rfl
    exact List.forall_mem_singleton.2 (code ▸ by decide)
  next => exact List.forall_mem_nil _

theorem report_byPolicy (malformed : MalformedPolicy) :
    ByPolicy fun overlap => (ofSource (settings.withPolicies malformed overlap) source).report := by
  have read := (readSpec_reworded settings.format (some source.fileName) source.text malformed
    malformed).noOverlap
  simp only [report_withPolicies]
  apply ByPolicy.sort
  apply ByPolicy.append _ (.always (noOverlap_emissionReport settings _))
  exact (ByPolicy.always read).append (buildTrie_byPolicy ..)

end Analysis

namespace Build

/-- What the analyses of a source come to under all policies, and what is generated from them. -/
structure PoliciesOnlyReport (settings : Settings) (source : Source) (vocabulary : Vocabulary)
    (trie : Trie) (report : MalformedPolicy → OverlapPolicy → List Diagnostic) : Prop where
  analyzed : ∀ malformed overlap, ∃ analysis : Analysis,
    (Build.mk (settings.withPolicies malformed overlap) (some source)).analyze = .ok analysis ∧
      analysis.vocabulary = vocabulary ∧ analysis.trie = trie ∧
      analysis.report = report malformed overlap
  /-- Nothing else that is reported depends on the policies, nor does its order. -/
  others : ∀ malformed overlap malformed' overlap',
    (report malformed overlap).filter (fun diagnostic => diagnostic.code ∉ [1001, 3003]) =
      (report malformed' overlap').filter (fun diagnostic => diagnostic.code ∉ [1001, 3003])
  malformed : ∀ malformed malformed' overlap,
    List.Forall₂ (Diagnostic.Reworded 1001) (report malformed overlap) (report malformed' overlap)
  denied : ∀ malformed,
    List.Forall₂ (Diagnostic.Reworded 3003) (report malformed .deny) (report malformed .warn)
  allowed : ∀ malformed, report malformed .allow =
    (report malformed .warn).filter fun diagnostic => diagnostic.code ≠ 3003
  files : ∀ malformed overlap malformed' overlap' result result',
    (Build.mk (settings.withPolicies malformed overlap) (some source)).emit = .ok result →
    (Build.mk (settings.withPolicies malformed' overlap') (some source)).emit = .ok result' →
    result.artifacts = result'.artifacts

section

variable (settings : Settings) (source : Source)

theorem artifacts_withPolicies {malformed : MalformedPolicy} {overlap : OverlapPolicy}
    {result : EmitResult}
    (emitted : (Build.mk (settings.withPolicies malformed overlap) (some source)).emit =
      .ok result) :
    ∃ generated, emitArtifacts settings (Analysis.ofSource settings source).vocabulary
        (Analysis.ofSource settings source).trie = .ok generated ∧
      result.artifacts = generated.artifacts := by
  obtain ⟨generated, written, same⟩ := emitArtifacts_of_emit emitted
  rw [Analysis.vocabulary_withPolicies, Analysis.trie_withPolicies] at written
  exact ⟨generated, written, same⟩

/-- Beside lines without a name and overlaps the reports are the same: from one policy to another
only such diagnostics are reworded or left out. -/
theorem others_withPolicies (malformed malformed' : MalformedPolicy)
    (overlap overlap' : OverlapPolicy) :
    (Analysis.ofSource (settings.withPolicies malformed overlap) source).report.filter
        (fun diagnostic => diagnostic.code ∉ [1001, 3003]) =
      (Analysis.ofSource (settings.withPolicies malformed' overlap') source).report.filter
        (fun diagnostic => diagnostic.code ∉ [1001, 3003]) := by
  let others (code : Nat) : Bool := code ∉ [1001, 3003]
  let report malformed overlap :=
    (Analysis.ofSource (settings.withPolicies malformed overlap) source).report
  have warned : ∀ overlap, (report malformed overlap).filter (fun told => others told.code) =
      (report malformed .warn).filter (fun told => others told.code) := by
    intro overlap
    have byPolicy := Analysis.report_byPolicy settings source malformed
    cases overlap with
    | allow =>
      have allowed : report malformed .allow = _ := byPolicy.allowed
      rw [allowed, List.filter_filter]
      apply List.filter_congr
      intro told _
      by_cases overlapping : told.code = 3003 <;> simp [others, overlapping]
    | warn => rfl
    | deny => exact Diagnostic.filter_eq_of_reworded others (by decide) byPolicy.denied
  calc (report malformed overlap).filter (fun told => others told.code)
      = (report malformed overlap').filter (fun told => others told.code) :=
        (warned overlap).trans (warned overlap').symm
    _ = (report malformed' overlap').filter (fun told => others told.code) :=
        Diagnostic.filter_eq_of_reworded others (by decide)
          (Analysis.malformed_reworded settings source malformed malformed' overlap')

/-- Policies only change how problems are reported, never what is built. -/
theorem policies_only_report : ∃ vocabulary trie report,
    PoliciesOnlyReport settings source vocabulary trie report := by
  refine ⟨(Analysis.ofSource settings source).vocabulary, (Analysis.ofSource settings source).trie,
    fun malformed overlap =>
      (Analysis.ofSource (settings.withPolicies malformed overlap) source).report, ?_⟩
  exact {
    analyzed := fun malformed overlap =>
      ⟨_, rfl, Analysis.vocabulary_withPolicies .., Analysis.trie_withPolicies .., rfl⟩
    others := fun malformed overlap malformed' overlap' =>
      others_withPolicies settings source malformed malformed' overlap overlap'
    malformed := Analysis.malformed_reworded settings source
    denied := fun malformed => (Analysis.report_byPolicy settings source malformed).denied
    allowed := fun malformed => (Analysis.report_byPolicy settings source malformed).allowed
    files := by
      intro _ _ _ _ result result' emitted emitted'
      obtain ⟨generated, written, same⟩ := artifacts_withPolicies settings source emitted
      obtain ⟨generated', written', same'⟩ := artifacts_withPolicies settings source emitted'
      rw [same, same', Except.ok.inj (written.symm.trans written')] }

end

end Build

end TokenTables
