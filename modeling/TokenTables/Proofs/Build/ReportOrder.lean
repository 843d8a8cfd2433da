import TokenTables.Build.Basic
import TokenTables.Proofs.Diagnostic.Sorting
import TokenTables.Proofs.Trie.Wording

/-!
The order of a report. What the emission needs has no place and comes first. Then come the lines of
the source in their order, and on one line what the reader has found comes before what the trie has
shown, each as it was found. Sorting does so for every report, and all that is counted in a report
stays as it is.
-/

namespace TokenTables

namespace Diagnostic

/-- A diagnostic about a line of a file. The one about the no-match token speaks of no line. -/
structure Located (file : Option String) (diagnostic : Diagnostic) : Prop where
  file_eq : diagnostic.file = file
  line_isSome : diagnostic.line.isSome
  code_ne : diagnostic.code ≠ 4001

variable {file : Option String}

theorem located_onLine (file : Option String) (line : Nat) {message : Message}
    (arguments : List String) (code : message.code ≠ 4001) :
    (onLine file line message arguments).Located file :=
  ⟨rfl, rfl, code⟩

theorem Located.withRelated {diagnostic : Diagnostic} (located : diagnostic.Located file)
    (related : Diagnostic) : (diagnostic.withRelated related).Located file :=
  ⟨located.file_eq, located.line_isSome, located.code_ne⟩

end Diagnostic

/-! What the reader reports. -/

namespace Reading

variable {file : Option String} {reading : Reading}

def Located (file : Option String) (reading : Reading) : Prop :=
  ∀ diagnostic ∈ reading.report, diagnostic.Located file

theorem Located.addDiagnostic (located : reading.Located file) {diagnostic : Diagnostic}
    (added : diagnostic.Located file) : (reading.addDiagnostic diagnostic).Located file :=
  List.forall_mem_append.2 ⟨located, List.forall_mem_singleton.2 added⟩

theorem Located.noteExtraFields (located : reading.Located file) (line fieldCount : Nat)
    (name : String) : (reading.noteExtraFields file line fieldCount name).Located file := by
  unfold Reading.noteExtraFields
  split
  next => exact located.addDiagnostic (Diagnostic.located_onLine file line _ (by decide))
  next => exact located

theorem Located.declare (located : reading.Located file) (declaration : Declaration) :
    (reading.declare file declaration).Located file := by
  unfold Reading.declare
  split
  next => exact located
  next =>
    apply located.addDiagnostic
    exact (Diagnostic.located_onLine file declaration.line _ (by decide)).withRelated _

theorem Located.readLine (located : reading.Located file) (format : SpecFormat) (line : Nat)
    (text : String) : (reading.readLine format file line text).Located file := by
  unfold Reading.readLine
  cases LineContent.ofLine format text with
  | nothing => exact located
  | unterminated name =>
    exact located.addDiagnostic (Diagnostic.located_onLine file line _ (by decide))
  | nameless =>
    apply located.addDiagnostic
    cases format.malformed with
    | abort => exact Diagnostic.located_onLine file line _ (by decide)
    | skip => exact Diagnostic.located_onLine file line _ (by decide)
  | token name spelling fieldCount => exact (located.noteExtraFields line fieldCount name).declare _

end Reading

theorem located_readSpec (format : SpecFormat) (file : Option String) (source : String) :
    (readSpec format file source).Located file := by
  have start : Reading.start.Located file := List.forall_mem_nil _
  exact List.foldlRecOn _ _ start fun reading located line _ => located.readLine format _ _

/-! What the trie and the emission report. -/

theorem TrieBuild.Context.Reports.located {context : TrieBuild.Context} {trie : Trie}
    {diagnostic : Diagnostic} (reports : context.Reports trie diagnostic) :
    diagnostic.Located context.file := by
  cases reports with
  | nonAscii id character => exact Diagnostic.located_onLine _ _ _ (by decide)
  | taken loses => exact (Diagnostic.located_onLine _ _ _ (by decide)).withRelated _
  | overlap id named pair =>
    apply Diagnostic.located_onLine
    rw [OverlapPolicy.code_of_message? named]
    decide

theorem located_buildTrie (vocabulary : Vocabulary) (policy : OverlapPolicy)
    (file : Option String) :
    ∀ diagnostic ∈ (buildTrie vocabulary policy file).report, diagnostic.Located file :=
  fun _ reported => (reports_buildTrie reported).located

theorem general_emissionReport (settings : Settings) (vocabulary : Vocabulary) :
    ∀ diagnostic ∈ emissionReport settings vocabulary,
      diagnostic.code = 4001 ∧ diagnostic.file = none ∧ diagnostic.line = none := by
  unfold emissionReport
  split
  next => exact List.forall_mem_singleton.2 ⟨rfl, rfl, rfl⟩
  next => exact List.forall_mem_nil _

/-! The whole report. -/

/-- A report that is put together from what the reader, the trie and the emission have found. -/
structure OrderedReport (file : String) (read built checked located report : List Diagnostic) :
    Prop where
  perm : report.Perm (read ++ built ++ checked)
  generalFirst : report = checked ++ located
  general : ∀ diagnostic ∈ checked, diagnostic.code = 4001 ∧ diagnostic.file = none
  inFile : ∀ diagnostic ∈ located, diagnostic.Located (some file)
  lines : located.Pairwise fun first second => first.line.getD 0 ≤ second.line.getD 0
  /-- On one line the reader comes before the trie, and each keeps its order. -/
  sameLine : ∀ line, located.filter (fun diagnostic => diagnostic.line = some line) =
    read.filter (fun diagnostic => diagnostic.line = some line) ++
      built.filter (fun diagnostic => diagnostic.line = some line)

theorem orderedReport_sort {file : String} {read built checked : List Diagnostic}
    (located : ∀ diagnostic ∈ read ++ built, diagnostic.Located (some file))
    (general : ∀ diagnostic ∈ checked,
      diagnostic.code = 4001 ∧ diagnostic.file = none ∧ diagnostic.line = none) :
    OrderedReport file read built checked (Diagnostic.sort (read ++ built))
      (Diagnostic.sort (read ++ built ++ checked)) where
  perm := List.mergeSort_perm ..
  generalFirst := Diagnostic.sort_append_general
    (fun diagnostic member => by rw [(located diagnostic member).file_eq]; rfl)
    (fun diagnostic member => (general diagnostic member).2)
  general diagnostic member := ⟨(general diagnostic member).1, (general diagnostic member).2.1⟩
  inFile diagnostic member := located diagnostic (List.mem_mergeSort.1 member)
  lines := by
    refine (Diagnostic.sort_inOrder (read ++ built)).imp_of_mem ?_
    intro first second firstHere secondHere order
    have firstFile := (located first (List.mem_mergeSort.1 firstHere)).file_eq
    have secondFile := (located second (List.mem_mergeSort.1 secondHere)).file_eq
    rw [Diagnostic.InOrder, firstFile, secondFile] at order
    exact (order.resolve_left (String.lt_irrefl file)).2
  sameLine line := by
    rw [Diagnostic.filter_sort, ← List.filter_append]
    apply Diagnostic.sort_of_onePlace
    intro diagnostic member
    obtain ⟨listed, onLine⟩ := List.mem_filter.1 member
    exact ⟨(located diagnostic listed).file_eq, by rw [of_decide_eq_true onLine, Option.getD_some]⟩

/-- Sorting a report is stable and changes nothing that is counted in it, and the report of a build
with a source has its parts in this order. -/
theorem report_ordered :
    (∀ report, Diagnostic.StablySorted report (Diagnostic.sort report)) ∧
      ∀ (settings : Settings) (source : Source),
        ∃ (analysis : Analysis) (located : List Diagnostic),
        (Build.mk settings (some source)).analyze = .ok analysis ∧
          OrderedReport source.fileName
            (readSpec settings.format (some source.fileName) source.text).report
            (buildTrie (readSpec settings.format (some source.fileName) source.text).vocabulary
              settings.overlap (some source.fileName)).report
            (emissionReport settings
              (readSpec settings.format (some source.fileName) source.text).vocabulary)
            located analysis.report := by
  refine ⟨Diagnostic.stablySorted_sort, fun settings source => ?_⟩
  refine ⟨.ofSource settings source, _, rfl, orderedReport_sort ?_ ?_⟩
  · exact List.forall_mem_append.2 ⟨located_readSpec _ _ _, located_buildTrie _ _ _⟩
  · exact general_emissionReport settings _

end TokenTables
