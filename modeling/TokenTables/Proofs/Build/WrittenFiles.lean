import Mathlib.Algebra.Order.BigOperators.Group.List
import TokenTables.Proofs.Build.Emission
import TokenTables.Proofs.Emit.Lines
import TokenTables.Proofs.Storage.Files

/-!
What the files hold after a build is written. Files are written in order, so that a text is lost
where a later one goes to the same place. The two files of a build are never the same text, since
the data file has a longer line for every line of the list file. So both are kept just if their
paths lead to different places. Nothing keeps the settings from naming one place for both, be it by
the same name or by an absolute and a relative one.
-/

namespace TokenTables

/-! The list file is shorter than the data file. -/

open OutlineReading (pageText pageText_append)

namespace LayoutStep

def size (step : LayoutStep) : Nat := (pageText (step.lines 0)).length

theorem length_pageText_singleton (line : List Char) :
    (pageText [line]).length = line.length + 1 := by
  rw [pageText, List.flatMap_singleton, List.length_append, List.length_singleton]

theorem length_atLevel (level : Nat) (text : String) :
    (atLevel 0 text).length ≤ (atLevel level text).length := by
  cases empty : text.isEmpty with
  | true => simp [atLevel, empty]
  | false => simp [atLevel, empty, OutlineReading.indented, Page.indentation]

theorem size_le (step : LayoutStep) (level : Nat) :
    step.size ≤ (pageText (step.lines level)).length := by
  cases step with
  | line text | opening text | closing text =>
    rw [size, lines, lines, length_pageText_singleton, length_pageText_singleton]
    exact Nat.succ_le_succ (length_atLevel _ text)
  | blank | indent | dedent => exact Nat.le_refl _

theorem size_line (text : String) : (line text).size = text.toList.length + 1 := by
  rw [size, lines, length_pageText_singleton, Layout.atLevel_zero]

end LayoutStep

namespace Layout

open LayoutStep (size)

theorem size_le_layOut (steps : List LayoutStep) :
    (steps.map size).sum ≤ (layOut steps).toList.length := by
  have atAny : ∀ level, (steps.map size).sum ≤ (pageText (linesAt level steps)).length := by
    induction steps with
    | nil => exact fun _ => Nat.le_refl _
    | cons step rest ih =>
      intro level
      rw [List.map_cons, List.sum_cons, linesAt, pageText_append, List.length_append]
      exact Nat.add_le_add (step.size_le level) (ih _)
  rw [layOut_toList]
  exact atAny 0

theorem length_layOut_lines (texts : List String) :
    (layOut (texts.map .line)).toList.length = ((texts.map LayoutStep.line).map size).sum := by
  rw [layOut_toList, linesAt_lines]
  induction texts with
  | nil => rfl
  | cons text rest ih =>
    rw [List.map_cons, List.map_cons, List.map_cons, List.sum_cons, ← ih, ← List.singleton_append,
      pageText_append, List.length_append]
    rfl

end Layout

namespace Artifact

open LayoutStep (size)

variable (settings : Settings) (vocabulary : Vocabulary)

theorem length_enumerator_le_index (dialect : Dialect) (name : String) :
    (dialect.enumerator name).toList.length ≤ (dialect.index name).toList.length := by
  obtain ⟨target, lead, path⟩ := dialect
  cases target with
  | c => exact Nat.le_refl _
  | cpp =>
    simp only [Dialect.enumerator, Dialect.index, Dialect.kind, String.toList_append,
      List.length_append]
    omega

theorem size_enumerator_le_slot (dialect : Dialect) (name : String) :
    (LayoutStep.line (dialect.enumerator name ++ ",")).size ≤
      (LayoutStep.line (Dialect.slot (dialect.index name) (Literal.string name))).size := by
  have shorter := length_enumerator_le_index dialect name
  rw [LayoutStep.size_line, LayoutStep.size_line, Dialect.slot]
  simp only [String.toList_append, List.length_append]
  have comma : ",".toList.length = 1 := rfl
  omega

theorem sublist_inScope (contents : List LayoutStep) :
    contents.Sublist (inScope settings contents) := by
  unfold inScope
  split
  · exact (List.sublist_append_right _ contents).trans (List.sublist_append_left _ _)
  · exact List.Sublist.refl _

theorem nameTable_sublist (others : List LayoutStep) :
    (header :: nameTable (Dialect.ofSettings settings) vocabulary).Sublist
      (header :: includeSteps settings ++ inScope settings
        (nameTables (Dialect.ofSettings settings) vocabulary ++ [.blank] ++ others)) := by
  refine .cons_cons _ (.trans ?_ (List.sublist_append_right _ _))
  refine .trans ?_ (sublist_inScope settings _)
  rw [nameTables, List.append_assoc, List.append_assoc]
  exact (List.sublist_append_left _ _).trans (List.sublist_append_right _ _)

theorem enumeratorList_lt_nameTable (dialect : Dialect) :
    ((enumeratorList dialect vocabulary).map size).sum <
      ((nameTable dialect vocabulary).map size).sum := by
  have slots : ((enumeratorList dialect vocabulary).map size).sum ≤
      ((vocabulary.declarations.map fun declaration => LayoutStep.line
        (Dialect.slot (dialect.index declaration.name) (Literal.string declaration.name))).map
          size).sum := by
    rw [enumeratorList, List.map_map, List.map_map]
    exact List.sum_le_sum fun declaration _ => size_enumerator_le_slot dialect declaration.name
  have closing : 0 < (LayoutStep.closing "\x7d;").size := by decide
  rw [nameTable, stringTable, List.map_map, List.cons_append, List.map_cons, List.map_append,
    List.sum_cons, List.sum_append, List.map_singleton, List.sum_singleton]
  exact Nat.lt_add_left _ (Nat.lt_of_le_of_lt slots (Nat.lt_add_of_pos_right closing))

/-- The two files of a build never have the same text. -/
theorem listText_ne_of_dataText {trie : Trie} {text : String}
    (written : dataText settings vocabulary trie = .ok text) :
    listText settings vocabulary ≠ text := by
  unfold dataText at written
  cases others : recogniser settings vocabulary trie with
  | error error =>
    rw [others] at written
    contradiction
  | ok steps =>
    rw [others] at written
    intro same
    have list : (listText settings vocabulary).toList.length =
        header.size + ((enumeratorList (Dialect.ofSettings settings) vocabulary).map size).sum := by
      have lines : header :: enumeratorList (Dialect.ofSettings settings) vocabulary =
          ("/* Auto Generated File */" :: vocabulary.declarations.map fun declaration =>
            (Dialect.ofSettings settings).enumerator declaration.name ++ ",").map .line := by
        rw [List.map_cons, List.map_map]
        rfl
      rw [listText, lines, Layout.length_layOut_lines, ← lines]
      rfl
    have data := Layout.size_le_layOut (header :: includeSteps settings ++ inScope settings
      (nameTables (Dialect.ofSettings settings) vocabulary ++ [.blank] ++ steps))
    have within := ((nameTable_sublist settings vocabulary steps).map size).sum_le_sum
      fun _ _ => Nat.zero_le _
    have fewer := enumeratorList_lt_nameTable vocabulary (Dialect.ofSettings settings)
    rw [List.map_cons, List.sum_cons] at within
    rw [same, ← Except.ok.inj written] at list
    omega

end Artifact

/-! Files written in order. -/

namespace FileMap

variable {κ : Type} [DecidableEq κ] {place : String → κ}

/-- The file's place holds its text. -/
def Holds (files : FileMap place) (artifact : Artifact) : Prop :=
  files.text? (place artifact.path) = some artifact.text

def writeAll (files : FileMap place) (artifacts : List Artifact) : FileMap place :=
  artifacts.foldl (fun files artifact => files.write artifact.path artifact.text) files

theorem text?_writeAll_of_ne {artifacts : List Artifact} {other : κ}
    (elsewhere : ∀ artifact ∈ artifacts, other ≠ place artifact.path) (files : FileMap place) :
    (files.writeAll artifacts).text? other = files.text? other := by
  induction artifacts generalizing files with
  | nil => rfl
  | cons artifact rest ih =>
    obtain ⟨here, later⟩ := List.forall_mem_cons.1 elsewhere
    exact (ih later _).trans (text?_write_of_ne here)

/-- All texts are kept just if no two different ones go to the same place. -/
theorem holds_writeAll_iff (files : FileMap place) (artifacts : List Artifact) :
    (∀ artifact ∈ artifacts, (files.writeAll artifacts).Holds artifact) ↔
      artifacts.Pairwise fun first later =>
        place first.path = place later.path → first.text = later.text := by
  -- The later files are kept or not whatever the first one was written over.
  induction artifacts generalizing files with
  | nil => exact iff_of_true (List.forall_mem_nil _) .nil
  | cons artifact rest ih =>
    let written := files.write artifact.path artifact.text
    rw [List.forall_mem_cons, List.pairwise_cons, ← ih written]
    refine and_congr_left fun kept => ⟨fun held later member same => ?_, fun alike => ?_⟩
    · have there : (written.writeAll rest).text? (place later.path) = some artifact.text :=
        same ▸ held
      exact Option.some.inj (there.symm.trans (kept later member))
    · show (written.writeAll rest).text? (place artifact.path) = some artifact.text
      by_cases again : ∃ later ∈ rest, place artifact.path = place later.path
      · obtain ⟨later, member, same⟩ := again
        rw [same, alike later member same]
        exact kept later member
      · have elsewhere : ∀ later ∈ rest, place artifact.path ≠ place later.path :=
          fun later member same => again ⟨later, member, same⟩
        rw [text?_writeAll_of_ne elsewhere]
        exact text?_write ..

end FileMap

namespace Build

variable {κ : Type} [DecidableEq κ] {place : String → κ}

theorem writeArtifact_run (files : FileMap place) (artifact : Artifact) :
    (writeArtifact artifact : StateM (FileMap place) _).run files =
      (.ok (), files.write artifact.path artifact.text) := by
  unfold writeArtifact
  split <;> rfl

theorem writeArtifacts_run (files : FileMap place) (artifacts : List Artifact) :
    (writeArtifacts artifacts : StateM (FileMap place) _).run files =
      (⟨artifacts.map Artifact.path, none⟩, files.writeAll artifacts) := by
  induction artifacts generalizing files with
  | nil => rfl
  | cons artifact rest ih =>
    rw [writeArtifacts, StateT.run_bind, writeArtifact_run]
    show (writeArtifacts rest >>= fun others => _ : StateM (FileMap place) Writing).run _ = _
    rw [StateT.run_bind, ih]
    rfl

theorem exists_texts_of_emit {settings : Settings} {source : Source} {result : EmitResult}
    (emitted : (Build.mk settings (some source)).emit = .ok result) :
    ∃ list data, list ≠ data ∧
      result.artifacts = [⟨settings.listPath, list⟩, ⟨settings.dataPath, data⟩] := by
  obtain ⟨generated, written, same⟩ := emitArtifacts_of_emit emitted
  obtain ⟨paths, -⟩ := (settles_ofSource settings source).emitted result emitted
  dsimp only [emitArtifacts] at written
  split at written
  · rw [same, ← Except.ok.inj written] at paths
    contradiction
  · cases text : Artifact.dataText settings (Analysis.ofSource settings source).vocabulary
        (Analysis.ofSource settings source).trie with
    | error error =>
      rw [text] at written
      contradiction
    | ok data =>
      rw [text] at written
      exact ⟨_, data, Artifact.listText_ne_of_dataText settings _ text,
        same.trans (congrArg EmitResult.artifacts (Except.ok.inj written).symm)⟩

/-- Writing the files of a build keeps both just if their paths lead to different places. The data
file is kept in any case, and nothing else is changed. -/
theorem artifacts_kept_iff {settings : Settings} {source : Source} {result : EmitResult}
    (emitted : (Build.mk settings (some source)).emit = .ok result) (files : FileMap place) :
    ∃ list data, result.artifacts = [⟨settings.listPath, list⟩, ⟨settings.dataPath, data⟩] ∧
      ∃ after : FileMap place,
        (writeArtifacts result.artifacts : StateM (FileMap place) Writing).run files =
          (⟨[settings.listPath, settings.dataPath], none⟩, after) ∧
        ((∀ artifact ∈ result.artifacts, after.Holds artifact) ↔
          place settings.listPath ≠ place settings.dataPath) ∧
        after.text? (place settings.dataPath) = some data ∧
        ∀ other, other ≠ place settings.listPath → other ≠ place settings.dataPath →
          after.text? other = files.text? other := by
  obtain ⟨list, data, different, artifacts⟩ := exists_texts_of_emit emitted
  refine ⟨list, data, artifacts, files.writeAll result.artifacts, ?_, ?_, ?_, ?_⟩
  · rw [writeArtifacts_run, artifacts]
    rfl
  · rw [FileMap.holds_writeAll_iff, artifacts, List.pairwise_pair]
    exact ⟨fun alike same => different (alike same), fun apart same => absurd same apart⟩
  · rw [artifacts]
    exact FileMap.text?_write ..
  · intro other notList notData
    refine FileMap.text?_writeAll_of_ne ?_ files
    rw [artifacts]
    simp [notList, notData]

theorem mixedNames_artifacts_kept : ∃ result,
    (Build.mk { outDir := some "/gen", listFile := "/gen/sub/x.incl", dataFile := "x.incl" }
      (some ⟨"tokens", "A\t\"a\"\n"⟩)).emit = .ok result ∧
    ∀ files : FileMap (id : String → String), ∀ artifact ∈ result.artifacts,
      ((writeArtifacts result.artifacts : StateM (FileMap id) Writing).run files).2.Holds
        artifact := by
  obtain ⟨result, emitted⟩ := (settles_ofSource
    { outDir := some "/gen", listFile := "/gen/sub/x.incl", dataFile := "x.incl" }
    ⟨"tokens", "A\t\"a\"\n"⟩).emits_iff.2 (by decide +kernel)
  refine ⟨result, emitted, fun files => ?_⟩
  obtain ⟨_, _, _, after, run, kept, -⟩ := artifacts_kept_iff emitted files
  rw [run]
  exact kept.2 (by decide)

/-- With one name for both files only the data file is left. -/
theorem sharedName_loses_list : ∃ result,
    (Build.mk { listFile := "tables.incl", dataFile := "tables.incl" }
      (some ⟨"tokens", "A\t\"a\"\n"⟩)).emit = .ok result ∧
    ∀ files : FileMap (id : String → String), ¬ ∀ artifact ∈ result.artifacts,
      ((writeArtifacts result.artifacts : StateM (FileMap id) Writing).run files).2.Holds
        artifact := by
  obtain ⟨result, emitted⟩ := (settles_ofSource
    { listFile := "tables.incl", dataFile := "tables.incl" }
    ⟨"tokens", "A\t\"a\"\n"⟩).emits_iff.2 (by decide +kernel)
  refine ⟨result, emitted, fun files => ?_⟩
  obtain ⟨list, data, different, artifacts⟩ := exists_texts_of_emit emitted
  rw [writeArtifacts_run, FileMap.holds_writeAll_iff, artifacts, List.pairwise_pair]
  exact fun alike => different (alike rfl)

end Build

end TokenTables
