import TokenTables.Build.Basic
import TokenTables.Proofs.Emit.Nesting
import TokenTables.Proofs.Spec.Accounting
import TokenTables.Proofs.Spec.FieldWriting
import TokenTables.Proofs.Trie.Construction

/-!
Numbers and the words that hold them. Positions of declarations, numbers of lines, indices of nodes
and levels of indentation are natural numbers, and 32 bits are enough for all of them as long as the
text of the specification is not of 2^30 characters or more. A line declares one token at most. Of
the characters of a spelling each but the last adds one node at most, and a spelling is no longer
than its line. The tables of a node stand two levels above those of its parent.
-/

namespace TokenTables

/-! The lines of a text. -/

theorem linesFrom_bounds (current text : List Char) :
    (linesFrom current text).length ≤ text.length + 1 ∧
      ((linesFrom current text).map List.length).sum ≤ current.length + text.length := by
  fun_induction linesFrom current text with
  | case1 => simp
  | case2 current some => simp
  | case3 current rest ih =>
    obtain ⟨count, total⟩ := ih
    simp only [List.length_cons, List.map_cons, List.sum_cons, List.length_nil] at total ⊢
    split
    · simp only [List.length_cons, List.length_reverse]
      omega
    · simp only [List.length_reverse]
      omega
  | case4 current c rest _ ih =>
    obtain ⟨count, total⟩ := ih
    simp only [List.length_cons] at total ⊢
    omega

theorem textLines_bounds (text : String) :
    (textLines text).length ≤ text.length + 1 ∧
      ((textLines text).map String.length).sum ≤ text.length := by
  have bounds := linesFrom_bounds [] text.toList
  have lengths : (textLines text).map String.length =
      (linesFrom [] text.toList).map List.length := by
    rw [textLines, List.map_map]
    exact List.map_congr_left fun line _ => String.length_ofList
  rw [lengths, textLines, List.length_map, ← String.length_toList]
  simpa using bounds

/-! The fields of a line. -/

theorem trimBoth_length_le (drop : Char → Bool) (text : List Char) :
    (trimBoth drop text).length ≤ text.length := by
  have first := (List.dropWhile_sublist (l := text) drop).length_le
  have last := (List.dropWhile_sublist (l := (text.dropWhile drop).reverse) drop).length_le
  rw [List.length_reverse] at last
  rw [trimBoth, List.length_reverse]
  exact Nat.le_trans last first

namespace Field

theorem unescape_length_le (escaped : Char) : (unescape escaped).length ≤ 2 := by
  unfold unescape
  split <;> simp

theorem readQuoted_length_le {input text after : List Char}
    (closed : readQuoted input = some (text, after)) :
    text.length + after.length ≤ input.length := by
  fun_induction readQuoted input generalizing text after with
  | case1 => contradiction
  | case2 rest =>
    cases closed
    simp
  | case3 => contradiction
  | case4 escaped rest ih =>
    obtain ⟨⟨inner, remaining⟩, found, same⟩ := Option.map_eq_some_iff.1 closed
    cases same
    have shorter := ih found
    have short := unescape_length_le escaped
    simp only [List.length_append, List.length_cons]
    omega
  | case5 c rest _ _ _ ih =>
    obtain ⟨⟨inner, remaining⟩, found, same⟩ := Option.map_eq_some_iff.1 closed
    cases same
    have shorter := ih found
    simp only [List.length_cons]
    omega

theorem fieldsRead_length_le (separator : Char) (line : List Char) :
    ∀ field ∈ fieldsRead (split separator line), field.text.length ≤ line.length := by
  fun_induction split separator line with
  | case1 => simp [fieldsRead]
  | case2 => simp [fieldsRead]
  | case3 line inside start text after closed ih =>
    have dropped := dropWhile_length_le (fun c => c == separator || isBlank c) line
    have quoted := readQuoted_length_le closed
    have skipped := dropWhile_length_le (· != separator) after
    simp only [start, List.length_cons] at dropped
    rw [fieldsRead_before, List.forall_mem_cons]
    refine ⟨?_, fun field later => ?_⟩
    · simp only [String.length_ofList]
      omega
    · have short := ih field later
      omega
  | case4 line first rest unquoted start ih =>
    have dropped := dropWhile_length_le (fun c => c == separator || isBlank c) line
    have skipped := dropWhile_length_le (· != separator) rest
    have taken := (List.takeWhile_sublist (l := rest) (· != separator)).length_le
    have trimmed := trimBoth_length_le isBlank (first :: rest.takeWhile (· != separator))
    simp only [start, List.length_cons] at dropped trimmed
    rw [fieldsRead_before, List.forall_mem_cons]
    refine ⟨?_, fun field later => ?_⟩
    · simp only [String.length_ofList]
      omega
    · have short := ih field later
      omega

theorem spelling_length_le (field : Field) : field.spelling.length ≤ field.text.length := by
  unfold spelling
  split
  next => exact Nat.le_refl _
  next =>
    rw [String.length_ofList, ← String.length_toList]
    exact trimBoth_length_le ..

end Field

/-! What a line declares. -/

/-- The number of steps from the root to the node that completes the spelling. -/
def Declaration.pathLength (declaration : Declaration) : Nat :=
  (declaration.spelling.map fun spelling => spelling.length - 1).getD 0

theorem settleSpelling_length_le (name : String) {spelling : Option String} {bound : Nat}
    (short : ∀ text ∈ spelling, text.length ≤ bound) :
    ∀ text ∈ settleSpelling name spelling, text.length ≤ bound + 1 := by
  intro text settled
  have one : 1 ≤ bound + 1 := Nat.le_add_left ..
  unfold settleSpelling at settled
  split at settled
  next =>
    cases settled
    exact one
  next =>
    obtain ⟨given, held, same⟩ := Option.map_eq_some_iff.1 settled
    split at same
    next => exact same ▸ one
    next => exact same ▸ Nat.le_succ_of_le (short given held)

theorem Declaration.pathLength_make_le {name : String} {spelling : Option String} {line bound : Nat}
    (short : ∀ text ∈ spelling, text.length ≤ bound) :
    (make name spelling line).pathLength ≤ bound := by
  have settled := settleSpelling_length_le name short
  change ((settleSpelling name spelling).map fun text => text.length - 1).getD 0 ≤ bound
  cases found : settleSpelling name spelling with
  | none => exact Nat.zero_le bound
  | some text => exact Nat.sub_le_of_le_add (settled text found)

theorem Accounted.pathLength_le {format : SpecFormat} {file : Option String}
    {vocabulary : Vocabulary} {account : LineAccount}
    (accounted : Accounted format file vocabulary account) :
    (account.declared.map Declaration.pathLength).sum ≤ account.text.length := by
  cases accounted with
  | @recorded line text first others warnings named extra =>
    rw [List.map_singleton, List.sum_singleton]
    apply Declaration.pathLength_make_le
    intro spelling held
    obtain ⟨second, here, rfl⟩ := Option.map_eq_some_iff.1 held
    have read : second ∈ Field.fieldsRead (Field.split format.separator.character text.toList) := by
      rw [named.split]
      exact List.mem_cons_of_mem _ (List.mem_of_head? here)
    have short := Field.fieldsRead_length_le _ _ second read
    rw [String.length_toList] at short
    exact Nat.le_trans second.spelling_length_le short
  | _ => exact Nat.zero_le _

theorem sum_flatMap_le {α β : Type} {f : α → List β} {weight : β → Nat} {bound : α → Nat}
    {elements : List α}
    (each : ∀ element ∈ elements, ((f element).map weight).sum ≤ bound element) :
    ((elements.flatMap f).map weight).sum ≤ (elements.map bound).sum := by
  induction elements with
  | nil => exact Nat.le_refl 0
  | cons element rest ih =>
    obtain ⟨first, later⟩ := List.forall_mem_cons.1 each
    rw [List.flatMap_cons, List.map_append, List.sum_append, List.map_cons, List.sum_cons]
    exact Nat.add_le_add first (ih later)

/-- What is read of lines declares no more than the lines have room for. -/
structure Vocabulary.Within (vocabulary : Vocabulary) (lines : List String) : Prop where
  size_le : vocabulary.size ≤ lines.length
  line_le : ∀ declaration ∈ vocabulary.declarations, declaration.line ≤ lines.length
  pathLengths_le : (vocabulary.declarations.map Declaration.pathLength).sum ≤
    (lines.map String.length).sum

theorem within_readSpec (format : SpecFormat) (file : Option String) {source : String}
    (few : (textLines source).length ≤ UInt32.size) :
    (readSpec format file source).vocabulary.Within (textLines source) := by
  have start : 0 + (textLines source).length ≤ UInt32.size := by rwa [Nat.zero_add]
  obtain ⟨accounts, result, run, lines, accounted, declared, _⟩ :=
    Reading.exists_accounts format file (textLines source) 0 .start start (Nat.le_refl 0)
      (List.forall_mem_nil _)
  have read : readSpec format file source = result := run
  have whole : result.vocabulary.declarations = accounts.flatMap LineAccount.declared := declared
  have count : accounts.length = (textLines source).length := by
    simpa using congrArg List.length lines
  have texts : accounts.map LineAccount.text = textLines source := by
    have second := congrArg (List.map Prod.snd) lines
    simpa [Function.comp_def] using second
  rw [read]
  constructor
  case size_le =>
    have one : (result.vocabulary.declarations.map fun _ => 1).sum ≤
        (accounts.map fun _ => 1).sum := by
      rw [whole]
      refine sum_flatMap_le fun account member => ?_
      rw [List.map_const', List.sum_replicate, smul_eq_mul, Nat.mul_one]
      exact (accounted account member).declared_length
    rw [Vocabulary.size, ← count]
    simpa using one
  case line_le =>
    intro declaration member
    rw [whole] at member
    obtain ⟨account, listed, new⟩ := List.mem_flatMap.1 member
    have numbered : (accounts.map fun account => (account.line, account.text)) =
        numberedLines source := lines
    have place : (account.line, account.text) ∈ numberedLines source :=
      numbered ▸ List.mem_map_of_mem listed
    obtain ⟨⟨text, position⟩, line, same⟩ := List.mem_map.1 place
    have inside := (List.getElem?_eq_some_iff.1 (List.mem_zipIdx_iff_getElem?.1 line)).1
    have number : position + 1 = account.line := congrArg Prod.fst same
    rw [(accounted account listed).declared_line declaration new, ← number]
    exact inside
  case pathLengths_le =>
    rw [whole, ← texts, List.map_map]
    exact sum_flatMap_le fun account member => (accounted account member).pathLength_le

/-! The nodes of a trie. -/

theorem length_utf8Bytes {text : String} (ascii : IsAsciiText text) :
    (utf8Bytes text).length = text.length := by
  have one : ∀ c ∈ text.toList, (String.utf8EncodeChar c).length = 1 := by
    intro c member
    have small : c.toNat ≤ 127 := Nat.le_of_lt_succ (ascii c member)
    rw [String.length_utf8EncodeChar, Char.utf8Size]
    exact if_pos small
  rw [utf8Bytes, List.length_flatMap, List.map_congr_left one, List.map_const', List.sum_replicate,
    smul_eq_mul, Nat.mul_one, String.length_toList]

namespace Trie

theorem nodeCount_childOrNew_le (trie : Trie) (parent : Nat) (code : UInt8) :
    (trie.childOrNew parent code).2.nodeCount ≤ trie.nodeCount + 1 := by
  unfold childOrNew
  cases trie.child? parent code with
  | some child => exact Nat.le_succ _
  | none => exact Nat.le_of_eq (nodeCount_addChild ..)

theorem nodeCount_grow_le (trie : Trie) (start : Nat) (codes : List UInt8) :
    (trie.grow start codes).2.nodeCount ≤ trie.nodeCount + codes.length := by
  induction codes generalizing trie start with
  | nil => exact Nat.le_refl _
  | cons code rest ih =>
    have first := trie.nodeCount_childOrNew_le start code
    have later := ih (trie.childOrNew start code).2 (trie.childOrNew start code).1
    rw [grow_cons, List.length_cons]
    omega

theorem nodeCount_insert_le (trie : Trie) (spelling : List UInt8) (id : TokenId) :
    (trie.insert spelling id).trie.nodeCount ≤ trie.nodeCount + (spelling.length - 1) := by
  have grown := trie.nodeCount_grow_le root spelling.dropLast
  rw [List.length_dropLast] at grown
  unfold insert
  split
  next => exact Nat.le_add_right ..
  next =>
    split
    next => exact Nat.le_add_right ..
    next =>
      simp only
      split
      next => exact grown
      next => rwa [nodeCount_setToken]

/-- Whatever is inserted and whatever is refused, there is room for all nodes in words of 32 bits
as long as there is for the characters. -/
theorem nodeCount_insertAll_le (trie : Trie) (history : List (List UInt8 × TokenId)) :
    (trie.insertAll history).nodeCount ≤
      trie.nodeCount + (history.map fun binding => binding.1.length - 1).sum := by
  induction history generalizing trie with
  | nil => exact Nat.le_refl _
  | cons binding rest ih =>
    have run : trie.insertAll (binding :: rest) =
        (trie.insert binding.1 binding.2).trie.insertAll rest := rfl
    have first := trie.nodeCount_insert_le binding.1 binding.2
    have later := ih (trie.insert binding.1 binding.2).trie
    rw [run, List.map_cons, List.sum_cons]
    omega

theorem nodeCount_bindings_le (trie : Trie) (entries : List Vocabulary.SpelledEntry) :
    (trie.insertAll (bindings entries)).nodeCount ≤
      trie.nodeCount + (entries.map fun entry => entry.2.2.length - 1).sum := by
  induction entries generalizing trie with
  | nil => exact Nat.le_refl _
  | cons entry rest ih =>
    have run : trie.insertAll (bindings (entry :: rest)) =
        (trie.insert (utf8Bytes entry.2.2) entry.1).trie.insertAll (bindings rest) := rfl
    have first : (trie.insert (utf8Bytes entry.2.2) entry.1).trie.nodeCount ≤
        trie.nodeCount + (entry.2.2.length - 1) := by
      by_cases ascii : IsAsciiText entry.2.2
      · rw [← length_utf8Bytes ascii]
        exact trie.nodeCount_insert_le _ _
      · obtain ⟨byte, refused⟩ := refusal?_of_not_ascii trie ascii
        rw [insert_refused refused]
        exact Nat.le_add_right ..
    have later := ih (trie.insert (utf8Bytes entry.2.2) entry.1).trie
    rw [run, List.map_cons, List.sum_cons]
    omega

end Trie

theorem Vocabulary.sum_spelled (vocabulary : Vocabulary) :
    (vocabulary.spelled.map fun entry => entry.2.2.length - 1).sum =
      (vocabulary.declarations.map Declaration.pathLength).sum := by
  have declared : vocabulary.entries.map Prod.snd = vocabulary.declarations := by
    rw [entries, List.map_map]
    exact List.zipIdx_map_fst ..
  rw [← declared, spelled]
  induction vocabulary.entries with
  | nil => rfl
  | cons entry rest ih =>
    cases spelt : entry.2.spelling with
    | none => simp [spelt, Declaration.pathLength, ih]
    | some text => simp [spelt, Declaration.pathLength, ih]

theorem nodeCount_buildTrie_le (vocabulary : Vocabulary) (policy : OverlapPolicy)
    (file : Option String) :
    (buildTrie vocabulary policy file).trie.nodeCount ≤
      1 + (vocabulary.declarations.map Declaration.pathLength).sum := by
  rw [trie_buildTrie, ← vocabulary.sum_spelled]
  exact Trie.empty.nodeCount_bindings_le _

/-! The levels of a page. -/

namespace Layout

/-- Writing the steps comes back to the level that it starts from and never goes more than `most`
levels above it. -/
structure Rises (most : Nat) (steps : List LayoutStep) : Prop where
  levelAfter_eq : ∀ level, levelAfter level steps = level
  levelAfter_le : ∀ level before after, steps = before ++ after →
    levelAfter level before ≤ level + most

namespace Rises

variable {most : Nat} {steps : List LayoutStep}

theorem mono (rises : Rises most steps) {more : Nat} (le : most ≤ more) : Rises more steps where
  levelAfter_eq := rises.levelAfter_eq
  levelAfter_le level before after split := by
    have bound := rises.levelAfter_le level before after split
    omega

theorem nil : Rises most [] where
  levelAfter_eq _ := rfl
  levelAfter_le level before after split := by
    rw [(List.append_eq_nil_iff.1 split.symm).1]
    exact Nat.le_add_right ..

theorem append {second : List LayoutStep} (first : Rises most steps) (last : Rises most second) :
    Rises most (steps ++ second) where
  levelAfter_eq level := by rw [levelAfter_append, first.levelAfter_eq, last.levelAfter_eq]
  levelAfter_le level before after split := by
    obtain ⟨rest, rfl, inSecond⟩ | ⟨rest, inFirst, _⟩ := List.append_eq_append_iff.1 split
    · rw [levelAfter_append, first.levelAfter_eq]
      exact last.levelAfter_le level rest after inSecond
    · exact first.levelAfter_le level before rest inFirst

theorem level {step : LayoutStep} (same : ∀ level, step.levelAfter level = level) :
    Rises most [step] where
  levelAfter_eq := same
  levelAfter_le level before after split := by
    obtain ⟨rfl, _⟩ | ⟨rfl, _⟩ := List.append_eq_singleton_iff.1 split.symm
    · exact Nat.le_add_right ..
    · exact (same level).trans_le (Nat.le_add_right ..)

theorem line (text : String) : Rises most [.line text] := level fun _ => rfl

theorem blank : Rises most [.blank] := level fun _ => rfl

theorem flatten {blocks : List (List LayoutStep)} (each : ∀ steps ∈ blocks, Rises most steps) :
    Rises most blocks.flatten :=
  holds_flatten .nil .append each

theorem of_singletons (each : ∀ step ∈ steps, Rises most [step]) : Rises most steps :=
  holds_of_singletons .nil .append each

theorem lines (texts : List String) : Rises most (texts.map .line) :=
  of_singletons (List.forall_mem_map.2 fun text _ => line text)

theorem block (rises : Rises most steps) (opening closing : String) :
    Rises (most + 1) (.opening opening :: steps ++ [.closing closing]) where
  levelAfter_eq level := by
    have opened : levelAfter level (.opening opening :: steps) = level + 1 :=
      rises.levelAfter_eq (level + 1)
    rw [levelAfter_append, opened]
    rfl
  levelAfter_le level before after split := by
    have opened : ∀ inside, levelAfter level (.opening opening :: inside) =
        levelAfter (level + 1) inside := fun _ => rfl
    rw [List.cons_append] at split
    obtain ⟨rfl, _⟩ | ⟨inside, rfl, within⟩ := List.cons_eq_append_iff.1 split
    · exact Nat.le_add_right ..
    obtain ⟨last, rfl, closed⟩ | ⟨rest, whole, _⟩ := List.append_eq_append_iff.1 within
    · rw [opened, levelAfter_append, rises.levelAfter_eq]
      obtain ⟨rfl, _⟩ | ⟨rfl, _⟩ := List.append_eq_singleton_iff.1 closed.symm
      · exact Nat.add_le_add_left (Nat.le_add_left ..) level
      · exact Nat.le_add_right ..
    · have bound := rises.levelAfter_le (level + 1) inside rest whole
      rw [opened]
      omega

end Rises

end Layout

/-! What is emitted. -/

open Layout (Rises)

theorem rises_table (dialect : Dialect) (opening : String) (isEmpty : Bool) {most : Nat}
    {contents : List LayoutStep} (rises : Rises most contents) :
    Rises (most + 1) (Dispatch.table dialect opening isEmpty contents) := by
  unfold Dispatch.table
  split
  next => exact .line _
  next => exact rises.block ..

theorem rises_tokenSlot {dialect : Dialect} {vocabulary : Vocabulary} {slot : UInt8 × TokenId}
    {step : LayoutStep} (written : Dispatch.tokenSlot dialect vocabulary slot = .ok step)
    (most : Nat) : Rises most [step] := by
  unfold Dispatch.tokenSlot at written
  split at written
  next =>
    cases written
    exact .line _
  next => contradiction

/-- A child stands two levels above its parent, and there are no more levels of nodes than nodes. -/
theorem rises_nodeSteps {dialect : Dialect} {vocabulary : Vocabulary} (trie : Trie) (index : Nat)
    {steps : List LayoutStep}
    (written : Dispatch.nodeSteps dialect vocabulary trie index = .ok steps) :
    Rises (2 * (trie.nodeCount - index) + 1) steps := by
  induction index using trie.below_induction generalizing steps with
  | step index ih =>
    rw [Dispatch.nodeSteps_eq, List.mapM_map] at written
    obtain ⟨tokenSlots, tokensWritten, rest⟩ := exists_ok_of_bind written
    obtain ⟨childSlots, childrenWritten, same⟩ := exists_ok_of_bind rest
    cases same
    have tokens : Rises (2 * (trie.nodeCount - index)) tokenSlots := by
      refine .of_singletons fun step member => ?_
      obtain ⟨slot, _, slotWritten⟩ := exists_ok_of_mem_mapM tokensWritten step member
      exact rises_tokenSlot slotWritten _
    have children : Rises (2 * (trie.nodeCount - index)) childSlots.flatten := by
      refine .flatten fun block member => ?_
      obtain ⟨slot, listed, slotWritten⟩ := exists_ok_of_mem_mapM childrenWritten block member
      obtain ⟨tables, below, same⟩ := exists_ok_of_bind slotWritten
      cases same
      have edge := (trie.child?_eq_some_iff ..).2 listed
      have bounds := Trie.child_bounds edge
      exact ((ih slot.1 slot.2 edge below).block ..).mono (by omega)
    exact (rises_table dialect _ _ tokens).append (rises_table dialect _ _ children)

theorem rises_trieSteps {dialect : Dialect} {vocabulary : Vocabulary} {trie : Trie}
    {steps : List LayoutStep} (written : Dispatch.trieSteps dialect vocabulary trie = .ok steps) :
    Rises (2 * trie.nodeCount + 2) steps := by
  obtain ⟨tables, root, same⟩ := exists_ok_of_bind written
  cases same
  have guard : Rises (2 * trie.nodeCount + 2)
      (["#ifndef ASCII_SET", "#define ASCII_SET " ++ asciiCount.repr, "#endif"].map .line) :=
    .lines _
  have nodeType : Rises (2 * trie.nodeCount + 2) (dialect.nodeType.map .line) := .lines _
  have tree := (rises_nodeSteps trie Trie.root root).block dialect.rootOpening "\x7d;"
  have whole := guard.append (Rises.blank.append (nodeType.append (Rises.blank.append tree)))
  simpa using whole

theorem rises_chain (chain : Chain) (dialect : Dialect) (vocabulary : Vocabulary) :
    Rises 1 (chain.steps dialect vocabulary) := by
  rw [Chain.steps_eq]
  exact (Rises.lines _).block ..

theorem rises_recogniser {settings : Settings} {vocabulary : Vocabulary} {trie : Trie}
    {steps : List LayoutStep}
    (written : Artifact.recogniser settings vocabulary trie = .ok steps) :
    Rises (2 * trie.nodeCount + 2) steps := by
  unfold Artifact.recogniser at written
  split at written
  next => exact rises_trieSteps written
  next =>
    split at written
    next chain _ =>
      cases written
      exact (rises_chain chain _ vocabulary).mono (by omega)
    next => contradiction

theorem rises_nameTables (dialect : Dialect) (vocabulary : Vocabulary) :
    Rises 1 (nameTables dialect vocabulary) := by
  have table : ∀ name slots, Rises 1 (stringTable dialect name slots) := by
    intro name slots
    rw [stringTable_eq]
    exact (Rises.lines _).block ..
  exact ((table _ _).append .blank).append (table _ _)

/-- All steps of the data file, with those that recognise spellings given. -/
def Artifact.dataSteps (settings : Settings) (vocabulary : Vocabulary)
    (recognising : List LayoutStep) : List LayoutStep :=
  header :: includeSteps settings ++ inScope settings
    (nameTables (Dialect.ofSettings settings) vocabulary ++ [.blank] ++ recognising)

theorem rises_dataSteps {settings : Settings} {vocabulary : Vocabulary} {most : Nat}
    {recognising : List LayoutStep} (rises : Rises (most + 1) recognising) :
    Rises (most + 1) (Artifact.dataSteps settings vocabulary recognising) := by
  have header : Rises (most + 1) [Artifact.header] := .line _
  have lines : ∀ lines : List String,
      Rises (most + 1) (if lines.isEmpty then [] else lines.map .line ++ [.blank]) := by
    intro lines
    split
    next => exact .nil
    next => exact (Rises.lines lines).append .blank
  have includes : Rises (most + 1) (Artifact.includeSteps settings) := lines _
  have names := (rises_nameTables (Dialect.ofSettings settings) vocabulary).mono
    (Nat.le_add_left 1 most)
  have contents := (names.append .blank).append rises
  refine (header.append includes).append ?_
  unfold Artifact.inScope
  split
  next =>
    exact (((Rises.line _).append .blank).append contents).append (Rises.blank.append (.line _))
  next => exact contents

theorem levels_of_dataText {settings : Settings} {vocabulary : Vocabulary} {trie : Trie}
    {text : String} (written : Artifact.dataText settings vocabulary trie = .ok text) :
    ∃ steps, Artifact.recogniser settings vocabulary trie = .ok steps ∧
      text = layOut (Artifact.dataSteps settings vocabulary steps) ∧
      ∀ before after, Artifact.dataSteps settings vocabulary steps = before ++ after →
        Layout.levelAfter 0 before ≤ 2 * trie.nodeCount + 2 := by
  obtain ⟨steps, recognised, same⟩ := exists_ok_of_bind written
  cases same
  refine ⟨steps, recognised, rfl, fun before after split => ?_⟩
  have level := (rises_dataSteps (rises_recogniser recognised)).levelAfter_le 0 before after split
  rwa [Nat.zero_add] at level

/-- What an analysis counts, and what the data file that is written from it counts, is less than
2^32. -/
structure Analysis.FitsWords (settings : Settings) (source : Source) (analysis : Analysis) :
    Prop where
  lines_lt : (textLines source.text).length < UInt32.size
  line_lt : ∀ declaration ∈ analysis.vocabulary.declarations, declaration.line < UInt32.size
  size_lt : analysis.vocabulary.size < UInt32.size
  nodeCount_lt : analysis.trie.nodeCount < UInt32.size
  level_lt : ∀ text, Artifact.dataText settings analysis.vocabulary analysis.trie = .ok text →
    ∃ steps, Artifact.recogniser settings analysis.vocabulary analysis.trie = .ok steps ∧
      text = layOut (Artifact.dataSteps settings analysis.vocabulary steps) ∧
      ∀ before after, Artifact.dataSteps settings analysis.vocabulary steps = before ++ after →
        Layout.levelAfter 0 before < UInt32.size

/-- No number of a build is beyond 32 bits if its specification has less than 2^30 characters. -/
theorem Analysis.fitsWords_ofSource (settings : Settings) {source : Source}
    (short : source.text.length < 2 ^ 30) :
    (Analysis.ofSource settings source).FitsWords settings source := by
  obtain ⟨lines, characters⟩ := textLines_bounds source.text
  have wide : UInt32.size = 2 ^ 32 := rfl
  have few : (textLines source.text).length < UInt32.size := by omega
  have within := within_readSpec settings.format (some source.fileName) (Nat.le_of_lt few)
  have paths := within.pathLengths_le
  have nodes : (Analysis.ofSource settings source).trie.nodeCount ≤ 1 + source.text.length :=
    Nat.le_trans (nodeCount_buildTrie_le ..) (by omega)
  constructor
  case lines_lt => exact few
  case line_lt => exact fun declaration member => (within.line_le declaration member).trans_lt few
  case size_lt => exact within.size_le.trans_lt few
  case nodeCount_lt => omega
  case level_lt =>
    intro text written
    obtain ⟨steps, recognised, same, levels⟩ := levels_of_dataText written
    refine ⟨steps, recognised, same, fun before after split => ?_⟩
    have level := levels before after split
    omega

end TokenTables
