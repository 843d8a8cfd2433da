import TokenTables.Emit.Artifacts
import TokenTables.Proofs.Emit.ChainExecution
import TokenTables.Proofs.Emit.LineReading
import TokenTables.Proofs.Emit.Writing

/-!
The same file in two dialects. Whatever is emitted is emitted for both step by step: where one
writes a line, so does the other, at the same level, and the two lines say the same. The tables of a
trie are built up from the leaves in both, and fail in both at the first token that is not declared.
Only the type of the nodes and the signature of the lookup function are written in words of their
own.
-/

namespace TokenTables

/-- Two outcomes are alike if both are the same error, or both results that are related. -/
inductive Alike {ε α β : Type} (related : α → β → Prop) : Except ε α → Except ε β → Prop
  | error (cause : ε) : Alike related (.error cause) (.error cause)
  | ok {result : α} {other : β} (results : related result other) :
    Alike related (.ok result) (.ok other)

namespace Alike

variable {ε α β γ δ : Type} {related : α → β → Prop} {next : γ → δ → Prop}

theorem bind {first : Except ε α} {second : Except ε β} {onward : α → Except ε γ}
    {otherwise : β → Except ε δ} (outcomes : Alike related first second)
    (later : ∀ result other, related result other → Alike next (onward result) (otherwise other)) :
    Alike next (first >>= onward) (second >>= otherwise) := by
  cases outcomes with
  | error cause => exact .error cause
  | ok results => exact later _ _ results

theorem map {first : Except ε α} {second : Except ε β} {f : α → γ} {g : β → δ}
    (outcomes : Alike related first second)
    (each : ∀ result other, related result other → next (f result) (g other)) :
    Alike next (first.map f) (second.map g) := by
  cases outcomes with
  | error cause => exact .error cause
  | ok results => exact .ok (each _ _ results)

theorem mapM {f : γ → Except ε α} {g : δ → Except ε β} {inputs : List γ} {others : List δ}
    (each : List.Forall₂ (fun input other => Alike related (f input) (g other)) inputs others) :
    Alike (List.Forall₂ related) (inputs.mapM f) (others.mapM g) := by
  induction each with
  | nil => exact .ok .nil
  | cons first _ ih =>
    rw [List.mapM_cons, List.mapM_cons]
    apply first.bind
    intro result other results
    apply ih.bind
    intro rest otherRest restResults
    exact .ok (.cons results restResults)

end Alike

variable {first second : Dialect} {names : List String}

def Agree (first second : Dialect) (names : List String) (text other : String) : Prop :=
  ∃ line, Tells first text line ∧ Tells second other line ∧ ∀ name ∈ line.name?, name ∈ names

theorem Agree.of_nameless {text other : String} {line : Line} (tells : Tells first text line)
    (otherTells : Tells second other line) (nameless : line.name? = none) :
    Agree first second names text other := by
  refine ⟨line, tells, otherTells, fun name => ?_⟩
  rw [nameless]
  exact fun nothing => absurd nothing (Option.not_mem_none name)

theorem Agree.of_name {text other name : String} {line : Line} (tells : Tells first text line)
    (otherTells : Tells second other line) (named : line.name? = some name)
    (listed : name ∈ names) : Agree first second names text other := by
  refine ⟨line, tells, otherTells, fun found => ?_⟩
  rw [named]
  intro same
  exact Option.some.inj same ▸ listed

inductive Twins (first second : Dialect) (names : List String) : LayoutStep → LayoutStep → Prop
  | line {text other : String} (agree : Agree first second names text other) :
    Twins first second names (.line text) (.line other)
  | opening {text other : String} (agree : Agree first second names text other) :
    Twins first second names (.opening text) (.opening other)
  | closing {text other : String} (agree : Agree first second names text other) :
    Twins first second names (.closing text) (.closing other)
  | blank : Twins first second names .blank .blank

/-- Two lines that say the same at the same place of the page. -/
structure SameLine (first second : Dialect) (names : List String) (line other : List Char) :
    Prop where
  blank_iff : Layout.content line = [] ↔ Layout.content other = []
  indentation_eq : Layout.indentation line = Layout.indentation other
  told : ∃ content, readLine? first line = some content ∧ readLine? second other = some content ∧
    ∀ name ∈ content.name?, name ∈ names

theorem Agree.sameLine {text other : String} (agree : Agree first second names text other)
    (level : Nat) :
    SameLine first second names (LayoutStep.atLevel level text)
      (LayoutStep.atLevel level other) := by
  obtain ⟨line, tells, otherTells, listed⟩ := agree
  constructor
  case blank_iff =>
    rw [tells.solid.content_atLevel, otherTells.solid.content_atLevel]
    exact iff_of_false tells.solid.toList_ne_nil otherTells.solid.toList_ne_nil
  case indentation_eq =>
    rw [tells.solid.indentation_atLevel, otherTells.solid.indentation_atLevel]
  case told =>
    exact ⟨line, tells.readLine?_atLevel level, otherTells.readLine?_atLevel level, listed⟩

theorem SameLine.blank : SameLine first second names [] [] where
  blank_iff := Iff.rfl
  indentation_eq := rfl
  told := ⟨.blank, rfl, rfl, by simp [Line.name?]⟩

theorem Twins.lines {step other : LayoutStep} (twins : Twins first second names step other)
    (level : Nat) :
    List.Forall₂ (SameLine first second names) (step.lines level) (other.lines level) ∧
      step.levelAfter level = other.levelAfter level ∧
      '\n' ∉ step.text.toList ∧ '\n' ∉ other.text.toList := by
  have unbroken : ∀ {text other : String}, Agree first second names text other →
      '\n' ∉ text.toList ∧ '\n' ∉ other.toList := by
    intro text other agree
    obtain ⟨line, tells, otherTells, _⟩ := agree
    exact ⟨tells.solid.unbroken, otherTells.solid.unbroken⟩
  cases twins with
  | line agree => exact ⟨.cons (agree.sameLine level) .nil, rfl, unbroken agree⟩
  | opening agree => exact ⟨.cons (agree.sameLine level) .nil, rfl, unbroken agree⟩
  | closing agree => exact ⟨.cons (agree.sameLine _) .nil, rfl, unbroken agree⟩
  | blank => exact ⟨.cons .blank .nil, rfl, List.not_mem_nil, List.not_mem_nil⟩

theorem linesAt_twins {steps others : List LayoutStep}
    (twins : List.Forall₂ (Twins first second names) steps others) (level : Nat) :
    List.Forall₂ (SameLine first second names) (Layout.linesAt level steps)
        (Layout.linesAt level others) ∧
      Layout.levelAfter level steps = Layout.levelAfter level others ∧
      (∀ step ∈ steps, '\n' ∉ step.text.toList) ∧ ∀ step ∈ others, '\n' ∉ step.text.toList := by
  induction twins generalizing level with
  | nil => exact ⟨.nil, rfl, List.forall_mem_nil _, List.forall_mem_nil _⟩
  | cons step _ ih =>
    obtain ⟨lines, after, unbroken, otherUnbroken⟩ := step.lines level
    obtain ⟨laterLines, last, laterUnbroken, otherLater⟩ := ih (LayoutStep.levelAfter level _)
    refine ⟨?_, ?_, List.forall_mem_cons.2 ⟨unbroken, laterUnbroken⟩,
      List.forall_mem_cons.2 ⟨otherUnbroken, otherLater⟩⟩
    · rw [Layout.linesAt, Layout.linesAt, ← after]
      exact List.rel_append lines laterLines
    · exact last.trans (congrArg (Layout.levelAfter · _) after)

/-! What is emitted. -/

theorem stringTable_eq (dialect : Dialect) (table : String) (slots : List (String × String)) :
    stringTable dialect table slots =
      .opening ("static const char *" ++ table ++ "[" ++ dialect.count ++ "] = \x7b") ::
        (slots.map fun slot => Dialect.slot (dialect.index slot.1) (Literal.string slot.2)).map
          .line ++ [.closing "\x7d;"] := by
  rw [stringTable, List.map_map]
  rfl

theorem levelAfter_stringTable (level : Nat) (dialect : Dialect) (table : String)
    (slots : List (String × String)) :
    Layout.levelAfter level (stringTable dialect table slots) = level := by
  rw [stringTable_eq, Layout.levelAfter_block]

theorem Agree.fixed {text other : String}
    (pair : (text, other) ∈
      (first.fixedLines.map Prod.fst).zip (second.fixedLines.map Prod.fst)) :
    Agree first second names text other := by
  have contents : first.fixedLines.map Prod.snd = second.fixedLines.map Prod.snd := rfl
  have nameless : ∀ line ∈ first.fixedLines.map Prod.snd, line.name? = none := by
    unfold Dialect.fixedLines
    simp [Line.name?]
  obtain ⟨position, here⟩ := List.mem_iff_getElem?.1 pair
  obtain ⟨left, right⟩ := List.getElem?_zip_eq_some.1 here
  simp only [List.getElem?_map, Option.map_eq_some_iff] at left right
  obtain ⟨entry, found, same⟩ := left
  obtain ⟨otherEntry, otherFound, otherSame⟩ := right
  have line : entry.2 = otherEntry.2 := by
    have lines := congrArg (fun lines => lines[position]?) contents
    simpa [found, otherFound] using lines
  have listed : (text, entry.2) ∈ first.fixedLines := same ▸ List.mem_of_getElem? found
  have otherListed : (other, entry.2) ∈ second.fixedLines := by
    rw [line, ← otherSame]
    exact List.mem_of_getElem? otherFound
  exact .of_nameless (tells_fixed listed) (tells_fixed otherListed)
    (nameless _ (List.mem_map_of_mem (List.mem_of_getElem? found)))

section

variable (worded : first.Worded) (otherWorded : second.Worded)
include worded otherWorded

theorem Agree.slot {name : String} (word : IsWord name) (listed : name ∈ names) (code : UInt8) :
    Agree first second names (Dialect.slot (Literal.character code) (first.index name))
      (Dialect.slot (Literal.character code) (second.index name)) :=
  .of_name (tells_token worded code word) (tells_token otherWorded code word) rfl listed

theorem Agree.string {name : String} (word : IsWord name) (listed : name ∈ names) (text : String) :
    Agree first second names (Dialect.slot (first.index name) (Literal.string text))
      (Dialect.slot (second.index name) (Literal.string text)) :=
  .of_name (tells_text worded word text) (tells_text otherWorded word text) rfl listed

theorem twins_stringTable {table : String} (word : IsWord table) {slots : List (String × String)}
    (words : ∀ slot ∈ slots, IsWord slot.1 ∧ slot.1 ∈ names) :
    List.Forall₂ (Twins first second names) (stringTable first table slots)
      (stringTable second table slots) := by
  have opening : Agree first second names
      ("static const char *" ++ table ++ "[" ++ first.count ++ "] = \x7b")
      ("static const char *" ++ table ++ "[" ++ second.count ++ "] = \x7b") :=
    .of_nameless (tells_strings worded word) (tells_strings otherWorded word) rfl
  have closing : Agree first second names "\x7d;" "\x7d;" := .fixed (by simp [Dialect.fixedLines])
  apply List.rel_append
  · apply List.Forall₂.cons (.opening opening)
    apply Layout.forall₂_map_same
    intro slot member
    obtain ⟨name, listed⟩ := words slot member
    exact .line (.string worded otherWorded name listed slot.2)
  · exact .cons (.closing closing) .nil

theorem twins_nameTables {vocabulary : Vocabulary} (words : vocabulary.Worded) :
    List.Forall₂ (Twins first second vocabulary.names) (nameTables first vocabulary)
      (nameTables second vocabulary) := by
  have named : ∀ declaration ∈ vocabulary.declarations,
      IsWord declaration.name ∧ declaration.name ∈ vocabulary.names := by
    intro declaration declared
    have member : declaration.name ∈ vocabulary.names := List.mem_map_of_mem declared
    exact ⟨words _ member, member⟩
  apply List.rel_append
  · apply List.rel_append _ (.cons .blank .nil)
    apply twins_stringTable worded otherWorded (by decide)
    intro slot member
    obtain ⟨declaration, declared, name, _⟩ := vocabulary.mem_spellingSlots slot member
    exact name ▸ named declaration declared
  · apply twins_stringTable worded otherWorded (by decide)
    intro slot member
    obtain ⟨declaration, declared, rfl⟩ := List.mem_map.1 member
    exact named declaration declared

end

/-! The tables of a trie. -/

theorem twins_table {opening otherOpening : String} {steps others : List LayoutStep}
    (openings : Agree first second names opening otherOpening)
    (contents : List.Forall₂ (Twins first second names) steps others) (isEmpty : Bool) :
    List.Forall₂ (Twins first second names) (Dispatch.table first opening isEmpty steps)
      (Dispatch.table second otherOpening isEmpty others) := by
  have null : Agree first second names (first.null ++ ",") (second.null ++ ",") :=
    .fixed (by simp [Dialect.fixedLines])
  have closing : Agree first second names "\x7d," "\x7d," := .fixed (by simp [Dialect.fixedLines])
  unfold Dispatch.table
  split
  next => exact .cons (.line null) .nil
  next => exact .cons (.opening openings) (List.rel_append contents (.cons (.closing closing) .nil))

theorem twins_childSlot (code : UInt8) {steps others : List LayoutStep}
    (contents : List.Forall₂ (Twins first second names) steps others) :
    List.Forall₂ (Twins first second names) (Dispatch.childSlot first code steps)
      (Dispatch.childSlot second code others) := by
  have opening : Agree first second names (first.childOpening (Literal.character code))
      (second.childOpening (Literal.character code)) :=
    .of_nameless (tells_child first code) (tells_child second code) rfl
  have closing : Agree first second names "\x7d," "\x7d," := .fixed (by simp [Dialect.fixedLines])
  exact .cons (.opening opening) (List.rel_append contents (.cons (.closing closing) .nil))

section

variable (worded : first.Worded) (otherWorded : second.Worded) {vocabulary : Vocabulary}
  (words : vocabulary.Worded)
include worded otherWorded words

theorem alike_tokenSlot (slot : UInt8 × TokenId) :
    Alike (Twins first second vocabulary.names) (Dispatch.tokenSlot first vocabulary slot)
      (Dispatch.tokenSlot second vocabulary slot) := by
  unfold Dispatch.tokenSlot
  cases found : vocabulary.get? slot.2 with
  | none => exact .error _
  | some declaration =>
    have member : declaration.name ∈ vocabulary.names :=
      List.mem_map_of_mem (List.mem_of_getElem? found)
    exact .ok (.line (.slot worded otherWorded (words _ member) member slot.1))

/-- At every node both dialects write the same tables, or miss the same token. -/
theorem alike_nodeSteps (trie : Trie) (index : Nat) :
    Alike (List.Forall₂ (Twins first second vocabulary.names))
      (Dispatch.nodeSteps first vocabulary trie index)
      (Dispatch.nodeSteps second vocabulary trie index) := by
  induction index using trie.below_induction with
  | step index ih =>
    rw [Dispatch.nodeSteps_eq, Dispatch.nodeSteps_eq]
    have tokens : Alike (List.Forall₂ (Twins first second vocabulary.names))
        ((trie.node index).tokens.entries.mapM (Dispatch.tokenSlot first vocabulary))
        ((trie.node index).tokens.entries.mapM (Dispatch.tokenSlot second vocabulary)) := by
      apply Alike.mapM
      exact List.forall₂_same.2 fun slot _ => alike_tokenSlot worded otherWorded words slot
    have children : Alike (List.Forall₂ (List.Forall₂ (Twins first second vocabulary.names)))
        (((trie.node index).children.entries.map fun slot =>
          (slot.1, Dispatch.nodeSteps first vocabulary trie slot.2)).mapM fun child =>
            return Dispatch.childSlot first child.1 (← child.2))
        (((trie.node index).children.entries.map fun slot =>
          (slot.1, Dispatch.nodeSteps second vocabulary trie slot.2)).mapM fun child =>
            return Dispatch.childSlot second child.1 (← child.2)) := by
      apply Alike.mapM
      apply Layout.forall₂_map_same
      intro slot member
      apply (ih slot.1 slot.2 ((trie.child?_eq_some_iff ..).2 member)).bind
      intro tables others twins
      exact .ok (twins_childSlot slot.1 twins)
    apply tokens.bind
    intro tokenSlots otherTokenSlots tokenTwins
    apply children.bind
    intro childSlots otherChildSlots childTwins
    have sameEmpty : childSlots.isEmpty = otherChildSlots.isEmpty := by
      cases childTwins <;> rfl
    have tokensOpening : Agree first second vocabulary.names first.tokensOpening
        second.tokensOpening := .fixed (by simp [Dialect.fixedLines])
    have childrenOpening : Agree first second vocabulary.names first.childrenOpening
        second.childrenOpening := .fixed (by simp [Dialect.fixedLines])
    rw [sameEmpty]
    exact .ok (List.rel_append (twins_table tokensOpening tokenTwins _)
      (twins_table childrenOpening (List.rel_flatten childTwins) _))

end

/-! Lines in words of their own. -/

def Dialect.ownLines (dialect : Dialect) : List (List Char) :=
  (dialect.chainSignature :: dialect.nodeType).map String.toList

/-- Two lines that say the same, or say the same thing in words of their own. -/
def Counterpart (first second : Dialect) (names : List String) (line other : List Char) : Prop :=
  SameLine first second names line other ∨ (line, other) ∈ first.ownLines.zip second.ownLines

structure Parallel (first second : Dialect) (names : List String)
    (steps others : List LayoutStep) : Prop where
  unbroken : ∀ step ∈ steps, '\n' ∉ step.text.toList
  otherUnbroken : ∀ step ∈ others, '\n' ∉ step.text.toList
  lines : List.Forall₂ (Counterpart first second names) (Layout.linesAt 0 steps)
    (Layout.linesAt 0 others)

theorem Parallel.of_twins {steps others : List LayoutStep}
    (twins : List.Forall₂ (Twins first second names) steps others) :
    Parallel first second names steps others := by
  obtain ⟨lines, _, unbroken, otherUnbroken⟩ := linesAt_twins twins 0
  exact ⟨unbroken, otherUnbroken, lines.imp fun _ _ same => .inl same⟩

/-- Steps that come back to the outermost level can stand before others. -/
theorem Parallel.append {steps others rest otherRest : List LayoutStep}
    (before : Parallel first second names steps others)
    (after : Parallel first second names rest otherRest)
    (level : Layout.levelAfter 0 steps = 0) (otherLevel : Layout.levelAfter 0 others = 0) :
    Parallel first second names (steps ++ rest) (others ++ otherRest) where
  unbroken := List.forall_mem_append.2 ⟨before.unbroken, after.unbroken⟩
  otherUnbroken := List.forall_mem_append.2 ⟨before.otherUnbroken, after.otherUnbroken⟩
  lines := by
    rw [Layout.linesAt_append, Layout.linesAt_append, level, otherLevel]
    exact List.rel_append before.lines after.lines

theorem nodeType_unbroken (dialect : Dialect) : ∀ text ∈ dialect.nodeType, '\n' ∉ text.toList := by
  unfold Dialect.nodeType
  cases dialect.target <;> decide

theorem parallel_nodeType (first second : Dialect) (names : List String) :
    Parallel first second names (first.nodeType.map .line) (second.nodeType.map .line) where
  unbroken := List.forall_mem_map.2 (nodeType_unbroken first)
  otherUnbroken := List.forall_mem_map.2 (nodeType_unbroken second)
  lines := by
    have lines : ∀ dialect : Dialect, Layout.linesAt 0 (dialect.nodeType.map .line) =
        dialect.nodeType.map String.toList := by
      intro dialect
      rw [Layout.linesAt_lines]
      exact List.map_congr_left fun text _ => Layout.atLevel_zero text
    have lengths : ∀ dialect : Dialect, dialect.nodeType.length = 4 := by
      intro dialect
      unfold Dialect.nodeType
      cases dialect.target <;> rfl
    rw [lines, lines, List.forall₂_iff_zip]
    refine ⟨by rw [List.length_map, List.length_map, lengths, lengths], fun pair => .inr ?_⟩
    exact List.mem_cons_of_mem _ pair

section

variable (worded : first.Worded) (otherWorded : second.Worded) {vocabulary : Vocabulary}
  (words : vocabulary.Worded)
include worded otherWorded words

theorem alike_trieSteps (trie : Trie) :
    Alike (Parallel first second vocabulary.names)
      (Dispatch.trieSteps first vocabulary trie) (Dispatch.trieSteps second vocabulary trie) := by
  unfold Dispatch.trieSteps
  apply (alike_nodeSteps worded otherWorded words trie Trie.root).bind
  intro tables others twins
  have width : "#define ASCII_SET " ++ asciiCount.repr = "#define ASCII_SET 128" := by decide
  have guard : List.Forall₂ (Twins first second vocabulary.names)
      [.line "#ifndef ASCII_SET", .line ("#define ASCII_SET " ++ asciiCount.repr), .line "#endif",
        .blank]
      [.line "#ifndef ASCII_SET", .line ("#define ASCII_SET " ++ asciiCount.repr), .line "#endif",
        .blank] := by
    rw [width]
    refine .cons (.line (.fixed ?_)) (.cons (.line (.fixed ?_)) (.cons (.line (.fixed ?_))
      (.cons .blank .nil)))
    · simp [Dialect.fixedLines]
    · simp [Dialect.fixedLines]
    · simp [Dialect.fixedLines]
  have opening : Agree first second vocabulary.names first.rootOpening second.rootOpening :=
    .fixed (by simp [Dialect.fixedLines])
  have closing : Agree first second vocabulary.names "\x7d;" "\x7d;" :=
    .fixed (by simp [Dialect.fixedLines])
  have root : List.Forall₂ (Twins first second vocabulary.names)
      (.blank :: .opening first.rootOpening :: tables ++ [.closing "\x7d;"])
      (.blank :: .opening second.rootOpening :: others ++ [.closing "\x7d;"]) :=
    .cons .blank (.cons (.opening opening) (List.rel_append twins (.cons (.closing closing) .nil)))
  have nodeType := (parallel_nodeType first second vocabulary.names).append (.of_twins root)
    (Layout.levelAfter_lines ..) (Layout.levelAfter_lines ..)
  simp only [List.append_assoc]
  exact .ok ((Parallel.of_twins guard).append nodeType rfl rfl)

theorem parallel_chain {noMatch : String} {chain : Chain}
    (made : Chain.ofVocabulary? vocabulary noMatch = some chain) :
    Parallel first second vocabulary.names (chain.steps first vocabulary)
      (chain.steps second vocabulary) := by
  have named : ∀ id, (vocabulary.get? id).isSome → vocabulary.nameOf id ∈ vocabulary.names := by
    intro id declared
    obtain ⟨declaration, found⟩ := Option.isSome_iff_exists.1 declared
    rw [Vocabulary.nameOf_eq found]
    exact List.mem_map_of_mem (List.mem_of_getElem? found)
  have body : List.Forall₂ (Agree first second vocabulary.names)
      (chain.bodyTexts first vocabulary) (chain.bodyTexts second vocabulary) := by
    apply List.rel_append
    · apply Layout.forall₂_map_same
      intro test member
      have word := words.nameOf test.2
      exact .of_name (tells_test worded test.1 word) (tells_test otherWorded test.1 word) rfl
        (named test.2 (Chain.declared_tests made test member))
    · have word := words.nameOf chain.fallback
      exact .cons (.of_name (tells_result worded word) (tells_result otherWorded word) rfl
        (named chain.fallback (Chain.declared_fallback made))) .nil
  have closing : Agree first second vocabulary.names "\x7d" "\x7d" :=
    .fixed (by simp [Dialect.fixedLines])
  constructor
  case unbroken => exact Chain.steps_unbroken worded words chain
  case otherUnbroken => exact Chain.steps_unbroken otherWorded words chain
  case lines =>
    rw [Chain.steps_eq, Chain.steps_eq, Layout.linesAt_block, Layout.linesAt_block,
      Layout.atLevel_zero first.chainSignature, Layout.atLevel_zero second.chainSignature,
      List.cons_append, List.cons_append]
    apply List.Forall₂.cons (.inr List.mem_cons_self)
    apply List.rel_append
    · exact List.rel_map (fun _ _ agree => .inl (agree.sameLine 1)) body
    · exact .cons (.inl (closing.sameLine 0)) .nil

end

end TokenTables
