import TokenTables.Proofs.Emit.Counterparts
import TokenTables.Proofs.Emit.Description

/-!
Blocks within blocks. What is emitted closes every block that it opens and no other, so it comes
back to the level it starts from and never falls below it. Written on any page it adds to the text
what it writes on an empty page, moved in by the level of the page.
-/

namespace TokenTables

def LayoutStep.lowers : LayoutStep → Bool
  | closing _ => true
  | dedent => true
  | _ => false

def moveLine (levels : Nat) (line : List Char) : List Char :=
  if line.isEmpty then [] else List.replicate (4 * levels) ' ' ++ line

def moveText (levels : Nat) (text : String) : String :=
  String.ofList (['\n'].intercalate ((text.toList.splitOn '\n').map (moveLine levels)))

/-- What writing the steps does to the page: it comes back to its level, its text goes on with what
the steps write on an empty page, moved in by that level, and no step lowers a level of zero. -/
structure Page.TakesIn (page : Page) (steps : List LayoutStep) : Prop where
  level_eq : (page.writeAll steps).level = page.level
  text_eq : (page.writeAll steps).text = page.text ++ moveText page.level (layOut steps)
  positive : ∀ before step after, steps = before ++ step :: after → step.lowers = true →
    0 < (page.writeAll before).level

namespace Layout

open LayoutStep (atLevel)
open OutlineReading

/-- Steps that close the blocks they open and no other, with texts that keep to their lines. -/
inductive Nested : List LayoutStep → Prop
  | nil : Nested []
  | line {text : String} (unbroken : '\n' ∉ text.toList) : Nested [.line text]
  | blank : Nested [.blank]
  | append {first second : List LayoutStep} (before : Nested first) (after : Nested second) :
    Nested (first ++ second)
  | block {opening closing : String} {inside : List LayoutStep} (opens : '\n' ∉ opening.toList)
    (closes : '\n' ∉ closing.toList) (within : Nested inside) :
    Nested (.opening opening :: inside ++ [.closing closing])

/-! Lines that are moved in. -/

theorem moveLine_unbroken (levels : Nat) {line : List Char} (unbroken : '\n' ∉ line) :
    '\n' ∉ moveLine levels line := by
  unfold moveLine
  split
  next => exact List.not_mem_nil
  next =>
    rw [List.mem_append, not_or]
    exact ⟨fun blank => absurd (List.eq_of_mem_replicate blank) (by decide), unbroken⟩

theorem moveText_pageText (levels : Nat) {lines : List (List Char)}
    (unbroken : ∀ line ∈ lines, '\n' ∉ line) :
    moveText levels (String.ofList (pageText lines)) =
      String.ofList (pageText (lines.map (moveLine levels))) := by
  have moved : ∀ line ∈ lines.map (moveLine levels), '\n' ∉ line :=
    List.forall_mem_map.2 fun line member => moveLine_unbroken levels (unbroken line member)
  have last : (lines ++ [[]]).map (moveLine levels) = lines.map (moveLine levels) ++ [[]] :=
    List.map_append
  rw [moveText, String.toList_ofList, splitOn_pageText unbroken, last, ← splitOn_pageText moved,
    List.intercalate_splitOn]

theorem atLevel_add (base level : Nat) (text : String) :
    atLevel (base + level) text = moveLine base (atLevel level text) := by
  have spaced : ∀ level, indented level text = List.replicate (4 * level) ' ' ++ text.toList := by
    intro level
    rw [indented, String.toList_append, Page.indentation, String.toList_ofList]
  unfold atLevel moveLine
  by_cases empty : text.isEmpty
  · rw [if_pos empty, if_pos empty]
    rfl
  · have visible : ¬(indented level text).isEmpty := by
      rw [spaced, List.isEmpty_iff, List.append_eq_nil_iff, String.toList_eq_nil_iff,
        ← String.isEmpty_iff]
      exact fun nothing => empty nothing.2
    rw [if_neg empty, if_neg empty, if_neg visible, spaced, spaced, Nat.mul_add,
      List.replicate_add, List.append_assoc]

/-! What nested steps write. -/

theorem split_append {first second before after : List LayoutStep} {step : LayoutStep}
    (split : first ++ second = before ++ step :: after) :
    (∃ rest, first = before ++ step :: rest) ∨
      ∃ rest, before = first ++ rest ∧ second = rest ++ step :: after := by
  obtain ⟨rest, inSecond⟩ | ⟨rest, firstEq, afterEq⟩ := List.append_eq_append_iff.1 split
  · exact .inr ⟨rest, inSecond⟩
  · obtain ⟨rfl, start⟩ | ⟨others, rfl, _⟩ := List.cons_eq_append_iff.1 afterEq
    · exact .inr ⟨[], by rw [firstEq, List.append_nil, List.append_nil], start⟩
    · exact .inl ⟨others, firstEq⟩

section Joined

variable {holds : List LayoutStep → Prop} (nil : holds [])
  (append : ∀ {first second : List LayoutStep},
    holds first → holds second → holds (first ++ second))
include nil append

theorem holds_flatten {blocks : List (List LayoutStep)} (each : ∀ steps ∈ blocks, holds steps) :
    holds blocks.flatten := by
  induction blocks with
  | nil => exact nil
  | cons steps rest ih =>
    obtain ⟨first, later⟩ := List.forall_mem_cons.1 each
    exact append first (ih later)

theorem holds_of_singletons {steps : List LayoutStep} (each : ∀ step ∈ steps, holds [step]) :
    holds steps := by
  rw [← List.flatMap_singleton' steps, List.flatMap_def]
  exact holds_flatten nil append (List.forall_mem_map.2 each)

end Joined

namespace Nested

variable {steps : List LayoutStep}

theorem flatten {blocks : List (List LayoutStep)} (each : ∀ steps ∈ blocks, Nested steps) :
    Nested blocks.flatten :=
  holds_flatten .nil .append each

theorem of_singletons (each : ∀ step ∈ steps, Nested [step]) : Nested steps :=
  holds_of_singletons .nil .append each

theorem lines {texts : List String} (unbroken : ∀ text ∈ texts, '\n' ∉ text.toList) :
    Nested (texts.map .line) :=
  of_singletons (List.forall_mem_map.2 fun text member => .line (unbroken text member))

theorem unbroken (nested : Nested steps) : ∀ step ∈ steps, '\n' ∉ step.text.toList := by
  induction nested with
  | nil => exact List.forall_mem_nil _
  | line unbroken => exact List.forall_mem_singleton.2 unbroken
  | blank => exact List.forall_mem_singleton.2 List.not_mem_nil
  | append _ _ first second => exact List.forall_mem_append.2 ⟨first, second⟩
  | block opens closes _ inside =>
    rw [List.forall_mem_append, List.forall_mem_cons, List.forall_mem_singleton]
    exact ⟨⟨opens, inside⟩, closes⟩

theorem levelAfter_eq (nested : Nested steps) (level : Nat) : levelAfter level steps = level := by
  induction nested generalizing level with
  | nil => rfl
  | line _ => rfl
  | blank => rfl
  | append _ _ first second => rw [levelAfter_append, first, second]
  | @block opening _ inside _ _ _ contents =>
    have opened : levelAfter level (.opening opening :: inside) = level + 1 := contents (level + 1)
    rw [levelAfter_append, opened]
    rfl

/-- Between the first and the last line of a block everything stands one level further in. -/
theorem linesAt_block {inside : List LayoutStep} (within : Nested inside) (level : Nat)
    (opening closing : String) :
    linesAt level (.opening opening :: inside ++ [.closing closing]) =
      atLevel level opening :: linesAt (level + 1) inside ++ [atLevel level closing] := by
  have opened : levelAfter level (.opening opening :: inside) = level + 1 :=
    within.levelAfter_eq (level + 1)
  rw [linesAt_append, opened]
  rfl

/-- From a higher level the same lines are written, moved in by the difference. -/
theorem linesAt_add (nested : Nested steps) (base level : Nat) :
    linesAt (base + level) steps = (linesAt level steps).map (moveLine base) := by
  induction nested generalizing level with
  | nil => rfl
  | line _ => exact congrArg (fun line => [line]) (atLevel_add ..)
  | blank => rfl
  | append before _ first second =>
    rw [linesAt_append, linesAt_append, before.levelAfter_eq, before.levelAfter_eq, first, second,
      List.map_append]
  | block _ _ within contents =>
    rw [within.linesAt_block, within.linesAt_block, Nat.add_assoc, contents, atLevel_add,
      atLevel_add, List.map_append]
    rfl

/-- A step that lowers the level stands inside a block, so the level there is above the first. -/
theorem level_lt (nested : Nested steps) (level : Nat) {before after : List LayoutStep}
    {step : LayoutStep} (split : steps = before ++ step :: after) (lowers : step.lowers = true) :
    level < levelAfter level before := by
  induction nested generalizing level before after with
  | nil => exact absurd split (by simp)
  | line _ =>
    obtain ⟨_, same⟩ | ⟨_, ⟨⟩⟩ := List.singleton_eq_append_iff.1 split
    cases same
    contradiction
  | blank =>
    obtain ⟨_, same⟩ | ⟨_, ⟨⟩⟩ := List.singleton_eq_append_iff.1 split
    cases same
    contradiction
  | append firstNested _ first second =>
    obtain ⟨rest, inFirst⟩ | ⟨rest, rfl, inSecond⟩ := split_append split
    · exact first level inFirst
    · rw [levelAfter_append, firstNested.levelAfter_eq]
      exact second level inSecond
  | @block opening _ inside _ _ within contents =>
    have opened : ∀ steps, levelAfter level (.opening opening :: steps) =
        levelAfter (level + 1) steps := fun _ => rfl
    obtain ⟨rest, inBlock⟩ | ⟨rest, rfl, last⟩ := split_append split
    · obtain ⟨_, same⟩ | ⟨earlier, rfl, inInside⟩ := List.cons_eq_append_iff.1 inBlock
      · cases same
        contradiction
      · exact Nat.lt_of_succ_lt (contents (level + 1) inInside)
    · obtain ⟨rfl, _⟩ | ⟨_, ⟨⟩⟩ := List.singleton_eq_append_iff.1 last
      rw [List.append_nil, opened, within.levelAfter_eq]
      exact Nat.lt_succ_self level

theorem takesIn (nested : Nested steps) (page : Page) : page.TakesIn steps where
  level_eq := by
    rw [writeAll_eq]
    exact nested.levelAfter_eq page.level
  text_eq := by
    have moved : linesAt page.level steps = (linesAt 0 steps).map (moveLine page.level) :=
      nested.linesAt_add page.level 0
    have empty : layOut steps = String.ofList (pageText (linesAt 0 steps)) := by
      rw [← layOut_toList, String.ofList_toList]
    rw [writeAll_eq, moved, empty,
      moveText_pageText page.level (linesAt_unbroken 0 nested.unbroken)]
  positive before step after split lowers := by
    rw [writeAll_eq]
    exact Nat.zero_lt_of_lt (nested.level_lt page.level split lowers)

end Nested

end Layout

/-! What is emitted. -/

open Layout (Nested)

theorem Dialect.OneLine.nameOf {dialect : Dialect} {vocabulary : Vocabulary}
    (oneLine : dialect.OneLine vocabulary) (id : TokenId) :
    '\n' ∉ (vocabulary.nameOf id).toList := by
  cases found : vocabulary.get? id with
  | none =>
    rw [Vocabulary.nameOf, found]
    exact List.not_mem_nil
  | some declaration =>
    rw [Vocabulary.nameOf_eq found]
    exact oneLine.names _ (List.mem_map_of_mem (List.mem_of_getElem? found))

theorem Dialect.slot_unbroken {key value : String} (keyUnbroken : '\n' ∉ key.toList)
    (valueUnbroken : '\n' ∉ value.toList) : '\n' ∉ (Dialect.slot key value).toList := by
  simp [Dialect.slot, keyUnbroken, valueUnbroken]

theorem nested_table (dialect : Dialect) {opening : String} (unbroken : '\n' ∉ opening.toList)
    (isEmpty : Bool) {contents : List LayoutStep} (nested : Nested contents) :
    Nested (Dispatch.table dialect opening isEmpty contents) := by
  unfold Dispatch.table
  split
  next =>
    apply Nested.line
    unfold Dialect.null
    cases dialect.target <;> decide
  next => exact .block unbroken (by decide) nested

theorem nested_childSlot (dialect : Dialect) (code : UInt8) {tables : List LayoutStep}
    (nested : Nested tables) : Nested (Dispatch.childSlot dialect code tables) :=
  .block (OutlineReading.ends_childOpening dialect code).unbroken (by decide) nested

theorem nested_trieSteps (dialect : Dialect) {tables : List LayoutStep} (nested : Nested tables) :
    Nested (OutlineReading.preface dialect ++ (tables ++ [.closing "\x7d;"])) := by
  have guard : Nested
      (["#ifndef ASCII_SET", "#define ASCII_SET " ++ asciiCount.repr, "#endif"].map .line) :=
    .lines (by decide)
  have nodeType : Nested (dialect.nodeType.map .line) := .lines (nodeType_unbroken dialect)
  have opening : '\n' ∉ dialect.rootOpening.toList := by
    unfold Dialect.rootOpening
    cases dialect.target <;> decide
  have root : Nested (.opening dialect.rootOpening :: tables ++ [.closing "\x7d;"]) :=
    .block opening (by decide) nested
  have whole := guard.append (Nested.blank.append (nodeType.append (Nested.blank.append root)))
  simpa [OutlineReading.preface] using whole

/-! Outcomes. -/

theorem exists_ok_of_bind {ε α β : Type} {first : Except ε α} {next : α → Except ε β} {value : β}
    (outcome : first >>= next = .ok value) :
    ∃ middle, first = .ok middle ∧ next middle = .ok value := by
  cases first with
  | error cause => contradiction
  | ok middle => exact ⟨middle, rfl, outcome⟩

theorem exists_ok_of_mem_mapM {ε α β : Type} {f : α → Except ε β} {inputs : List α}
    {results : List β} (outcome : inputs.mapM f = .ok results) :
    ∀ result ∈ results, ∃ input ∈ inputs, f input = .ok result := by
  induction inputs generalizing results with
  | nil =>
    cases outcome
    exact List.forall_mem_nil _
  | cons input rest ih =>
    rw [List.mapM_cons] at outcome
    obtain ⟨first, here, later⟩ := exists_ok_of_bind outcome
    obtain ⟨others, rests, same⟩ := exists_ok_of_bind later
    cases same
    refine List.forall_mem_cons.2 ⟨⟨input, List.mem_cons_self, here⟩, fun result member => ?_⟩
    obtain ⟨source, listed, written⟩ := ih rests result member
    exact ⟨source, List.mem_cons_of_mem _ listed, written⟩

/-! Dialects and vocabularies without line feeds. -/

section

variable {dialect : Dialect} {vocabulary : Vocabulary} (oneLine : dialect.OneLine vocabulary)
include oneLine

theorem nested_stringTable {table : String} (tableUnbroken : '\n' ∉ table.toList)
    {slots : List (String × String)} (unbroken : ∀ slot ∈ slots, '\n' ∉ slot.1.toList) :
    Nested (stringTable dialect table slots) := by
  have count : '\n' ∉ dialect.count.toList := by
    have cpp : '\n' ∉ (dialect.index "NumTokens").toList := oneLine.index (by decide)
    unfold Dialect.count
    cases dialect.target <;> simp [cpp]
  have opening : '\n' ∉
      ("static const char *" ++ table ++ "[" ++ dialect.count ++ "] = \x7b").toList := by
    simp [tableUnbroken, count]
  rw [stringTable_eq]
  refine .block opening (by decide) (.lines (List.forall_mem_map.2 fun slot member => ?_))
  exact Dialect.slot_unbroken (oneLine.index (unbroken slot member))
    (Literal.string_unbroken slot.2).1

theorem nested_nameTables : Nested (nameTables dialect vocabulary) := by
  have named : ∀ declaration ∈ vocabulary.declarations, '\n' ∉ declaration.name.toList :=
    fun declaration declared => oneLine.names _ (List.mem_map_of_mem declared)
  have spellings : Nested (spellingTable dialect vocabulary) := by
    apply nested_stringTable oneLine (by decide)
    intro slot member
    obtain ⟨declaration, declared, name, _⟩ := vocabulary.mem_spellingSlots slot member
    exact name ▸ named declaration declared
  have names : Nested (nameTable dialect vocabulary) :=
    nested_stringTable oneLine (by decide) (List.forall_mem_map.2 named)
  exact (spellings.append .blank).append names

theorem nested_chain (chain : Chain) : Nested (chain.steps dialect vocabulary) := by
  have path := oneLine.kindPath
  have signature : '\n' ∉ dialect.chainSignature.toList := by
    unfold Dialect.chainSignature
    cases dialect.target <;> simp [path]
  have value : ∀ id, '\n' ∉ (dialect.kind (vocabulary.nameOf id)).toList := fun id =>
    oneLine.kind (oneLine.nameOf id)
  rw [Chain.steps_eq]
  refine .block signature (by decide) (.lines ?_)
  rw [Chain.bodyTexts, List.forall_mem_append, List.forall_mem_map, List.forall_mem_singleton]
  constructor
  · intro test _
    have literal := Literal.string_unbroken test.1
    unfold Dialect.testLine Dialect.equals
    cases dialect.target <;> simp [literal, value]
  · simp [value]

theorem nested_enumeratorList : Nested (enumeratorList dialect vocabulary) := by
  apply Nested.of_singletons
  refine List.forall_mem_map.2 fun declaration declared => .line ?_
  have name := oneLine.enumerator (oneLine.names _ (List.mem_map_of_mem declared))
  simp [name]

theorem nested_tokenSlot {slot : UInt8 × TokenId} {step : LayoutStep}
    (written : Dispatch.tokenSlot dialect vocabulary slot = .ok step) : Nested [step] := by
  unfold Dispatch.tokenSlot at written
  cases found : vocabulary.get? slot.2 with
  | none =>
    rw [found] at written
    contradiction
  | some declaration =>
    rw [found] at written
    cases written
    exact .line (Dialect.slot_unbroken (Literal.character_unbroken slot.1).1
      (OutlineReading.index_unbroken oneLine found))

/-- The tables of a node are nested as soon as those of its children are. -/
theorem nested_nodeSteps (trie : Trie) (index : Nat) {steps : List LayoutStep}
    (written : Dispatch.nodeSteps dialect vocabulary trie index = .ok steps) : Nested steps := by
  induction index using trie.below_induction generalizing steps with
  | step index ih =>
    rw [Dispatch.nodeSteps_eq, List.mapM_map] at written
    obtain ⟨tokenSlots, tokensWritten, rest⟩ := exists_ok_of_bind written
    obtain ⟨childSlots, childrenWritten, same⟩ := exists_ok_of_bind rest
    cases same
    have tokens : Nested tokenSlots := by
      refine .of_singletons fun step member => ?_
      obtain ⟨slot, _, slotWritten⟩ := exists_ok_of_mem_mapM tokensWritten step member
      exact nested_tokenSlot oneLine slotWritten
    have children : Nested childSlots.flatten := by
      refine .flatten fun block member => ?_
      obtain ⟨slot, listed, slotWritten⟩ := exists_ok_of_mem_mapM childrenWritten block member
      obtain ⟨tables, below, same⟩ := exists_ok_of_bind slotWritten
      cases same
      exact nested_childSlot dialect slot.1
        (ih slot.1 slot.2 ((trie.child?_eq_some_iff ..).2 listed) below)
    exact .append
      (nested_table dialect (OutlineReading.ends_tokensOpening dialect).unbroken _ tokens)
      (nested_table dialect (OutlineReading.ends_childrenOpening dialect).unbroken _ children)

end

/-- Everything that is emitted for a vocabulary can be written on the page where it stands: the
tables of every node that are written at all, those of a whole trie whenever the tables of its root
are, the name tables, every chain and the list of enumerators. -/
structure Page.TakesInEmission (page : Page) (dialect : Dialect) (vocabulary : Vocabulary) :
    Prop where
  node : ∀ trie index steps, Dispatch.nodeSteps dialect vocabulary trie index = .ok steps →
    page.TakesIn steps
  trie : ∀ trie tables, Dispatch.nodeSteps dialect vocabulary trie Trie.root = .ok tables →
    ∃ steps, Dispatch.trieSteps dialect vocabulary trie = .ok steps ∧ page.TakesIn steps
  nameTables : page.TakesIn (nameTables dialect vocabulary)
  chain : ∀ chain : Chain, page.TakesIn (chain.steps dialect vocabulary)
  enumerators : page.TakesIn (enumeratorList dialect vocabulary)

/-- What is emitted comes back to the level of the page, adds to its text what it writes on an empty
page, moved in by that level, and never lowers a level of zero. -/
theorem Page.takesIn_emission {dialect : Dialect} {vocabulary : Vocabulary}
    (oneLine : dialect.OneLine vocabulary) (page : Page) :
    page.TakesInEmission dialect vocabulary where
  node trie index _ written := (nested_nodeSteps oneLine trie index written).takesIn page
  trie trie _ written :=
    ⟨_, OutlineReading.trieSteps_eq written,
      (nested_trieSteps dialect (nested_nodeSteps oneLine trie Trie.root written)).takesIn page⟩
  nameTables := (nested_nameTables oneLine).takesIn page
  chain chain := (nested_chain oneLine chain).takesIn page
  enumerators := (nested_enumeratorList oneLine).takesIn page

/-- A token below a child, on a page that is two levels in and starts with a line. -/
theorem Page.takesIn_commaBelowQuote :
    Dialect.OneLine ⟨.cpp, "TOK_", "Token::Kind"⟩ quoteAndComma ∧
      ∃ steps, Dispatch.nodeSteps ⟨.cpp, "TOK_", "Token::Kind"⟩ quoteAndComma
          (Trie.empty.insertAll [([39, 44], .ofNat 1)]) Trie.root = .ok steps ∧
        Page.TakesIn ⟨2, "x\n"⟩ steps ∧
        (Page.writeAll ⟨2, "x\n"⟩ steps).text = "x\n" ++
          "        nullptr,\n" ++
          "        (const TokenSet[ASCII_SET])\x7b\n" ++
          "            ['\\''] = \x7b\n" ++
          "                (const int[ASCII_SET])\x7b\n" ++
          "                    [','] = (int)Token::Kind::Comma,\n" ++
          "                \x7d,\n" ++
          "                nullptr,\n" ++
          "            \x7d,\n" ++
          "        \x7d,\n" ∧
        Page.TakesInEmission ⟨2, "x\n"⟩ ⟨.cpp, "TOK_", "Token::Kind"⟩ quoteAndComma := by
  have oneLine : Dialect.OneLine ⟨.cpp, "TOK_", "Token::Kind"⟩ quoteAndComma :=
    ⟨by decide, by decide, by decide⟩
  have steps : Dispatch.nodeSteps ⟨.cpp, "TOK_", "Token::Kind"⟩ quoteAndComma
      (Trie.empty.insertAll [([39, 44], .ofNat 1)]) Trie.root =
        .ok [.line "nullptr,",
          .opening "(const TokenSet[ASCII_SET])\x7b",
          .opening "['\\''] = \x7b",
          .opening "(const int[ASCII_SET])\x7b",
          .line "[','] = (int)Token::Kind::Comma,",
          .closing "\x7d,",
          .line "nullptr,",
          .closing "\x7d,",
          .closing "\x7d,"] := by
    cbv
  have takesIn := Page.takesIn_emission oneLine ⟨2, "x\n"⟩
  exact ⟨oneLine, _, steps, takesIn.node _ _ _ steps, by decide +kernel, takesIn⟩

end TokenTables
