import Mathlib
import TokenTables.Emit.Dispatch
import TokenTables.Emit.NameTables
import TokenTables.Proofs.Text.LiteralReading
import TokenTables.Proofs.Trie.Arena

/-!
Generated tables read back from their text. The text is cut at its line feeds, and a line counts
without its indentation. A line that ends in a comma is a null table, a slot with the name of a
token, or closes a block; a line that ends in a brace opens one.

The lines are read from the last to the first, as the steps are that C tables are read from: the
levels are the blocks that are open at a line, the innermost first, each with what stands in it
after the line.
-/

namespace TokenTables

/-- What the text of a node says: its two tables, each with its slots in the order of the text. None
is a null table. -/
inductive Outline
  | node (tokens : Option (List (UInt8 × String))) (children : Option (List (UInt8 × Outline)))

namespace Outline

/-- Every table that is not null has slots, and its codes ascend, here and further down. -/
inductive InOrder : Outline → Prop
  | node {tokens : Option (List (UInt8 × String))} {children : Option (List (UInt8 × Outline))}
    (tokens_ne_nil : ∀ slots ∈ tokens, slots ≠ [])
    (tokens_ascend : ∀ slots ∈ tokens, slots.Pairwise fun first second => first.1 < second.1)
    (children_ne_nil : ∀ slots ∈ children, slots ≠ [])
    (children_ascend : ∀ slots ∈ children, slots.Pairwise fun first second => first.1 < second.1)
    (below : ∀ slots ∈ children, ∀ slot ∈ slots, slot.2.InOrder) : InOrder (.node tokens children)

def table? {α : Type} (slots : List α) : Option (List α) :=
  if slots.isEmpty then none else some slots

/-- The slots of a node collected code by code, a token before what continues it. -/
def collect (tokens : List (UInt8 × String)) (below : List (UInt8 × List (List UInt8 × String))) :
    List (List UInt8 × String) :=
  Trie.asciiCodes.flatMap fun code =>
    ((tokens.lookup code).map fun name => ([code], name)).toList ++
      ((below.lookup code).getD []).map fun (codes, name) => (code :: codes, name)

mutual

def spellings : Outline → List (List UInt8 × String)
  | .node tokens none => collect (tokens.getD []) []
  | .node tokens (some slots) => collect (tokens.getD []) (slotSpellings slots)

def slotSpellings : List (UInt8 × Outline) → List (UInt8 × List (List UInt8 × String))
  | [] => []
  | (code, child) :: rest => (code, child.spellings) :: slotSpellings rest

end

end Outline

def Dialect.indexLead (dialect : Dialect) : String := dialect.index ""

def Dialect.childLead (dialect : Dialect) : String :=
  match dialect.target with
  | .c => "(const struct _token_set_t[1])\x7b"
  | .cpp => "\x7b"

namespace OutlineReading

def stripLead (lead : String) (text : List Char) : Option (List Char) :=
  if lead.toList <+: text then some (text.drop lead.toList.length) else none

def stripComma (text : List Char) : Option String :=
  if text.getLast? = some ',' then some (String.ofList text.dropLast) else none

def designated? (text : String) : Option (UInt8 × List Char) := do
  let (code, rest) ← Literal.readCharacter (← stripLead "[" text.toList)
  guard (isAscii code)
  return (code, ← stripLead "] = " rest)

def pageLines (text : List Char) : List (List Char) := (text.splitOn '\n').dropLast

inductive Item
  | null
  | token (code : UInt8) (name : String)
  | child (code : UInt8) (node : Outline)
  | tokens (table : List (UInt8 × String))
  | children (table : List (UInt8 × Outline))

namespace Item

def token? : Item → Option (UInt8 × String)
  | token code name => some (code, name)
  | _ => none

def child? : Item → Option (UInt8 × Outline)
  | child code node => some (code, node)
  | _ => none

def tokens? : Item → Option (Option (List (UInt8 × String)))
  | null => some none
  | tokens table => some (some table)
  | _ => none

def children? : Item → Option (Option (List (UInt8 × Outline)))
  | null => some none
  | children table => some (some table)
  | _ => none

end Item

def node? : List Item → Option Outline
  | [first, second] => do return .node (← first.tokens?) (← second.children?)
  | _ => none

def lineItem? (dialect : Dialect) (text : String) : Option Item :=
  match designated? text with
  | some (code, rest) => do
    let name ← stripLead dialect.indexLead (← stripComma rest).toList
    return .token code (String.ofList name)
  | none => if text = dialect.null ++ "," then some .null else none

def blockItem? (dialect : Dialect) (text : String) (contents : List Item) : Option Item :=
  match designated? text with
  | some (code, rest) =>
    if rest = dialect.childLead.toList then (node? contents).map (.child code) else none
  | none =>
    if text = dialect.tokensOpening then (contents.mapM Item.token?).map .tokens
    else if text = dialect.childrenOpening then (contents.mapM Item.child?).map .children
    else none

def readText (dialect : Dialect) (text : String) (levels : List (List Item)) :
    Option (List (List Item)) :=
  if text = "\x7d," then some ([] :: levels)
  else
    match text.toList.getLast?, levels with
    | some ',', items :: levels =>
      (lineItem? dialect text).map fun item => (item :: items) :: levels
    | some '\x7b', contents :: items :: levels =>
      (blockItem? dialect text contents).map fun item => (item :: items) :: levels
    | _, _ => none

def readLines (dialect : Dialect) (lines : List (List Char)) (levels : List (List Item)) :
    Option (List (List Item)) :=
  lines.foldr (fun line later =>
    later.bind (readText dialect (String.ofList (line.dropWhile (· == ' '))))) (some levels)

def readNodeLines (dialect : Dialect) (lines : List (List Char)) : Option Outline := do
  match ← readLines dialect lines [[]] with
  | [items] => node? items
  | _ => none

def readNode? (dialect : Dialect) (text : String) : Option Outline :=
  readNodeLines dialect (pageLines text.toList)

def preface (dialect : Dialect) : List LayoutStep :=
  .line "#ifndef ASCII_SET" ::
    .line ("#define ASCII_SET " ++ asciiCount.repr) ::
    .line "#endif" ::
    .blank ::
    (dialect.nodeType.map LayoutStep.line ++ [.blank, .opening dialect.rootOpening])

def readTrie? (dialect : Dialect) (text : String) : Option Outline := do
  let lines := pageLines (← stripLead (layOut (preface dialect)) text.toList)
  guard (lines.getLast? = some "\x7d;".toList)
  readNodeLines dialect lines.dropLast

/-! What stands first and last on a line. -/

theorem stripLead_append (lead : String) (rest : List Char) :
    stripLead lead (lead.toList ++ rest) = some rest := by
  rw [stripLead, if_pos (List.prefix_append ..), List.drop_left]

theorem stripComma_append (text : String) : stripComma (text ++ ",").toList = some text := by
  have last : (text ++ ",").toList = text.toList ++ [','] := String.toList_append ..
  rw [stripComma, last, if_pos List.getLast?_concat, List.dropLast_concat, String.ofList_toList]

theorem designated?_key {code : UInt8} (ascii : isAscii code = true) (rest : String) :
    designated? ("[" ++ Literal.character code ++ "] = " ++ rest) = some (code, rest.toList) := by
  have text : ("[" ++ Literal.character code ++ "] = " ++ rest).toList =
      "[".toList ++ ((Literal.character code).toList ++ ("] = ".toList ++ rest.toList)) := by
    simp only [String.toList_append, List.append_assoc]
  simp only [designated?, text, stripLead_append, Option.bind_eq_bind, Option.bind_some,
    Literal.readCharacter_character, ascii, guard_true, Option.pure_def]

/-! Lines of a page. -/

def pageText (lines : List (List Char)) : List Char := lines.flatMap (· ++ ['\n'])

theorem splitOn_pageText {lines : List (List Char)} (unbroken : ∀ line ∈ lines, '\n' ∉ line) :
    (pageText lines).splitOn '\n' = lines ++ [[]] := by
  induction lines with
  | nil => rfl
  | cons line rest ih =>
    have both := List.forall_mem_cons.1 unbroken
    rw [pageText, List.flatMap_cons, List.append_assoc, List.singleton_append,
      List.splitOn_append_cons_self_of_not_mem both.1]
    exact congrArg (line :: ·) (ih both.2)

theorem pageLines_pageText {lines : List (List Char)} (unbroken : ∀ line ∈ lines, '\n' ∉ line) :
    pageLines (pageText lines) = lines := by
  rw [pageLines, splitOn_pageText unbroken, List.dropLast_concat]

theorem pageText_append (first second : List (List Char)) :
    pageText (first ++ second) = pageText first ++ pageText second :=
  List.flatMap_append ..

def indented (level : Nat) (text : String) : List Char := (Page.indentation level ++ text).toList

theorem dropWhile_indented (level : Nat) {text : String} (start : text.toList.head? ≠ some ' ') :
    (indented level text).dropWhile (· == ' ') = text.toList := by
  rw [indented, String.toList_append, Page.indentation, String.toList_ofList]
  induction 4 * level with
  | zero =>
    cases whole : text.toList with
    | nil => rfl
    | cons first rest =>
      have apart : first ≠ ' ' := fun same => start (by rw [whole, same, List.head?_cons])
      simp [apart]
  | succ count ih => exact ih

theorem indented_unbroken (level : Nat) {text : String} (unbroken : '\n' ∉ text.toList) :
    '\n' ∉ indented level text := by
  rw [indented, String.toList_append, List.mem_append, Page.indentation, String.toList_ofList,
    not_or]
  have blanks : '\n' ∉ List.replicate (4 * level) ' ' := by
    intro inside
    exact absurd (List.eq_of_mem_replicate inside) (by decide)
  exact ⟨blanks, unbroken⟩

structure Ends (text : String) (last : Char) : Prop where
  unbroken : '\n' ∉ text.toList
  start : text.toList.head? ≠ some ' '
  last : text.toList.getLast? = some last

theorem Ends.writeLine {text : String} {last : Char} (ends : Ends text last) (page : Page) :
    page.writeLine text =
      ⟨page.level, page.text ++ String.ofList (pageText [indented page.level text])⟩ := by
  have visible : text.isEmpty = false := by
    rw [Bool.eq_false_iff, ne_eq, String.isEmpty_iff]
    intro nothing
    have last := ends.last
    rw [nothing] at last
    contradiction
  have line : String.ofList (pageText [indented page.level text]) =
      Page.indentation page.level ++ text ++ "\n" := by
    rw [pageText, List.flatMap_singleton, String.ofList_append, indented, String.ofList_toList]
  rw [Page.writeLine, visible, line]
  simp only [Bool.false_eq_true, if_false, String.append_assoc]

theorem Ends.line_unbroken {text : String} {last : Char} (ends : Ends text last) (level : Nat) :
    '\n' ∉ indented level text :=
  indented_unbroken level ends.unbroken

/-! Blocks. -/

variable {dialect : Dialect}

/-- Writing these steps on any page and reading what is written adds these items to the innermost
level. -/
def Reads (dialect : Dialect) (steps : List LayoutStep) (items : List Item) : Prop :=
  ∀ page : Page, ∃ lines : List (List Char), (∀ line ∈ lines, '\n' ∉ line) ∧
    page.writeAll steps = ⟨page.level, page.text ++ String.ofList (pageText lines)⟩ ∧
    ∀ later levels, readLines dialect lines (later :: levels) = some ((items ++ later) :: levels)

theorem readLines_append (first second : List (List Char)) (levels : List (List Item)) :
    readLines dialect (first ++ second) levels =
      (readLines dialect second levels).bind (readLines dialect first) := by
  induction first with
  | nil => exact (Option.bind_fun_some _).symm
  | cons line rest ih =>
    change (readLines dialect (rest ++ second) levels).bind _ = _
    rw [ih, Option.bind_assoc]
    rfl

theorem readLines_line {text : String} {last : Char} (ends : Ends text last) (level : Nat)
    (levels : List (List Item)) :
    readLines dialect [indented level text] levels = readText dialect text levels := by
  rw [readLines, List.foldr_cons, List.foldr_nil, Option.bind_some,
    dropWhile_indented level ends.start, String.ofList_toList]

theorem Reads.nil : Reads dialect [] [] := fun page =>
  ⟨[], by simp, by simp [Page.writeAll, pageText], fun _ _ => rfl⟩

theorem Reads.append {first second : List LayoutStep} {before after : List Item}
    (left : Reads dialect first before) (right : Reads dialect second after) :
    Reads dialect (first ++ second) (before ++ after) := by
  intro page
  rcases left page with ⟨firstLines, firstUnbroken, firstWritten, firstRead⟩
  rcases right (page.writeAll first) with ⟨secondLines, secondUnbroken, secondWritten, secondRead⟩
  refine ⟨firstLines ++ secondLines, List.forall_mem_append.2 ⟨firstUnbroken, secondUnbroken⟩,
    ?_, ?_⟩
  · have whole : page.writeAll (first ++ second) = (page.writeAll first).writeAll second :=
      List.foldl_append ..
    rw [whole, secondWritten, firstWritten, pageText_append, String.ofList_append,
      String.append_assoc]
  · intro later levels
    rw [readLines_append, secondRead, Option.bind_some, firstRead, List.append_assoc]

theorem Reads.line {text : String} {item : Item} (ends : Ends text ',') (content : text ≠ "\x7d,")
    (read : lineItem? dialect text = some item) : Reads dialect [.line text] [item] := by
  intro page
  have written : page.writeAll [.line text] = page.writeLine text := rfl
  refine ⟨[indented page.level text], List.forall_mem_singleton.2 (ends.line_unbroken _), ?_, ?_⟩
  · rw [written, ends.writeLine]
  · intro later levels
    simp only [readLines_line ends, readText, if_neg content, ends.last, read, Option.map_some]
    rfl

theorem readText_opening {opening : String} {items : List Item} {item : Item}
    (ends : Ends opening '\x7b') (read : blockItem? dialect opening items = some item)
    (later : List Item) (levels : List (List Item)) :
    readText dialect opening (items :: later :: levels) = some ((item :: later) :: levels) := by
  have content : opening ≠ "\x7d," := by
    intro same
    have last := ends.last
    rw [same] at last
    contradiction
  simp only [readText, if_neg content, ends.last, read, Option.map_some]

theorem Reads.block {opening : String} {steps : List LayoutStep} {items : List Item} {item : Item}
    (ends : Ends opening '\x7b') (contents : Reads dialect steps items)
    (read : blockItem? dialect opening items = some item) :
    Reads dialect (.opening opening :: steps ++ [.closing "\x7d,"]) [item] := by
  have closing : Ends "\x7d," ',' := ⟨by decide, by decide, by decide⟩
  intro page
  rcases contents (page.writeLine opening).indent with ⟨lines, unbroken, written, readContents⟩
  refine ⟨[indented page.level opening] ++ (lines ++ [indented page.level "\x7d,"]), ?_, ?_, ?_⟩
  · simp only [List.forall_mem_append, List.forall_mem_singleton]
    exact ⟨ends.line_unbroken _, unbroken, closing.line_unbroken _⟩
  · have whole : page.writeAll (.opening opening :: steps ++ [.closing "\x7d,"]) =
        ((page.writeLine opening).indent.writeAll steps).dedent.writeLine "\x7d," := by
      simp [Page.writeAll, Page.write]
    rw [whole, written, ends.writeLine]
    simp only [Page.indent, Page.dedent, closing.writeLine, Nat.add_sub_cancel, pageText_append,
      String.ofList_append, String.append_assoc]
  · intro later levels
    -- From the last line to the first: the closing line opens a level for the contents, and the
    -- opening line turns that level into one item.
    have closed : readText dialect "\x7d," (later :: levels) = some ([] :: later :: levels) := rfl
    rw [readLines_append, readLines_append, readLines_line closing, closed, Option.bind_some,
      readContents, List.append_nil, Option.bind_some, readLines_line ends,
      readText_opening ends read, List.singleton_append]

/-! Single lines. -/

theorem escape_unbroken (code : UInt8) : '\n' ∉ Literal.escape '\'' code :=
  (Literal.unbroken_of_printable (Literal.escape_printable (by decide) code)).1

theorem key_toList (code : UInt8) (rest : String) :
    ("[" ++ Literal.character code ++ "] = " ++ rest).toList =
      "['".toList ++ (Literal.escape '\'' code ++ ("'] = ".toList ++ rest.toList)) := by
  simp [String.toList_append, Literal.character]

theorem ends_key (code : UInt8) {rest : String} {last : Char} (unbroken : '\n' ∉ rest.toList)
    (ends : rest.toList.getLast? = some last) :
    Ends ("[" ++ Literal.character code ++ "] = " ++ rest) last where
  unbroken := by
    rw [key_toList]
    simp only [List.mem_append, not_or]
    exact ⟨by decide, escape_unbroken code, by decide, unbroken⟩
  start := by
    rw [key_toList]
    simp
  last := by
    rw [key_toList, ← List.append_assoc, ← List.append_assoc, List.getLast?_append, ends]
    rfl

theorem index_eq (dialect : Dialect) (name : String) :
    dialect.index name = dialect.indexLead ++ name := by
  unfold Dialect.indexLead Dialect.index Dialect.kind Dialect.enumerator
  cases dialect.target <;> simp [String.append_assoc]

theorem slot_eq (key value : String) :
    Dialect.slot key value = "[" ++ key ++ "] = " ++ (value ++ ",") := by
  simp only [Dialect.slot, String.append_assoc]

theorem childOpening_eq (dialect : Dialect) (key : String) :
    dialect.childOpening key = "[" ++ key ++ "] = " ++ dialect.childLead := by
  have literal : "] = (const struct _token_set_t[1])\x7b" =
      "] = " ++ "(const struct _token_set_t[1])\x7b" := by decide
  have braced : "] = \x7b" = "] = " ++ "\x7b" := by decide
  unfold Dialect.childOpening Dialect.childLead
  cases dialect.target with
  | c => simp only [literal, String.append_assoc]
  | cpp => simp only [braced, String.append_assoc]

theorem lineItem?_slot {code : UInt8} (ascii : isAscii code = true) (name : String) :
    lineItem? dialect (Dialect.slot (Literal.character code) (dialect.index name)) =
      some (.token code name) := by
  rw [slot_eq, lineItem?, designated?_key ascii]
  simp only [stripComma_append, Option.bind_eq_bind, Option.bind_some]
  rw [index_eq, String.toList_append, stripLead_append, Option.bind_some,
    String.ofList_toList]
  rfl

theorem reads_slot {code : UInt8} {name : String} (ascii : isAscii code = true)
    (unbroken : '\n' ∉ (dialect.index name).toList) :
    Reads dialect [.line (Dialect.slot (Literal.character code) (dialect.index name))]
      [.token code name] := by
  apply Reads.line _ _ (lineItem?_slot ascii name)
  · rw [slot_eq]
    apply ends_key
    · simpa using unbroken
    · simp
  · rw [slot_eq]
    intro same
    have texts := congrArg String.toList same
    rw [key_toList] at texts
    simp at texts

theorem reads_null (dialect : Dialect) : Reads dialect [.line (dialect.null ++ ",")] [.null] := by
  have plain : Ends (dialect.null ++ ",") ',' ∧ dialect.null ++ "," ≠ "\x7d," ∧
      designated? (dialect.null ++ ",") = none := by
    unfold Dialect.null
    cases dialect.target with
    | c => exact ⟨⟨by decide, by decide, by decide⟩, by decide, by decide⟩
    | cpp => exact ⟨⟨by decide, by decide, by decide⟩, by decide, by decide⟩
  apply Reads.line plain.1 plain.2.1
  simp only [lineItem?, plain.2.2, if_true]

/-! The tables of a node. -/

theorem ends_tokensOpening (dialect : Dialect) : Ends dialect.tokensOpening '\x7b' :=
  ⟨by simp [Dialect.tokensOpening], by simp [Dialect.tokensOpening],
    by simp [Dialect.tokensOpening]⟩

theorem ends_childrenOpening (dialect : Dialect) : Ends dialect.childrenOpening '\x7b' := by
  unfold Dialect.childrenOpening
  cases dialect.target with
  | c => exact ⟨by decide, by decide, by decide⟩
  | cpp => exact ⟨by decide, by decide, by decide⟩

theorem ends_childOpening (dialect : Dialect) (code : UInt8) :
    Ends (dialect.childOpening (Literal.character code)) '\x7b' := by
  rw [childOpening_eq]
  unfold Dialect.childLead
  cases dialect.target with
  | c => exact ends_key code (by decide) (by decide)
  | cpp => exact ends_key code (by decide) (by decide)

theorem blockItem?_tokens (dialect : Dialect) (slots : List (UInt8 × String)) :
    blockItem? dialect dialect.tokensOpening (slots.map fun slot => .token slot.1 slot.2) =
      some (.tokens slots) := by
  have plain : designated? dialect.tokensOpening = none := by
    unfold Dialect.tokensOpening
    decide
  have names : (slots.map fun slot => Item.token slot.1 slot.2).mapM Item.token? = some slots := by
    rw [List.mapM_map]
    exact List.mapM_pure.trans (congrArg some (List.map_id slots))
  simp only [blockItem?, plain, if_true, names, Option.map_some]

theorem blockItem?_children (dialect : Dialect) (slots : List (UInt8 × Outline)) :
    blockItem? dialect dialect.childrenOpening (slots.map fun slot => .child slot.1 slot.2) =
      some (.children slots) := by
  have plain : designated? dialect.childrenOpening = none ∧
      dialect.childrenOpening ≠ dialect.tokensOpening := by
    unfold Dialect.childrenOpening Dialect.tokensOpening
    cases dialect.target with
    | c => exact ⟨by decide, by decide⟩
    | cpp => exact ⟨by decide, by decide⟩
  have nodes : (slots.map fun slot => Item.child slot.1 slot.2).mapM Item.child? = some slots := by
    rw [List.mapM_map]
    exact List.mapM_pure.trans (congrArg some (List.map_id slots))
  simp only [blockItem?, plain.1, if_neg plain.2, if_true, nodes, Option.map_some]

def fields : Outline → List Item
  | .node tokens children => [tokens.elim .null .tokens, children.elim .null .children]

theorem node?_fields (node : Outline) : node? (fields node) = some node := by
  rcases node with ⟨tokens, children⟩
  cases tokens <;> cases children <;> rfl

theorem reads_child {code : UInt8} (ascii : isAscii code = true) {steps : List LayoutStep}
    {node : Outline} (contents : Reads dialect steps (fields node)) :
    Reads dialect (Dispatch.childSlot dialect code steps) [.child code node] := by
  apply Reads.block (ends_childOpening dialect code) contents
  rw [childOpening_eq, blockItem?, designated?_key ascii]
  simp only [if_true, node?_fields, Option.map_some]

theorem Reads.table {α : Type} {opening : String} {steps : List LayoutStep} {items : List Item}
    {slots : List α} {item : List α → Item} (ends : Ends opening '\x7b')
    (contents : Reads dialect steps items)
    (read : blockItem? dialect opening items = some (item slots)) :
    Reads dialect (Dispatch.table dialect opening slots.isEmpty steps)
      [(Outline.table? slots).elim .null item] := by
  unfold Dispatch.table Outline.table?
  split
  next => exact reads_null dialect
  next => exact contents.block ends read

/-! A whole text. -/

theorem level_writeLine (page : Page) (text : String) :
    (page.writeLine text).level = page.level := by
  unfold Page.writeLine
  split <;> rfl

theorem readNode?_layOut {steps : List LayoutStep} {node : Outline}
    (contents : Reads dialect steps (fields node)) :
    readNode? dialect (layOut steps) = some node := by
  rcases contents {} with ⟨lines, unbroken, written, read⟩
  have text : (layOut steps).toList = pageText lines := by
    rw [layOut, written]
    simp
  rw [readNode?, text, pageLines_pageText unbroken]
  simp only [readNodeLines, read, List.append_nil, Option.bind_eq_bind, Option.bind_some,
    node?_fields]

theorem readTrie?_layOut {tables : List LayoutStep} {node : Outline}
    (contents : Reads dialect tables (fields node)) :
    readTrie? dialect (layOut (preface dialect ++ (tables ++ [.closing "\x7d;"]))) =
      some node := by
  have ends : Ends "\x7d;" ';' := ⟨by decide, by decide, by decide⟩
  have level : (Page.writeAll {} (preface dialect)).level = 1 := by
    unfold preface Dialect.nodeType
    cases dialect.target <;> simp [Page.writeAll, Page.write, Page.indent, level_writeLine]
  rcases contents (Page.writeAll {} (preface dialect)) with ⟨lines, unbroken, written, read⟩
  have text : (layOut (preface dialect ++ (tables ++ [.closing "\x7d;"]))).toList =
      (layOut (preface dialect)).toList ++ pageText (lines ++ ["\x7d;".toList]) := by
    have whole : Page.writeAll {} (preface dialect ++ (tables ++ [.closing "\x7d;"])) =
        (((Page.writeAll {} (preface dialect)).writeAll tables).dedent).writeLine "\x7d;" := by
      simp [Page.writeAll, Page.write]
    have flush : indented 0 "\x7d;" = "\x7d;".toList := by decide
    rw [layOut, whole, written, Page.dedent, ends.writeLine, level, flush, pageText_append]
    simp [layOut]
  have closed : ∀ line ∈ lines ++ ["\x7d;".toList], '\n' ∉ line := by
    rw [List.forall_mem_append, List.forall_mem_singleton]
    exact ⟨unbroken, ends.unbroken⟩
  simp only [readTrie?, text, stripLead_append, pageLines_pageText closed,
    List.getLast?_concat, List.dropLast_concat, guard_true, readNodeLines, read, List.append_nil,
    Option.bind_eq_bind, Option.bind_some, Option.pure_def, node?_fields]

end OutlineReading

end TokenTables
