import TokenTables.Proofs.Emit.Statement

/-!
What the lines of a generated file say, whatever the target. A line is read without its indentation.
It is told by its first characters how it goes on: with a header, a character key, the index of a
token, the name of a table, a test or a value. Every other line is one of a few fixed ones.
-/

namespace TokenTables

/-- What a line says, of texts by their bytes and of tokens by their names. -/
inductive Line
  | blank
  /-- A line that is the same in every file. -/
  | plain (text : String)
  /-- A header that is included: the file, or none for the one that comparisons need. -/
  | inclusion (file : Option String)
  /-- Opens a table of strings. Its size is the number of tokens, which is no token itself. -/
  | strings (table : String)
  | root
  | tokens
  | children
  | null
  /-- The string in the slot of a token. -/
  | text (name : String) (bytes : List UInt8)
  /-- The token in the slot of a character. -/
  | token (code : UInt8) (name : String)
  | child (code : UInt8)
  | test (literal : List UInt8) (name : String)
  | result (name : String)
  | closing (text : String)
  deriving DecidableEq

namespace Line

def name? : Line → Option String
  | text name _ => some name
  | token _ name => some name
  | test _ name => some name
  | result name => some name
  | _ => none

end Line

open OutlineReading (stripLead stripLead_append stripComma stripComma_append)

namespace Dialect

def fixedLines (dialect : Dialect) : List (String × Line) :=
  [("/* Auto Generated File */", .plain "/* Auto Generated File */"),
    ("#ifndef ASCII_SET", .plain "#ifndef ASCII_SET"),
    ("#define ASCII_SET 128", .plain "#define ASCII_SET 128"),
    ("#endif", .plain "#endif"),
    (dialect.rootOpening, .root),
    (dialect.tokensOpening, .tokens),
    (dialect.childrenOpening, .children),
    (dialect.null ++ ",", .null),
    ("\x7d", .closing "\x7d"),
    ("\x7d,", .closing "\x7d,"),
    ("\x7d;", .closing "\x7d;")]

def cast (dialect : Dialect) : String :=
  match dialect.target with
  | .c => ""
  | .cpp => "(int)"

def leads (dialect : Dialect) : List String :=
  ["#include ", "[", "static const char *", dialect.testLead, "return "]

end Dialect

namespace LineReading

def comparisonHeaders : List String := ["<string.h>", "<string_view>"]

def readInclusion? (text : List Char) : Option Line :=
  (stripLead "#include " text).map fun file =>
    if String.ofList file ∈ comparisonHeaders then .inclusion none
    else .inclusion (some (String.ofList file))

def readKey? (text : List Char) : Option (UInt8 × List Char) := do
  let (code, rest) ← Literal.readCharacter (← stripLead "[" text)
  return (code, ← stripLead "] = " rest)

def readKeyed? (dialect : Dialect) (text : List Char) : Option Line := do
  let (code, value) ← readKey? text
  if value = dialect.childLead.toList then return .child code
  let name ← stripComma (← stripLead dialect.indexLead value)
  guard (IsWord name)
  return .token code name

def readText? (dialect : Dialect) (text : List Char) : Option Line := do
  let slot ← stripLead dialect.indexLead (← stripLead "[" text)
  let (bytes, after) ← Literal.readString (← stripLead "] = " (slot.dropWhile isWordChar))
  guard (after = [','])
  return .text (String.ofList (slot.takeWhile isWordChar)) bytes

def readTable? (dialect : Dialect) (text : List Char) : Option Line := do
  let table ← stripLead "static const char *" text
  guard (table.dropWhile isWordChar = ("[" ++ dialect.count ++ "] = \x7b").toList)
  return .strings (String.ofList (table.takeWhile isWordChar))

def readToken? (dialect : Dialect) (value : String) : Option String := do
  let name ← stripLead dialect.kindLead value.toList
  guard (IsWord (String.ofList name))
  return String.ofList name

def readStatement? (dialect : Dialect) (text : List Char) : Option Line := do
  match ← Statement.read? dialect text with
  | .test literal value => return .test literal (← readToken? dialect value)
  | .result value => return .result (← readToken? dialect value)

def readContent? (dialect : Dialect) (text : List Char) : Option Line :=
  if text = [] then some .blank
  else readInclusion? text <|> readKeyed? dialect text <|> readText? dialect text <|>
    readTable? dialect text <|> readStatement? dialect text <|>
    dialect.fixedLines.lookup (String.ofList text)

end LineReading

def readLine? (dialect : Dialect) (line : List Char) : Option Line :=
  LineReading.readContent? dialect (Layout.content line)

/-- A text that says this on a line of its own, at any level. -/
structure Tells (dialect : Dialect) (text : String) (line : Line) : Prop where
  solid : Layout.Solid text
  read : LineReading.readContent? dialect text.toList = some line

theorem Tells.readLine?_atLevel {dialect : Dialect} {text : String} {line : Line}
    (tells : Tells dialect text line) (level : Nat) :
    readLine? dialect (LayoutStep.atLevel level text) = some line := by
  rw [readLine?, tells.solid.content_atLevel, tells.read]

theorem readLine?_blank (dialect : Dialect) : readLine? dialect [] = some .blank := rfl

/-! Which part a line is read by. -/

namespace LineReading

variable {dialect : Dialect}

theorem readInclusion?_eq_none {text : List Char} (other : ¬ "#include ".toList <+: text) :
    readInclusion? text = none := by
  rw [readInclusion?, stripLead_eq_none other]
  rfl

theorem readKeyed?_eq_none {text : List Char} (other : ¬ "[".toList <+: text) :
    readKeyed? dialect text = none := by
  rw [readKeyed?, readKey?, stripLead_eq_none other]
  rfl

theorem readText?_eq_none {text : List Char} (other : ¬ "[".toList <+: text) :
    readText? dialect text = none := by
  rw [readText?, stripLead_eq_none other]
  rfl

theorem readTable?_eq_none {text : List Char} (other : ¬ "static const char *".toList <+: text) :
    readTable? dialect text = none := by
  rw [readTable?, stripLead_eq_none other]
  rfl

theorem readStatement?_eq_none {text : List Char} (test : ¬ dialect.testLead.toList <+: text)
    (result : ¬ "return ".toList <+: text) : readStatement? dialect text = none := by
  rw [readStatement?, Statement.read?, Statement.readTest?, Statement.readResult?,
    stripLead_eq_none test, stripLead_eq_none result]
  rfl

theorem readContent?_fixed {text : String} (visible : text.toList ≠ [])
    (other : ∀ lead ∈ dialect.leads, ¬ lead.toList <+: text.toList) :
    readContent? dialect text.toList = dialect.fixedLines.lookup text := by
  simp only [Dialect.leads, List.forall_mem_cons] at other
  obtain ⟨inclusion, slot, table, test, result, _⟩ := other
  rw [readContent?, if_neg visible, readInclusion?_eq_none inclusion, readKeyed?_eq_none slot,
    readText?_eq_none slot, readTable?_eq_none table, readStatement?_eq_none test result,
    String.ofList_toList]
  rfl

end LineReading

open LineReading

variable {dialect : Dialect}

/-- The fixed lines are told from each other and from the lines that are read by their parts. -/
theorem tells_fixed {text : String} {line : Line}
    (listed : (text, line) ∈ dialect.fixedLines) : Tells dialect text line := by
  have each : ∀ target, ∀ entry ∈ Dialect.fixedLines ⟨target, "", ""⟩,
      '\n' ∉ entry.1.toList ∧ entry.1.toList.head?.any (· != ' ') = true ∧ entry.1.toList ≠ [] ∧
        (∀ lead ∈ Dialect.leads ⟨target, "", ""⟩, ¬ lead.toList <+: entry.1.toList) ∧
        (Dialect.fixedLines ⟨target, "", ""⟩).lookup entry.1 = some entry.2 := by
    intro target
    cases target <;> decide +kernel
  obtain ⟨unbroken, start, visible, other, found⟩ := each dialect.target (text, line) listed
  have read : readContent? dialect text.toList = dialect.fixedLines.lookup text :=
    readContent?_fixed visible other
  exact ⟨⟨unbroken, start⟩, read.trans found⟩

/-! Headers. -/

theorem tells_inclusion {file : String} (unbroken : '\n' ∉ file.toList) :
    Tells dialect ("#include " ++ file)
      (if file ∈ comparisonHeaders then .inclusion none else .inclusion (some file)) where
  solid := by
    have lead : Layout.Solid "#include " := ⟨by decide, by decide⟩
    exact lead.append unbroken
  read := by
    have visible : ("#include " ++ file).toList ≠ [] := by simp
    rw [readContent?, if_neg visible, readInclusion?, String.toList_append, stripLead_append,
      Option.map_some, String.ofList_toList]
    rfl

/-! Slots of characters. -/

theorem readContent?_slot {text : List Char} (bracket : text.head? = some '[') {line : Line}
    (read : (readKeyed? dialect text <|> readText? dialect text) = some line) :
    readContent? dialect text = some line := by
  have visible : text ≠ [] := by
    intro nothing
    rw [nothing] at bracket
    contradiction
  have inclusion : ¬ "#include ".toList <+: text :=
    not_lead '#' (by decide) (by rw [bracket]; decide)
  rw [readContent?, if_neg visible, readInclusion?_eq_none inclusion]
  rcases (Option.orElse_eq_some _ _ _).1 read with keyed | ⟨other, string⟩
  · rw [keyed]
    rfl
  · rw [other, string]
    rfl

theorem readKey?_key (code : UInt8) (rest : String) :
    readKey? ("[" ++ Literal.character code ++ "] = " ++ rest).toList =
      some (code, rest.toList) := by
  have text : ("[" ++ Literal.character code ++ "] = " ++ rest).toList =
      "[".toList ++ ((Literal.character code).toList ++ ("] = ".toList ++ rest.toList)) := by
    simp only [String.toList_append, List.append_assoc]
  simp only [readKey?, text, stripLead_append, Option.bind_eq_bind, Option.bind_some,
    Literal.readCharacter_character]
  rfl

theorem solid_key (code : UInt8) {rest : String} (unbroken : '\n' ∉ rest.toList) :
    Layout.Solid ("[" ++ Literal.character code ++ "] = " ++ rest) := by
  have bracket : Layout.Solid "[" := ⟨by decide, by decide⟩
  have key : '\n' ∉ (Literal.character code).toList :=
    (Literal.character_unbroken code).1
  simp only [String.append_assoc]
  apply bracket.append
  simp [key, unbroken]

theorem tells_child (dialect : Dialect) (code : UInt8) :
    Tells dialect (dialect.childOpening (Literal.character code)) (.child code) := by
  have unbroken : '\n' ∉ dialect.childLead.toList := by
    unfold Dialect.childLead
    cases dialect.target <;> decide
  rw [OutlineReading.childOpening_eq]
  refine ⟨solid_key code unbroken, readContent?_slot (by simp) ?_⟩
  simp only [readKeyed?, readKey?_key, Option.bind_eq_bind, Option.bind_some, if_true]
  rfl

theorem Dialect.indexLead_eq (dialect : Dialect) :
    dialect.indexLead = dialect.cast ++ dialect.kindLead := by
  unfold indexLead index cast kindLead kind
  cases dialect.target with
  | c => exact String.empty_append.symm
  | cpp => rfl

theorem Dialect.Worded.notMem_indexLead (worded : dialect.Worded) {c : Char}
    (other : isPathChar c = false) (cast : c ∉ "(int)".toList) :
    c ∉ dialect.indexLead.toList := by
  have noCast : c ∉ dialect.cast.toList := by
    unfold Dialect.cast
    cases dialect.target with
    | c => exact List.not_mem_nil
    | cpp => exact cast
  rw [Dialect.indexLead_eq, String.toList_append, List.mem_append, not_or]
  exact ⟨noCast, worded.isPath_kindLead.notMem other⟩

theorem tells_token (worded : dialect.Worded) (code : UInt8) {name : String} (word : IsWord name) :
    Tells dialect (Dialect.slot (Literal.character code) (dialect.index name))
      (.token code name) := by
  have lead : '\n' ∉ dialect.indexLead.toList := worded.notMem_indexLead (by decide) (by decide)
  have unbroken : '\n' ∉ name.toList := word.isPath.notMem (by decide)
  have value : (dialect.index name ++ ",").toList =
      dialect.indexLead.toList ++ (name ++ ",").toList := by
    rw [OutlineReading.index_eq, String.append_assoc, String.toList_append]
  have noChild : (dialect.index name ++ ",").toList ≠ dialect.childLead.toList := by
    intro same
    have last := congrArg List.getLast? same
    unfold Dialect.childLead at last
    cases target : dialect.target <;> simp [target] at last
  rw [OutlineReading.slot_eq]
  refine ⟨solid_key code (by simp [value, lead, unbroken]), readContent?_slot (by simp) ?_⟩
  simp only [readKeyed?, readKey?_key, Option.bind_eq_bind, Option.bind_some, if_neg noChild]
  simp only [value, stripLead_append, Option.bind_some, stripComma_append, word, guard_true]
  rfl

/-! Slots of tokens. -/

theorem readCharacter_eq_none {text : List Char} (other : text.head? ≠ some '\'') :
    Literal.readCharacter text = none := by
  unfold Literal.readCharacter
  split
  next => exact absurd rfl other
  next => rfl

theorem head?_append_ne {front rest : List Char} {c : Char} (absent : c ∉ front)
    (other : rest.head? ≠ some c) : (front ++ rest).head? ≠ some c := by
  cases front with
  | nil => exact other
  | cons first later =>
    intro same
    rw [Option.some.inj same] at absent
    exact absent List.mem_cons_self

theorem textSlot_toList (dialect : Dialect) (name text : String) :
    (Dialect.slot (dialect.index name) (Literal.string text)).toList =
      "[".toList ++ (dialect.indexLead.toList ++ (name.toList ++
        ("] = ".toList ++ ((Literal.string text).toList ++ [','])))) := by
  rw [OutlineReading.slot_eq, OutlineReading.index_eq]
  simp only [String.toList_append, List.append_assoc]
  rfl

/-- What stands in the bracket of a token is no character. -/
theorem readKeyed?_textSlot (worded : dialect.Worded) {name : String} (word : IsWord name)
    (text : String) :
    readKeyed? dialect (Dialect.slot (dialect.index name) (Literal.string text)).toList = none := by
  have lead : '\'' ∉ dialect.indexLead.toList := worded.notMem_indexLead (by decide) (by decide)
  have apart : '\'' ∉ name.toList := word.isPath.notMem (by decide)
  have key : readKey? (Dialect.slot (dialect.index name) (Literal.string text)).toList = none := by
    rw [textSlot_toList, readKey?, stripLead_append]
    simp only [Option.bind_eq_bind, Option.bind_some]
    rw [readCharacter_eq_none, Option.bind_none]
    exact head?_append_ne lead (head?_append_ne apart (by simp))
  rw [readKeyed?, key]
  rfl

theorem readText?_textSlot {name : String} (word : IsWord name) (text : String) :
    readText? dialect (Dialect.slot (dialect.index name) (Literal.string text)).toList =
      some (.text name (Literal.asRead (utf8Bytes text))) := by
  have closing : isWordChar ']' = false := by decide
  have start : ("] = ".toList ++ ((Literal.string text).toList ++ [','])).head? = some ']' := rfl
  obtain ⟨before, after⟩ := takeWhile_stop word start closing
  rw [textSlot_toList, readText?]
  simp only [stripLead_append, Option.bind_eq_bind, Option.bind_some, before, after,
    Literal.readString_string, guard_true, String.ofList_toList]
  rfl

theorem tells_text (worded : dialect.Worded) {name : String} (word : IsWord name)
    (text : String) :
    Tells dialect (Dialect.slot (dialect.index name) (Literal.string text))
      (.text name (Literal.asRead (utf8Bytes text))) where
  solid := by
    have bracket : Layout.Solid "[" := ⟨by decide, by decide⟩
    have lead : '\n' ∉ dialect.indexLead.toList := worded.notMem_indexLead (by decide) (by decide)
    have unbroken : '\n' ∉ name.toList := word.isPath.notMem (by decide)
    have literal := (Literal.string_unbroken text).1
    rw [OutlineReading.slot_eq, OutlineReading.index_eq]
    simp only [String.append_assoc]
    apply bracket.append
    simp [lead, unbroken, literal]
  read := by
    apply readContent?_slot
    · rw [textSlot_toList]
      rfl
    · rw [readKeyed?_textSlot worded word, readText?_textSlot word]
      rfl

/-! The openings of the tables of strings. -/

theorem Dialect.Worded.count_unbroken (worded : dialect.Worded) :
    '\n' ∉ dialect.count.toList := by
  have lead : '\n' ∉ dialect.indexLead.toList := worded.notMem_indexLead (by decide) (by decide)
  unfold Dialect.count
  rw [OutlineReading.index_eq]
  cases dialect.target <;> simp [lead]

theorem tells_strings (worded : dialect.Worded) {name : String} (word : IsWord name) :
    Tells dialect ("static const char *" ++ name ++ "[" ++ dialect.count ++ "] = \x7b")
      (.strings name) := by
  have whole : "static const char *" ++ name ++ "[" ++ dialect.count ++ "] = \x7b" =
      "static const char *" ++ (name ++ ("[" ++ dialect.count ++ "] = \x7b")) := by
    simp only [String.append_assoc]
  have open? : isWordChar '[' = false := by decide
  have start : ("[" ++ dialect.count ++ "] = \x7b").toList.head? = some '[' := by simp
  obtain ⟨before, after⟩ := takeWhile_stop word start open?
  have unbroken : '\n' ∉ name.toList := word.isPath.notMem (by decide)
  have table : readTable? dialect
      ("static const char *" ++ (name ++ ("[" ++ dialect.count ++ "] = \x7b"))).toList =
        some (.strings name) := by
    rw [readTable?, String.toList_append, stripLead_append, String.toList_append]
    simp only [Option.bind_eq_bind, Option.bind_some, before, after, guard_true,
      String.ofList_toList]
    rfl
  rw [whole]
  constructor
  case solid =>
    have lead : Layout.Solid "static const char *" := ⟨by decide, by decide⟩
    exact lead.append (by simp [unbroken, worded.count_unbroken])
  case read =>
    have inclusion : ¬ "#include ".toList <+:
        ("static const char *" ++ (name ++ ("[" ++ dialect.count ++ "] = \x7b"))).toList :=
      not_lead '#' (by decide) (by simp)
    have slot : ¬ "[".toList <+:
        ("static const char *" ++ (name ++ ("[" ++ dialect.count ++ "] = \x7b"))).toList :=
      not_lead '[' (by decide) (by simp)
    rw [readContent?, if_neg (by simp), readInclusion?_eq_none inclusion, readKeyed?_eq_none slot,
      readText?_eq_none slot, table]
    rfl

/-! Statements. -/

theorem readContent?_statement {text : List Char} {first : Char}
    (start : text.head? = some first) (statement : first = 'i' ∨ first = 'r') {line : Line}
    (read : readStatement? dialect text = some line) : readContent? dialect text = some line := by
  have apart : first ≠ '#' ∧ first ≠ '[' ∧ first ≠ 's' := by
    rcases statement with rfl | rfl <;> decide
  have other : ∀ {c}, first ≠ c → text.head? ≠ some c := fun different same =>
    different (Option.some.inj (start.symm.trans same))
  have visible : text ≠ [] := by
    intro nothing
    rw [nothing] at start
    contradiction
  have slot : ¬ "[".toList <+: text := not_lead '[' (by decide) (other apart.2.1)
  rw [readContent?, if_neg visible,
    readInclusion?_eq_none (not_lead '#' (by decide) (other apart.1)), readKeyed?_eq_none slot,
    readText?_eq_none slot, readTable?_eq_none (not_lead 's' (by decide) (other apart.2.2)), read]
  rfl

theorem readToken?_kind {name : String} (word : IsWord name) :
    readToken? dialect (dialect.kind name) = some name := by
  rw [readToken?, Dialect.kind_eq, String.toList_append, stripLead_append]
  simp only [Option.bind_eq_bind, Option.bind_some, String.ofList_toList, word, guard_true]
  rfl

theorem tells_test (worded : dialect.Worded) (text : String) {name : String}
    (word : IsWord name) :
    Tells dialect (dialect.testLine (Literal.string text) (dialect.kind name))
      (.test (Literal.asRead (utf8Bytes text)) name) where
  solid := Statement.solid_test text (worded.isPath_kind word)
  read := by
    have start : (dialect.testLine (Literal.string text) (dialect.kind name)).toList.head? =
        some 'i' := by simp [Dialect.testLine]
    apply readContent?_statement start (.inl rfl)
    rw [readStatement?, Statement.read?_test _ _ (worded.isPath_kind word)]
    simp only [Option.bind_eq_bind, Option.bind_some, readToken?_kind word]
    rfl

theorem tells_result (worded : dialect.Worded) {name : String} (word : IsWord name) :
    Tells dialect ("return " ++ dialect.kind name ++ ";") (.result name) where
  solid := Statement.solid_result (worded.isPath_kind word)
  read := by
    have start : ("return " ++ dialect.kind name ++ ";").toList.head? = some 'r' := by simp
    apply readContent?_statement start (.inr rfl)
    rw [readStatement?, Statement.read?_result _ (worded.isPath_kind word)]
    simp only [Option.bind_eq_bind, Option.bind_some, readToken?_kind word]
    rfl

end TokenTables
