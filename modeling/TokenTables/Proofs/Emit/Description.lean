import TokenTables.Proofs.Emit.Outline
import TokenTables.Proofs.Emit.Writing
import TokenTables.Proofs.Token.Declaring
import TokenTables.Proofs.Trie.Entries

/-!
What the text of a trie says. Where names keep to one line, the text of every node is read back as
the node: its tokens by their names, and its children likewise, in both targets. So the text of the
root holds all bindings of the trie, and tries with different bindings have different texts. A name
that does not keep to its line can be mistaken for further slots.
-/

namespace TokenTables

def Vocabulary.nameOf (vocabulary : Vocabulary) (id : TokenId) : String :=
  ((vocabulary.get? id).map Declaration.name).getD ""

def Vocabulary.named (vocabulary : Vocabulary) {α : Type} (bindings : List (α × TokenId)) :
    List (α × String) :=
  bindings.map fun binding => (binding.1, vocabulary.nameOf binding.2)

theorem Vocabulary.named_append (vocabulary : Vocabulary) {α : Type}
    (first second : List (α × TokenId)) :
    vocabulary.named (first ++ second) = vocabulary.named first ++ vocabulary.named second :=
  List.map_append

theorem Vocabulary.named_flatMap (vocabulary : Vocabulary) {α β : Type} (keys : List β)
    (bindings : β → List (α × TokenId)) :
    vocabulary.named (keys.flatMap bindings) =
      keys.flatMap fun key => vocabulary.named (bindings key) :=
  List.map_flatMap ..

def Vocabulary.Declares (vocabulary : Vocabulary) (history : List (List UInt8 × TokenId)) : Prop :=
  ∀ binding ∈ history, (vocabulary.get? binding.2).isSome

/-- Nothing that a slot refers to a token with breaks the line. -/
structure Dialect.OneLine (dialect : Dialect) (vocabulary : Vocabulary) : Prop where
  identifierLead : '\n' ∉ dialect.identifierLead.toList
  kindPath : '\n' ∉ dialect.kindPath.toList
  names : ∀ name ∈ vocabulary.names, '\n' ∉ name.toList

namespace Dialect.OneLine

variable {dialect : Dialect} {vocabulary : Vocabulary} (oneLine : dialect.OneLine vocabulary)
  {name : String} (unbroken : '\n' ∉ name.toList)
include oneLine unbroken

theorem enumerator : '\n' ∉ (dialect.enumerator name).toList := by
  have lead := oneLine.identifierLead
  unfold Dialect.enumerator
  cases dialect.target <;> simp [lead, unbroken]

theorem kind : '\n' ∉ (dialect.kind name).toList := by
  have value := oneLine.enumerator unbroken
  have path := oneLine.kindPath
  unfold Dialect.kind
  cases dialect.target <;> simp [value, path, unbroken]

theorem index : '\n' ∉ (dialect.index name).toList := by
  have value := oneLine.enumerator unbroken
  have kind := oneLine.kind unbroken
  unfold Dialect.index
  cases dialect.target <;> simp [value, kind]

end Dialect.OneLine

namespace Trie

/-- A node with the names of its tokens, and the nodes below it likewise. -/
def outline (trie : Trie) (vocabulary : Vocabulary) : Nat → Outline :=
  trie.fold fun index below =>
    .node (Outline.table? (vocabulary.named (trie.node index).tokens.entries))
      (Outline.table? below)

variable (trie : Trie) (vocabulary : Vocabulary)

theorem outline_eq (index : Nat) : trie.outline vocabulary index =
    .node (Outline.table? (vocabulary.named (trie.node index).tokens.entries))
      (Outline.table? ((trie.node index).children.entries.map fun slot =>
        (slot.1, trie.outline vocabulary slot.2))) :=
  fold_eq ..

end Trie

namespace Outline

theorem mem_table? {α : Type} {slots listed : List α} (member : listed ∈ table? slots) :
    listed ≠ [] ∧ listed = slots := by
  unfold table? at member
  split at member
  next => contradiction
  next some =>
    cases member
    exact ⟨fun nothing => some (List.isEmpty_iff.2 nothing), rfl⟩

theorem getD_table? {α : Type} (slots : List α) : (table? slots).getD [] = slots := by
  unfold table?
  split
  next nothing => exact (List.isEmpty_iff.1 nothing).symm
  next => rfl

theorem slotSpellings_eq (slots : List (UInt8 × Outline)) :
    slotSpellings slots = slots.map fun slot => (slot.1, slot.2.spellings) := by
  induction slots with
  | nil => rfl
  | cons slot rest ih =>
    rw [slotSpellings, ih]
    rfl

theorem spellings_node (tokens : Option (List (UInt8 × String)))
    (children : Option (List (UInt8 × Outline))) :
    (node tokens children).spellings = collect (tokens.getD [])
      ((children.getD []).map fun slot => (slot.1, slot.2.spellings)) := by
  cases children with
  | none => rfl
  | some slots =>
    rw [spellings, slotSpellings_eq]
    rfl

theorem inOrder_outline (trie : Trie) (vocabulary : Vocabulary) (index : Nat) :
    (trie.outline vocabulary index).InOrder := by
  induction index using trie.below_induction with
  | step index ih =>
    rw [Trie.outline_eq]
    apply InOrder.node
    · exact fun slots listed => (mem_table? listed).1
    · intro slots listed
      rw [(mem_table? listed).2]
      exact (trie.node index).tokens.map_ascending vocabulary.nameOf
    · exact fun slots listed => (mem_table? listed).1
    · intro slots listed
      rw [(mem_table? listed).2]
      exact (trie.node index).children.map_ascending (trie.outline vocabulary)
    · intro slots listed slot member
      rw [(mem_table? listed).2] at member
      rcases List.mem_map.1 member with ⟨child, below, rfl⟩
      exact ih child.1 child.2 ((trie.child?_eq_some_iff ..).2 below)

end Outline

/-! The bindings of a trie. -/

namespace Trie

variable (trie : Trie)

theorem spellings_outline (vocabulary : Vocabulary) (index : Nat) :
    (trie.outline vocabulary index).spellings = vocabulary.named (trie.entriesFrom index) := by
  induction index using trie.below_induction with
  | step index ih =>
    rw [outline_eq, Outline.spellings_node, Outline.getD_table?, Outline.getD_table?,
      entriesFrom_eq, Outline.collect, Vocabulary.named_flatMap]
    apply List.flatMap_congr
    intro code _
    have own : vocabulary.named ((trie.token? index code).map fun id => ([code], id)).toList =
        (((vocabulary.named (trie.node index).tokens.entries).lookup code).map
          fun name => ([code], name)).toList := by
      rw [Vocabulary.named, Vocabulary.named, Slots.lookup_map_value, token?, Slots.get?]
      cases (trie.node index).tokens.entries.lookup code <;> rfl
    -- The children are looked up once with their outlines and once with what is below them.
    rw [Vocabulary.named_append, own, Slots.lookup_map_value Outline.spellings,
      Slots.lookup_map_value, ← Slots.get?, ← child?]
    cases found : trie.child? index code with
    | none => rfl
    | some child =>
      simp only [Option.map_some, Option.getD_some, ih code child found,
        Vocabulary.named, List.map_map]
      rfl

end Trie

theorem Vocabulary.idOf?_nameOf {vocabulary : Vocabulary} {id : TokenId}
    (declared : (vocabulary.get? id).isSome) :
    vocabulary.idOf? (vocabulary.nameOf id) = some id := by
  rcases Option.isSome_iff_exists.1 declared with ⟨declaration, found⟩
  have position := (position?_eq_some_iff declaration.name id.index).2 ⟨declaration, found, rfl⟩
  rw [nameOf, found, Option.map_some, Option.getD_some, idOf?, position, Option.map_some,
    TokenId.ofNat_index]

theorem Vocabulary.named_injective {vocabulary : Vocabulary} {α : Type}
    {first second : List (α × TokenId)}
    (firstDeclared : ∀ binding ∈ first, (vocabulary.get? binding.2).isSome)
    (secondDeclared : ∀ binding ∈ second, (vocabulary.get? binding.2).isSome)
    (same : vocabulary.named first = vocabulary.named second) : first = second := by
  have found : ∀ bindings : List (α × TokenId),
      (∀ binding ∈ bindings, (vocabulary.get? binding.2).isSome) →
      (vocabulary.named bindings).map (fun binding => (binding.1, vocabulary.idOf? binding.2)) =
        bindings.map fun binding => (binding.1, some binding.2) := by
    intro bindings declared
    rw [named, List.map_map]
    apply List.map_congr_left
    intro binding member
    exact congrArg (Prod.mk binding.1) (idOf?_nameOf (declared binding member))
  have ids := congrArg
    (List.map fun binding => (binding.1, vocabulary.idOf? binding.2)) same
  rw [found first firstDeclared, found second secondDeclared] at ids
  apply List.map_injective_iff.2 _ ids
  intro binding other pair
  simp only [Prod.mk.injEq, Option.some.injEq] at pair
  exact Prod.ext pair.1 pair.2

/-! The steps of a node. -/

namespace OutlineReading

open Dispatch

variable {dialect : Dialect} {vocabulary : Vocabulary}

theorem index_unbroken (oneLine : dialect.OneLine vocabulary) {declaration : Declaration}
    {id : TokenId} (declared : vocabulary.get? id = some declaration) :
    '\n' ∉ (dialect.index declaration.name).toList :=
  oneLine.index (oneLine.names _ (List.mem_map_of_mem (List.mem_of_getElem? declared)))

theorem reads_tokenSlots (oneLine : dialect.OneLine vocabulary) (entries : List (UInt8 × TokenId))
    (ascii : ∀ slot ∈ entries, isAscii slot.1 = true)
    (declared : ∀ slot ∈ entries, (vocabulary.get? slot.2).isSome) :
    ∃ steps, entries.mapM (tokenSlot dialect vocabulary) = .ok steps ∧
      Reads dialect steps ((vocabulary.named entries).map fun slot => .token slot.1 slot.2) := by
  induction entries with
  | nil => exact ⟨[], rfl, .nil⟩
  | cons slot rest ih =>
    have firstAscii := List.forall_mem_cons.1 ascii
    have firstDeclared := List.forall_mem_cons.1 declared
    rcases Option.isSome_iff_exists.1 firstDeclared.1 with ⟨declaration, found⟩
    rcases ih firstAscii.2 firstDeclared.2 with ⟨steps, written, read⟩
    have name : vocabulary.nameOf slot.2 = declaration.name := by
      rw [Vocabulary.nameOf, found]
      rfl
    have line := reads_slot firstAscii.1 (index_unbroken oneLine found)
    rw [Vocabulary.named, List.map_cons, List.map_cons, name]
    refine ⟨_ :: steps, ?_, line.append read⟩
    rw [List.mapM_cons, written, tokenSlot, found]
    rfl

theorem reads_childSlots (entries : List (UInt8 × Nat))
    (tables : Nat → Except EmitError (List LayoutStep)) (outline : Nat → Outline)
    (ascii : ∀ slot ∈ entries, isAscii slot.1 = true)
    (below : ∀ slot ∈ entries,
      ∃ steps, tables slot.2 = .ok steps ∧ Reads dialect steps (fields (outline slot.2))) :
    ∃ childSlots, ((entries.map fun slot => (slot.1, tables slot.2)).mapM
        fun (code, tables) => return childSlot dialect code (← tables)) = .ok childSlots ∧
      childSlots.isEmpty = entries.isEmpty ∧
      Reads dialect childSlots.flatten
        ((entries.map fun slot => (slot.1, outline slot.2)).map fun slot =>
          .child slot.1 slot.2) := by
  induction entries with
  | nil => exact ⟨[], rfl, rfl, .nil⟩
  | cons slot rest ih =>
    have firstAscii := List.forall_mem_cons.1 ascii
    have firstBelow := List.forall_mem_cons.1 below
    rcases firstBelow.1 with ⟨steps, written, read⟩
    rcases ih firstAscii.2 firstBelow.2 with ⟨childSlots, restWritten, _, restRead⟩
    have child := reads_child firstAscii.1 read
    refine ⟨_ :: childSlots, ?_, rfl, child.append restRead⟩
    rw [List.map_cons, List.mapM_cons, restWritten, written]
    rfl

/-- Writing succeeds at every node of a trie whose tokens are declared, and what is written reads
as the outline of the node. -/
theorem reads_nodeSteps {trie : Trie} (oneLine : dialect.OneLine vocabulary)
    (tree : trie.WellFormed)
    (declared : ∀ index code id, trie.token? index code = some id → (vocabulary.get? id).isSome)
    (index : Nat) :
    ∃ steps, nodeSteps dialect vocabulary trie index = .ok steps ∧
      Reads dialect steps (fields (trie.outline vocabulary index)) := by
  induction index using trie.below_induction with
  | step index ih =>
    rcases reads_tokenSlots oneLine (trie.node index).tokens.entries
        (fun slot member => tree.asciiToken ((trie.token?_eq_some_iff ..).2 member))
        (fun slot member => declared index slot.1 slot.2 ((trie.token?_eq_some_iff ..).2 member))
      with ⟨tokenSlots, tokensWritten, tokensRead⟩
    rcases reads_childSlots (trie.node index).children.entries
        (nodeSteps dialect vocabulary trie) (trie.outline vocabulary)
        (fun slot member => tree.asciiChild ((trie.child?_eq_some_iff ..).2 member))
        (fun slot member => ih slot.1 slot.2 ((trie.child?_eq_some_iff ..).2 member))
      with ⟨childSlots, childrenWritten, sameEmpty, childrenRead⟩
    have noTokens : (trie.node index).tokens.isEmpty =
        (vocabulary.named (trie.node index).tokens.entries).isEmpty := by
      rw [Vocabulary.named, List.isEmpty_map, Slots.isEmpty]
    have noChildren : childSlots.isEmpty = ((trie.node index).children.entries.map fun slot =>
        (slot.1, trie.outline vocabulary slot.2)).isEmpty := by
      rw [List.isEmpty_map, sameEmpty]
    have tokens := Reads.table (ends_tokensOpening dialect)
      tokensRead (blockItem?_tokens ..)
    have children := Reads.table (ends_childrenOpening dialect)
      childrenRead (blockItem?_children ..)
    rw [← noTokens] at tokens
    rw [← noChildren] at children
    rw [nodeSteps_eq, Trie.outline_eq, tokensWritten, childrenWritten]
    exact ⟨_, rfl, tokens.append children⟩

theorem trieSteps_eq {trie : Trie} {tables : List LayoutStep}
    (written : nodeSteps dialect vocabulary trie Trie.root = .ok tables) :
    trieSteps dialect vocabulary trie =
      .ok (preface dialect ++ (tables ++ [.closing "\x7d;"])) := by
  rw [trieSteps, written]
  simp [preface, bind, Except.bind, pure, Except.pure]

end OutlineReading

/-! The texts of a trie. -/

namespace Dispatch

def nodeText (dialect : Dialect) (vocabulary : Vocabulary) (trie : Trie) (index : Nat) :
    Except EmitError String :=
  (nodeSteps dialect vocabulary trie index).map layOut

def trieText (dialect : Dialect) (vocabulary : Vocabulary) (trie : Trie) :
    Except EmitError String :=
  (trieSteps dialect vocabulary trie).map layOut

/-- The text at every node describes the node, and all of it describes the root. -/
structure Describes (dialect : Dialect) (vocabulary : Vocabulary) (trie : Trie) : Prop where
  node : ∀ index, ∃ text, nodeText dialect vocabulary trie index = .ok text ∧
    OutlineReading.readNode? dialect text = some (trie.outline vocabulary index)
  whole : ∃ text, trieText dialect vocabulary trie = .ok text ∧
    OutlineReading.readTrie? dialect text = some (trie.outline vocabulary Trie.root)
  inOrder : ∀ index, (trie.outline vocabulary index).InOrder
  spellings : (trie.outline vocabulary Trie.root).spellings = vocabulary.named trie.entries

variable {dialect : Dialect} {vocabulary : Vocabulary}

theorem describes_trie {trie : Trie} (oneLine : dialect.OneLine vocabulary)
    (tree : trie.WellFormed)
    (declared : ∀ index code id, trie.token? index code = some id → (vocabulary.get? id).isSome) :
    Describes dialect vocabulary trie where
  node index := by
    rcases OutlineReading.reads_nodeSteps oneLine tree declared index with ⟨steps, written, read⟩
    refine ⟨layOut steps, ?_, OutlineReading.readNode?_layOut read⟩
    rw [nodeText, written]
    rfl
  whole := by
    rcases OutlineReading.reads_nodeSteps oneLine tree declared Trie.root with
      ⟨tables, written, read⟩
    refine ⟨_, ?_, OutlineReading.readTrie?_layOut read⟩
    rw [trieText, OutlineReading.trieSteps_eq written]
    rfl
  inOrder := Outline.inOrder_outline trie vocabulary
  spellings := trie.spellings_outline vocabulary Trie.root

theorem eq_of_read {written : Except EmitError String} {read? : String → Option Outline}
    {first second : Outline}
    (firstRead : ∃ text, written = .ok text ∧ read? text = some first)
    (secondRead : ∃ text, written = .ok text ∧ read? text = some second) : first = second := by
  rcases firstRead with ⟨text, firstWritten, read⟩
  rcases secondRead with ⟨other, secondWritten, otherRead⟩
  cases firstWritten.symm.trans secondWritten
  exact Option.some.inj (read.symm.trans otherRead)

theorem Describes.outline_eq {first second : Trie} (firstText : Describes dialect vocabulary first)
    (secondText : Describes dialect vocabulary second)
    (same : nodeText dialect vocabulary first Trie.root =
        nodeText dialect vocabulary second Trie.root ∨
      trieText dialect vocabulary first = trieText dialect vocabulary second) :
    first.outline vocabulary Trie.root = second.outline vocabulary Trie.root := by
  rcases same with nodes | wholes
  · exact eq_of_read (firstText.node Trie.root) (nodes ▸ secondText.node Trie.root)
  · exact eq_of_read firstText.whole (wholes ▸ secondText.whole)

end Dispatch

theorem Vocabulary.Declares.get?_isSome {vocabulary : Vocabulary}
    {history : List (List UInt8 × TokenId)} (declares : vocabulary.Declares history)
    (index : Nat) (code : UInt8) (id : TokenId)
    (slot : (Trie.empty.insertAll history).token? index code = some id) :
    (vocabulary.get? id).isSome := by
  rcases Trie.token?_insertAll slot with before | inserted
  · rw [Trie.token?_empty] at before
    contradiction
  · rcases List.mem_map.1 inserted with ⟨binding, member, rfl⟩
    exact declares binding member

theorem Vocabulary.Declares.entries {vocabulary : Vocabulary}
    {history : List (List UInt8 × TokenId)} (declares : vocabulary.Declares history) :
    vocabulary.Declares (Trie.empty.insertAll history).entries := by
  intro binding bound
  have found := Trie.findFrom_of_mem_entriesFrom bound
  rcases Trie.exists_token_of_findFrom found with ⟨node, code, slot⟩
  exact declares.get?_isSome node code binding.2 slot

/-- The texts of a trie describe it, and tries with different bindings have different texts. -/
theorem trieText_describes {dialect : Dialect} {vocabulary : Vocabulary}
    (oneLine : dialect.OneLine vocabulary) {history : List (List UInt8 × TokenId)}
    (declares : vocabulary.Declares history) :
    Dispatch.Describes dialect vocabulary (Trie.empty.insertAll history) ∧
      ∀ other, vocabulary.Declares other →
        (Trie.empty.insertAll history).entries ≠ (Trie.empty.insertAll other).entries →
        Dispatch.nodeText dialect vocabulary (Trie.empty.insertAll history) Trie.root ≠
            Dispatch.nodeText dialect vocabulary (Trie.empty.insertAll other) Trie.root ∧
          Dispatch.trieText dialect vocabulary (Trie.empty.insertAll history) ≠
            Dispatch.trieText dialect vocabulary (Trie.empty.insertAll other) := by
  have describes : ∀ inserted, vocabulary.Declares inserted →
      Dispatch.Describes dialect vocabulary (Trie.empty.insertAll inserted) := by
    intro inserted declares
    have tree := Trie.wellFormed_empty.insertAll inserted
    exact Dispatch.describes_trie oneLine tree declares.get?_isSome
  refine ⟨describes history declares, ?_⟩
  intro other otherDeclares different
  have apart : ¬(Dispatch.nodeText dialect vocabulary (Trie.empty.insertAll history) Trie.root =
        Dispatch.nodeText dialect vocabulary (Trie.empty.insertAll other) Trie.root ∨
      Dispatch.trieText dialect vocabulary (Trie.empty.insertAll history) =
        Dispatch.trieText dialect vocabulary (Trie.empty.insertAll other)) := by
    intro same
    apply different
    -- Equal texts are read as one outline, so as the same names, and names belong to one token.
    have outlines := (describes history declares).outline_eq (describes other otherDeclares) same
    have names := congrArg Outline.spellings outlines
    rw [(describes history declares).spellings, (describes other otherDeclares).spellings] at names
    exact Vocabulary.named_injective declares.entries otherDeclares.entries names
  exact not_or.1 apart

def quoteAndComma : Vocabulary where
  declarations := [.make "Quote" none 1, .make "Comma" none 2]
  distinct := by decide

def quotedBindings : List (List UInt8 × TokenId) :=
  [([44, 39], .ofNat 0), ([44], .ofNat 1), ([39], .ofNat 0)]

theorem quotedBindings_described :
    Dialect.OneLine ⟨.cpp, "TOK_", "Token::Kind"⟩ quoteAndComma ∧
      quoteAndComma.Declares quotedBindings ∧
      Dispatch.nodeText ⟨.cpp, "TOK_", "Token::Kind"⟩ quoteAndComma
          (Trie.empty.insertAll quotedBindings) Trie.root =
        .ok ("(const int[ASCII_SET])\x7b\n" ++
          "    ['\\''] = (int)Token::Kind::Quote,\n" ++
          "    [','] = (int)Token::Kind::Comma,\n" ++
          "\x7d,\n" ++
          "(const TokenSet[ASCII_SET])\x7b\n" ++
          "    [','] = \x7b\n" ++
          "        (const int[ASCII_SET])\x7b\n" ++
          "            ['\\''] = (int)Token::Kind::Quote,\n" ++
          "        \x7d,\n" ++
          "        nullptr,\n" ++
          "    \x7d,\n" ++
          "\x7d,\n") ∧
      Dispatch.Describes ⟨.cpp, "TOK_", "Token::Kind"⟩ quoteAndComma
        (Trie.empty.insertAll quotedBindings) ∧
      Dispatch.nodeText ⟨.cpp, "TOK_", "Token::Kind"⟩ quoteAndComma
          (Trie.empty.insertAll quotedBindings) Trie.root ≠
        Dispatch.nodeText ⟨.cpp, "TOK_", "Token::Kind"⟩ quoteAndComma
          (Trie.empty.insertAll []) Trie.root := by
  have oneLine : Dialect.OneLine ⟨.cpp, "TOK_", "Token::Kind"⟩ quoteAndComma :=
    ⟨by decide, by decide, by decide⟩
  have declares : quoteAndComma.Declares quotedBindings := by
    unfold Vocabulary.Declares
    decide
  have steps : Dispatch.nodeSteps ⟨.cpp, "TOK_", "Token::Kind"⟩ quoteAndComma
      (Trie.empty.insertAll quotedBindings) Trie.root =
        .ok [.opening "(const int[ASCII_SET])\x7b",
          .line "['\\''] = (int)Token::Kind::Quote,",
          .line "[','] = (int)Token::Kind::Comma,",
          .closing "\x7d,",
          .opening "(const TokenSet[ASCII_SET])\x7b",
          .opening "[','] = \x7b",
          .opening "(const int[ASCII_SET])\x7b",
          .line "['\\''] = (int)Token::Kind::Quote,",
          .closing "\x7d,",
          .line "nullptr,",
          .closing "\x7d,",
          .closing "\x7d,"] := by
    cbv
  have bound : (Trie.empty.insertAll quotedBindings).entries.length = 3 := by cbv
  have unbound : (Trie.empty.insertAll []).entries.length = 0 := by cbv
  have different : (Trie.empty.insertAll quotedBindings).entries ≠
      (Trie.empty.insertAll []).entries := by
    intro same
    have lengths := congrArg List.length same
    omega
  have described := trieText_describes oneLine declares
  refine ⟨oneLine, declares, ?_, described.1, (described.2 [] ?_ different).1⟩
  · rw [Dispatch.nodeText, steps]
    apply congrArg Except.ok
    decide +kernel
  · exact fun _ nothing => absurd nothing List.not_mem_nil

/-- Two of the names break the line and go on like a slot of `y`, one as it is indented in the text
of the root and the other as in the text of all tables. -/
def brokenNames : Vocabulary where
  declarations := [.make "x" none 1, .make "y" none 2, .make "x,\n    ['b'] = TOK_y" none 3,
    .make "x,\n        ['b'] = TOK_y" none 4]
  distinct := by decide

def oneBinding (id : Nat) : List (List UInt8 × TokenId) := [([97], .ofNat id)]

def twoBindings : List (List UInt8 × TokenId) := [([97], .ofNat 0), ([98], .ofNat 1)]

/-- Where names break lines, tries with different bindings can have the same text. -/
theorem brokenNames_not_described :
    brokenNames.Declares (oneBinding 2) ∧ brokenNames.Declares (oneBinding 3) ∧
      brokenNames.Declares twoBindings ∧
      (∀ id, (Trie.empty.insertAll (oneBinding id)).entries ≠
        (Trie.empty.insertAll twoBindings).entries) ∧
      Dispatch.nodeText ⟨.c, "TOK_", "Token::Kind"⟩ brokenNames
          (Trie.empty.insertAll (oneBinding 2)) Trie.root =
        Dispatch.nodeText ⟨.c, "TOK_", "Token::Kind"⟩ brokenNames
          (Trie.empty.insertAll twoBindings) Trie.root ∧
      Dispatch.trieText ⟨.c, "TOK_", "Token::Kind"⟩ brokenNames
          (Trie.empty.insertAll (oneBinding 3)) =
        Dispatch.trieText ⟨.c, "TOK_", "Token::Kind"⟩ brokenNames
          (Trie.empty.insertAll twoBindings) := by
  have inner : Dispatch.nodeSteps ⟨.c, "TOK_", "Token::Kind"⟩ brokenNames
      (Trie.empty.insertAll (oneBinding 2)) Trie.root =
        .ok [.opening "(const int[ASCII_SET])\x7b",
          .line "['a'] = TOK_x,\n    ['b'] = TOK_y,",
          .closing "\x7d,",
          .line "NULL,"] := by
    cbv
  have outer : Dispatch.nodeSteps ⟨.c, "TOK_", "Token::Kind"⟩ brokenNames
      (Trie.empty.insertAll (oneBinding 3)) Trie.root =
        .ok [.opening "(const int[ASCII_SET])\x7b",
          .line "['a'] = TOK_x,\n        ['b'] = TOK_y,",
          .closing "\x7d,",
          .line "NULL,"] := by
    cbv
  have two : Dispatch.nodeSteps ⟨.c, "TOK_", "Token::Kind"⟩ brokenNames
      (Trie.empty.insertAll twoBindings) Trie.root =
        .ok [.opening "(const int[ASCII_SET])\x7b",
          .line "['a'] = TOK_x,",
          .line "['b'] = TOK_y,",
          .closing "\x7d,",
          .line "NULL,"] := by
    cbv
  refine ⟨?_, ?_, ?_, ?_, ?_, ?_⟩
  · unfold Vocabulary.Declares
    decide
  · unfold Vocabulary.Declares
    decide
  · unfold Vocabulary.Declares
    decide
  · intro id same
    have lengths := congrArg List.length same
    have first : (Trie.empty.insertAll (oneBinding id)).entries.length = 1 := by cbv
    have second : (Trie.empty.insertAll twoBindings).entries.length = 2 := by cbv
    omega
  · rw [Dispatch.nodeText, Dispatch.nodeText, inner, two]
    apply congrArg Except.ok
    decide
  · rw [Dispatch.trieText, Dispatch.trieText, OutlineReading.trieSteps_eq outer,
      OutlineReading.trieSteps_eq two]
    apply congrArg Except.ok
    decide +kernel

end TokenTables
