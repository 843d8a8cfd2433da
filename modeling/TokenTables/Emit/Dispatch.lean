import TokenTables.Emit.Dialect
import TokenTables.Emit.Layout

/-!
Nested dispatch tables. A node is written as two tables, the tokens it completes and its children,
each with its slots in ascending order of the codes; an empty table is written as null. The
tables refer to tokens by name, so writing fails at the first token that is not declared.
-/

namespace TokenTables

inductive EmitError
  | undeclaredNoMatch (name : String)
  | unknownToken (id : TokenId)
  deriving DecidableEq, Repr

namespace EmitError

def message : EmitError → String
  | undeclaredNoMatch name => "no-match token '" ++ name ++ "' is not declared"
  | unknownToken id =>
    "trie slot refers to token " ++ id.shown ++ ", which is not in the table"

end EmitError

namespace Dispatch

def table (dialect : Dialect) (opening : String) (isEmpty : Bool) (contents : List LayoutStep) :
    List LayoutStep :=
  if isEmpty then [.line (dialect.null ++ ",")]
  else .opening opening :: contents ++ [.closing "\x7d,"]

def tokenSlot (dialect : Dialect) (vocabulary : Vocabulary) (slot : UInt8 × TokenId) :
    Except EmitError LayoutStep :=
  match vocabulary.get? slot.2 with
  | some declaration =>
    .ok (.line (Dialect.slot (Literal.character slot.1) (dialect.index declaration.name)))
  | none => .error (.unknownToken slot.2)

def childSlot (dialect : Dialect) (code : UInt8) (tables : List LayoutStep) : List LayoutStep :=
  .opening (dialect.childOpening (Literal.character code)) :: tables ++ [.closing "\x7d,"]

def nodeSteps (dialect : Dialect) (vocabulary : Vocabulary) (trie : Trie) :
    Nat → Except EmitError (List LayoutStep) :=
  trie.fold fun index below => do
    let tokens := (trie.node index).tokens
    let tokenSlots ← tokens.entries.mapM (tokenSlot dialect vocabulary)
    let childSlots ← below.mapM fun (code, tables) => return childSlot dialect code (← tables)
    return table dialect dialect.tokensOpening tokens.isEmpty tokenSlots
      ++ table dialect dialect.childrenOpening childSlots.isEmpty childSlots.flatten

def trieSteps (dialect : Dialect) (vocabulary : Vocabulary) (trie : Trie) :
    Except EmitError (List LayoutStep) := do
  let tables ← nodeSteps dialect vocabulary trie Trie.root
  return [.line "#ifndef ASCII_SET",
      .line ("#define ASCII_SET " ++ asciiCount.repr),
      .line "#endif",
      .blank]
    ++ dialect.nodeType.map .line
    ++ .blank :: .opening dialect.rootOpening :: tables ++ [.closing "\x7d;"]

end Dispatch

end TokenTables
