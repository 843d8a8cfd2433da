import TokenTables.Emit.Dialect
import TokenTables.Emit.Layout

/-!
The comparison chain: a text is compared with every spelling in the order of the declarations, and
the first that equals it decides. A text that equals none gets the no-match token.
-/

namespace TokenTables

structure Chain where
  tests : List (String × TokenId)
  fallback : TokenId
  deriving DecidableEq, Repr

namespace Chain

def ofVocabulary? (vocabulary : Vocabulary) (noMatch : String) : Option Chain :=
  (vocabulary.idOf? noMatch).map fun fallback =>
    ⟨vocabulary.spelled.map fun (id, _, spelling) => (spelling, id), fallback⟩

def lookup (chain : Chain) (text : String) : TokenId :=
  (chain.tests.lookup text).getD chain.fallback

def length (chain : Chain) : Nat := chain.tests.length

def steps (chain : Chain) (dialect : Dialect) (vocabulary : Vocabulary) : List LayoutStep :=
  let kindOf (id : TokenId) : String :=
    dialect.kind (((vocabulary.get? id).map Declaration.name).getD "")
  .opening dialect.chainSignature
    :: chain.tests.map (fun (spelling, id) =>
      .line ("if (" ++ dialect.equals (Literal.string spelling) ++ ") return " ++ kindOf id ++ ";"))
    ++ [.line ("return " ++ kindOf chain.fallback ++ ";"), .closing "\x7d"]

end Chain

end TokenTables
