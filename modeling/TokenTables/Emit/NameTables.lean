import TokenTables.Emit.Dialect
import TokenTables.Emit.Layout

/-!
The tables that are indexed by token: the list of enumerators, which fixes the order, and the
spelling and the name of every token. A token without a spelling has no slot in the spelling
table, so that its entry stays null.
-/

namespace TokenTables

def enumeratorList (dialect : Dialect) (vocabulary : Vocabulary) : List LayoutStep :=
  vocabulary.declarations.map fun declaration =>
    .line (dialect.enumerator declaration.name ++ ",")

def stringTable (dialect : Dialect) (name : String) (slots : List (String × String)) :
    List LayoutStep :=
  .opening ("static const char *" ++ name ++ "[" ++ dialect.count ++ "] = \x7b")
    :: slots.map (fun (token, text) =>
      .line (Dialect.slot (dialect.index token) (Literal.string text)))
    ++ [.closing "\x7d;"]

def spellingTable (dialect : Dialect) (vocabulary : Vocabulary) : List LayoutStep :=
  stringTable dialect "tokenToStrMap" <| vocabulary.declarations.filterMap fun declaration =>
    declaration.spelling.map fun spelling => (declaration.name, spelling)

def nameTable (dialect : Dialect) (vocabulary : Vocabulary) : List LayoutStep :=
  stringTable dialect "tokenToNameMap" <| vocabulary.declarations.map fun declaration =>
    (declaration.name, declaration.name)

def nameTables (dialect : Dialect) (vocabulary : Vocabulary) : List LayoutStep :=
  spellingTable dialect vocabulary ++ [.blank] ++ nameTable dialect vocabulary

end TokenTables
