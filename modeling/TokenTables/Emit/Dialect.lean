import TokenTables.Settings.Basic

/-!
The syntax of the generated tables in each target. Both targets get tables of the same shape; the
dialect spells token references, null slots and type names.
-/

namespace TokenTables

structure Dialect where
  target : Target
  identifierLead : String
  kindPath : String
  deriving DecidableEq, Repr

namespace Dialect

def ofSettings (settings : Settings) : Dialect :=
  ⟨settings.target, settings.identifierLead, settings.kindPath⟩

def enumerator (dialect : Dialect) (name : String) : String :=
  match dialect.target with
  | .c => dialect.identifierLead ++ name
  | .cpp => name

def kind (dialect : Dialect) (name : String) : String :=
  match dialect.target with
  | .c => dialect.enumerator name
  | .cpp => dialect.kindPath ++ "::" ++ name

def index (dialect : Dialect) (name : String) : String :=
  match dialect.target with
  | .c => dialect.enumerator name
  | .cpp => "(int)" ++ dialect.kind name

def count (dialect : Dialect) : String :=
  match dialect.target with
  | .c => "NUM_TOKENS"
  | .cpp => dialect.index "NumTokens"

def null (dialect : Dialect) : String :=
  match dialect.target with
  | .c => "NULL"
  | .cpp => "nullptr"

def nodeType (dialect : Dialect) : List String :=
  match dialect.target with
  | .c =>
    ["typedef struct _token_set_t \x7b",
      "    const int *tokens;",
      "    const struct _token_set_t **child_tokens;",
      "\x7d const *TokenSet;"]
  | .cpp =>
    ["struct TokenSet \x7b",
      "    const int *tokens;",
      "    const TokenSet *child_tokens;",
      "\x7d;"]

def rootOpening (dialect : Dialect) : String :=
  match dialect.target with
  | .c => "static const struct _token_set_t tokenFromStrMap = \x7b"
  | .cpp => "static const TokenSet tokenFromStrMap = \x7b"

def tokensOpening (_ : Dialect) : String := "(const int[ASCII_SET])\x7b"

def childrenOpening (dialect : Dialect) : String :=
  match dialect.target with
  | .c => "(const struct _token_set_t*[ASCII_SET])\x7b"
  | .cpp => "(const TokenSet[ASCII_SET])\x7b"

def childOpening (dialect : Dialect) (key : String) : String :=
  match dialect.target with
  | .c => "[" ++ key ++ "] = (const struct _token_set_t[1])\x7b"
  | .cpp => "[" ++ key ++ "] = \x7b"

def chainSignature (dialect : Dialect) : String :=
  match dialect.target with
  | .c => "static int tokenFromStr(const char *str) \x7b"
  | .cpp => dialect.kindPath ++ " tokenFromStr(std::string_view str) \x7b"

def equals (dialect : Dialect) (literal : String) : String :=
  match dialect.target with
  | .c => "strcmp(str, " ++ literal ++ ") == 0"
  | .cpp => "str == " ++ literal

def chainInclude (dialect : Dialect) : String :=
  match dialect.target with
  | .c => "#include <string.h>"
  | .cpp => "#include <string_view>"

def slot (key value : String) : String := "[" ++ key ++ "] = " ++ value ++ ","

end Dialect

end TokenTables
