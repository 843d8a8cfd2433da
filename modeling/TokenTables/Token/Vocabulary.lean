import TokenTables.Token.Id
import TokenTables.Token.Declaration

/-!
A vocabulary is the ordered list of declared tokens. No two of its declarations share a name, and
the position of a declaration is the token's id. Declaring a name a second time is refused with
the id of the declaration that holds it.
-/

namespace TokenTables

structure Vocabulary where
  declarations : List Declaration
  distinct : (declarations.map Declaration.name).Nodup

namespace Vocabulary

def empty : Vocabulary := ⟨[], List.nodup_nil⟩

instance : Inhabited Vocabulary := ⟨empty⟩

def size (vocabulary : Vocabulary) : Nat := vocabulary.declarations.length

def isEmpty (vocabulary : Vocabulary) : Bool := vocabulary.declarations.isEmpty

def names (vocabulary : Vocabulary) : List String :=
  vocabulary.declarations.map Declaration.name

def get? (vocabulary : Vocabulary) (id : TokenId) : Option Declaration :=
  vocabulary.declarations[id.index]?

def position? (vocabulary : Vocabulary) (name : String) : Option Nat :=
  vocabulary.names.idxOf? name

def idOf? (vocabulary : Vocabulary) (name : String) : Option TokenId :=
  (vocabulary.position? name).map TokenId.ofNat

def nextId (vocabulary : Vocabulary) : TokenId := TokenId.ofNat vocabulary.size

theorem position?_eq_none_iff (vocabulary : Vocabulary) (name : String) :
    vocabulary.position? name = none ↔ name ∉ vocabulary.names := by
  simp [position?]

def declare (vocabulary : Vocabulary) (declaration : Declaration) : Except TokenId Vocabulary :=
  match fresh : vocabulary.position? declaration.name with
  | some position => .error (TokenId.ofNat position)
  | none => .ok {
      declarations := vocabulary.declarations ++ [declaration]
      distinct := by
        have absent := (vocabulary.position?_eq_none_iff declaration.name).1 fresh
        rw [List.map_append, List.nodup_append]
        refine ⟨vocabulary.distinct, by simp, ?_⟩
        intro name held other new same
        rw [List.map_singleton, List.mem_singleton] at new
        exact absent (new ▸ same ▸ held) }

def entries (vocabulary : Vocabulary) : List (TokenId × Declaration) :=
  vocabulary.declarations.zipIdx.map fun (declaration, position) =>
    (TokenId.ofNat position, declaration)

def spelled (vocabulary : Vocabulary) : List (TokenId × Declaration × String) :=
  vocabulary.entries.filterMap fun (id, declaration) =>
    declaration.spelling.map fun spelling => (id, declaration, spelling)

def ofPairs (pairs : List (String × Option String)) : Except String Vocabulary :=
  pairs.zipIdx.foldlM (fun vocabulary ((name, spelling), position) =>
    (vocabulary.declare (Declaration.make name spelling (position + 1))).mapError fun _ => name)
    empty

end Vocabulary

end TokenTables
