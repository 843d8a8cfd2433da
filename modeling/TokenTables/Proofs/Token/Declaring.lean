import Mathlib.Data.List.Nodup
import TokenTables.Token.Vocabulary

/-!
The two outcomes of a declaration. A new name is added at the end of the vocabulary. A name that is
declared already is refused with the id of its declaration, which is read back from that id as long
as positions fit the words that hold them.
-/

namespace TokenTables

namespace Vocabulary

variable {vocabulary : Vocabulary} {declaration : Declaration}

theorem position?_eq_some_iff (name : String) (position : Nat) :
    vocabulary.position? name = some position ↔
      ∃ declaration, vocabulary.declarations[position]? = some declaration ∧
        declaration.name = name := by
  have held : (∃ declaration, vocabulary.declarations[position]? = some declaration ∧
      declaration.name = name) ↔ vocabulary.names[position]? = some name := by
    rw [names, List.getElem?_map, Option.map_eq_some_iff]
  rw [held, position?]
  constructor
  · intro found
    obtain ⟨inside, here, _⟩ := List.idxOf?_eq_some_iff.1 found
    exact List.getElem?_eq_some_iff.2 ⟨inside, here⟩
  · intro found
    obtain ⟨inside, here⟩ := List.getElem?_eq_some_iff.1 found
    refine List.idxOf?_eq_some_iff.2 ⟨inside, here, fun earlier before same => ?_⟩
    have places := (List.Nodup.getElem_inj_iff vocabulary.distinct).1 (same.trans here.symm)
    omega

theorem declare_fresh (fresh : declaration.name ∉ vocabulary.names) :
    ∃ grown, vocabulary.declare declaration = .ok grown ∧
      grown.declarations = vocabulary.declarations ++ [declaration] := by
  have absent := (vocabulary.position?_eq_none_iff declaration.name).2 fresh
  unfold declare
  split
  next taken => exact absurd (taken.symm.trans absent) (by simp)
  next => exact ⟨_, rfl, rfl⟩

theorem declare_taken (taken : declaration.name ∈ vocabulary.names) :
    ∃ position first, vocabulary.declare declaration = .error (TokenId.ofNat position) ∧
      vocabulary.declarations[position]? = some first ∧ first.name = declaration.name := by
  unfold declare
  split
  next position found =>
    obtain ⟨first, held, same⟩ := (position?_eq_some_iff declaration.name position).1 found
    exact ⟨position, first, rfl, held, same⟩
  next absent =>
    exact absurd taken ((vocabulary.position?_eq_none_iff declaration.name).1 absent)

/-- While positions fit their words, an id gives back the declaration it was made from. -/
theorem get?_ofNat (few : vocabulary.size ≤ UInt32.size) {position : Nat} {first : Declaration}
    (held : vocabulary.declarations[position]? = some first) :
    vocabulary.get? (TokenId.ofNat position) = some first := by
  have inside : position < vocabulary.size := (List.getElem?_eq_some_iff.1 held).1
  rw [get?, TokenId.index_ofNat, Nat.mod_eq_of_lt (Nat.lt_of_lt_of_le inside few), held]

end Vocabulary

end TokenTables
