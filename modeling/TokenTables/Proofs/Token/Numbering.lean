import Mathlib.Data.List.Nodup
import Mathlib.Order.Bounds.Basic
import Mathlib.Order.Lattice.Nat
import TokenTables.Proofs.Token.Declaring

/-!
Names and ids. The ids of a vocabulary are numbered from zero up in the order of the declarations,
and each name belongs to one id. A push answers with the new id, the next one, or with the id that
the name has already, and then it leaves the vocabulary as it was. So the correspondence holds after
every run of pushes, whichever of them were refused.

Pairs are pushed one to a line, and the first name that repeats an earlier one ends the run.
-/

namespace TokenTables

namespace Vocabulary

/-- The answer to a declaration, its id or the id that its name has already, and the vocabulary
after it. -/
def push (vocabulary : Vocabulary) (declaration : Declaration) :
    Except TokenId TokenId × Vocabulary :=
  match vocabulary.declare declaration with
  | .ok grown => (.ok vocabulary.nextId, grown)
  | .error first => (.error first, vocabulary)

def pushAll (vocabulary : Vocabulary) (declarations : List Declaration) : Vocabulary :=
  declarations.foldl (fun vocabulary declaration => (vocabulary.push declaration).2) vocabulary

def ids (vocabulary : Vocabulary) : List TokenId :=
  (List.range vocabulary.size).map TokenId.ofNat

/-- Ids, names and order are three views of the declarations. -/
structure Numbered (vocabulary : Vocabulary) : Prop where
  index_ids : vocabulary.ids.map TokenId.index = List.range vocabulary.size
  mem_ids_iff : ∀ id, id ∈ vocabulary.ids ↔ (vocabulary.get? id).isSome
  idOf?_eq_some_iff : ∀ name id, vocabulary.idOf? name = some id ↔
    ∃ declaration, vocabulary.get? id = some declaration ∧ declaration.name = name
  declarations_inOrder : vocabulary.declarations.map some = vocabulary.ids.map vocabulary.get?
  names_inOrder : vocabulary.names.map some =
    vocabulary.ids.map fun id => (vocabulary.get? id).map Declaration.name
  entries_inOrder : vocabulary.entries.map some =
    vocabulary.ids.map fun id => (vocabulary.get? id).map fun declaration => (id, declaration)

structure Answers (vocabulary : Vocabulary) (declaration : Declaration) : Prop where
  taken : declaration.name ∈ vocabulary.names → ∃ id first,
    vocabulary.push declaration = (.error id, vocabulary) ∧
      vocabulary.get? id = some first ∧ first.name = declaration.name
  fresh : declaration.name ∉ vocabulary.names → ∃ id grown,
    vocabulary.push declaration = (.ok id, grown) ∧ id.index = vocabulary.size ∧
      grown.declarations = vocabulary.declarations ++ [declaration]

/-! The correspondence. -/

section

variable {vocabulary : Vocabulary}

variable (few : vocabulary.size ≤ UInt32.size)
include few

theorem index_of_inside {position : Nat} (inside : position < vocabulary.size) :
    (TokenId.ofNat position).index = position := by
  rw [TokenId.index_ofNat, Nat.mod_eq_of_lt (Nat.lt_of_lt_of_le inside few)]

theorem map_entries : vocabulary.entries.map some =
    vocabulary.ids.map fun id => (vocabulary.get? id).map fun declaration => (id, declaration) := by
  apply List.ext_getElem
  · simp [entries, ids, size]
  · intro position left _
    have inside : position < vocabulary.size := by simpa [entries, size] using left
    have found := List.getElem?_eq_getElem inside
    simp only [entries, ids, List.getElem_map, List.getElem_zipIdx, List.getElem_range, get?,
      index_of_inside few inside, found, Option.map_some, Nat.zero_add]
    rfl

theorem numbered : vocabulary.Numbered := by
  have entries := map_entries few
  have declarations : vocabulary.entries.map Prod.snd = vocabulary.declarations := by
    rw [Vocabulary.entries, List.map_map]
    exact List.zipIdx_map_fst 0 vocabulary.declarations
  have view : ∀ {α : Type} (read : Declaration → α), (vocabulary.declarations.map read).map some =
      vocabulary.ids.map fun id => (vocabulary.get? id).map read := by
    intro α read
    have seen := congrArg (List.map (Option.map fun entry => read entry.2)) entries
    simpa only [← declarations, List.map_map, Function.comp_def, Option.map_some, Option.map_map]
      using seen
  constructor
  case index_ids =>
    rw [ids, List.map_map]
    have same : ∀ position ∈ List.range vocabulary.size,
        (TokenId.index ∘ TokenId.ofNat) position = position := fun position inside =>
      index_of_inside few (List.mem_range.1 inside)
    exact (List.map_congr_left same).trans (List.map_id' _)
  case mem_ids_iff =>
    intro id
    rw [get?, isSome_getElem?, ids, List.mem_map]
    constructor
    · rintro ⟨position, inside, rfl⟩
      rw [index_of_inside few (List.mem_range.1 inside)]
      exact List.mem_range.1 inside
    · exact fun inside => ⟨id.index, List.mem_range.2 inside, id.ofNat_index⟩
  case idOf?_eq_some_iff =>
    intro name id
    rw [idOf?, Option.map_eq_some_iff]
    simp only [position?_eq_some_iff]
    constructor
    · rintro ⟨position, ⟨declaration, held, named⟩, rfl⟩
      exact ⟨declaration, get?_ofNat few held, named⟩
    · rintro ⟨declaration, held, named⟩
      exact ⟨id.index, ⟨declaration, held, named⟩, id.ofNat_index⟩
  case declarations_inOrder => simpa using view id
  case names_inOrder => exact view Declaration.name
  case entries_inOrder => exact entries

end

/-! Pushing. -/

section

variable {vocabulary : Vocabulary} {declaration : Declaration}

theorem push_fresh (fresh : declaration.name ∉ vocabulary.names) :
    ∃ grown, vocabulary.push declaration = (.ok vocabulary.nextId, grown) ∧
      grown.declarations = vocabulary.declarations ++ [declaration] := by
  obtain ⟨grown, declared, appended⟩ := declare_fresh fresh
  exact ⟨grown, by rw [push, declared], appended⟩

theorem answers (few : vocabulary.size < UInt32.size) (declaration : Declaration) :
    vocabulary.Answers declaration where
  taken held := by
    obtain ⟨position, first, refused, found, named⟩ := declare_taken held
    exact ⟨.ofNat position, first, by rw [push, refused],
      get?_ofNat (Nat.le_of_lt few) found, named⟩
  fresh new := by
    obtain ⟨grown, pushed, appended⟩ := push_fresh new
    have index : vocabulary.nextId.index = vocabulary.size := by
      rw [nextId, TokenId.index_ofNat, Nat.mod_eq_of_lt few]
    exact ⟨vocabulary.nextId, grown, pushed, index, appended⟩

end

theorem find?_pushAll (vocabulary : Vocabulary) (declarations : List Declaration) (name : String) :
    (vocabulary.pushAll declarations).declarations.find? (fun held => held.name = name) =
      (vocabulary.declarations.find? fun held => held.name = name).or
        (declarations.find? fun held => held.name = name) := by
  induction declarations generalizing vocabulary with
  | nil => exact (Option.or_none).symm
  | cons declaration rest ih =>
    have step : vocabulary.pushAll (declaration :: rest) =
        (vocabulary.push declaration).2.pushAll rest := rfl
    rw [step, ih]
    by_cases taken : declaration.name ∈ vocabulary.names
    · obtain ⟨position, first, refused, _⟩ := declare_taken taken
      have kept : (vocabulary.push declaration).2 = vocabulary := by rw [push, refused]
      rw [kept]
      by_cases same : declaration.name = name
      · obtain ⟨held, declared, named⟩ := List.mem_map.1 taken
        have found : (vocabulary.declarations.find? fun held => held.name = name).isSome :=
          List.find?_isSome.2 ⟨held, declared, by simp [named, same]⟩
        obtain ⟨earlier, found⟩ := Option.isSome_iff_exists.1 found
        rw [found, Option.some_or, Option.some_or]
      · rw [List.find?_cons_of_neg (by simpa using same)]
    · obtain ⟨grown, pushed, appended⟩ := push_fresh taken
      rw [pushed, appended, List.find?_append, Option.or_assoc, ← List.find?_append,
        List.singleton_append]

/-! Declaring pairs. -/

def declarationsOf (pairs : List (String × Option String)) : List Declaration :=
  pairs.zipIdx.map fun ((name, spelling), position) => Declaration.make name spelling (position + 1)

def Repeats (names : List String) (position : Nat) : Prop :=
  ∃ name, names[position]? = some name ∧ name ∈ names.take position

/-- How declaring pairs comes out: with all of them pushed, or with the first name that repeats. -/
structure PairsOutcome (pairs : List (String × Option String)) : Prop where
  fails_iff : (∃ name, ofPairs pairs = .error name) ↔ ¬(pairs.map Prod.fst).Nodup
  error_iff : ∀ name, ofPairs pairs = .error name ↔
    ∃ position, IsLeast {position | Repeats (pairs.map Prod.fst) position} position ∧
      (pairs.map Prod.fst)[position]? = some name
  ok_iff : ∀ vocabulary, ofPairs pairs = .ok vocabulary ↔
    (pairs.map Prod.fst).Nodup ∧ vocabulary = empty.pushAll (declarationsOf pairs)

theorem names_declarationsOf (pairs : List (String × Option String)) :
    (declarationsOf pairs).map Declaration.name = pairs.map Prod.fst := by
  conv_rhs => rw [← List.zipIdx_map_fst 0 pairs]
  rw [declarationsOf, List.map_map, List.map_map]
  rfl

theorem not_repeats {names : List String} (distinct : names.Nodup) (position : Nat) :
    ¬Repeats names position := by
  rintro ⟨name, here, earlier⟩
  obtain ⟨inside, here⟩ := List.getElem?_eq_some_iff.1 here
  have later : name ∈ names.drop position := by
    rw [List.drop_eq_getElem_cons inside, here]
    exact List.mem_cons_self
  exact List.disjoint_take_drop distinct (Nat.le_refl position) earlier later

/-- A name after distinct names, one of which it is, is the first that repeats. -/
theorem isLeast_repeats {before : List String} {name : String} (after : List String)
    (distinct : before.Nodup) (held : name ∈ before) :
    IsLeast {position | Repeats (before ++ name :: after) position} before.length := by
  constructor
  · exact ⟨name, by simp, by simpa using held⟩
  · rintro position ⟨other, here, earlier⟩
    by_contra inside
    have short : position < before.length := Nat.lt_of_not_le inside
    rw [List.getElem?_append_left short] at here
    rw [List.take_append_of_le_length (Nat.le_of_lt short)] at earlier
    exact not_repeats distinct position ⟨other, here, earlier⟩

def declareAll (vocabulary : Vocabulary) (declarations : List Declaration) :
    Except String Vocabulary :=
  declarations.foldlM (fun vocabulary declaration =>
    (vocabulary.declare declaration).mapError fun _ => declaration.name) vocabulary

theorem ofPairs_eq (pairs : List (String × Option String)) :
    ofPairs pairs = empty.declareAll (declarationsOf pairs) := by
  rw [ofPairs, declareAll, declarationsOf, List.foldlM_map]
  rfl

/-- A run of declarations that all are accepted is a run of pushes, and one that is not ends at a
name after distinct names, one of which it is. -/
theorem declareAll_outcome (vocabulary : Vocabulary) (declarations : List Declaration) :
    match vocabulary.declareAll declarations with
    | .ok grown => grown = vocabulary.pushAll declarations ∧
        grown.declarations = vocabulary.declarations ++ declarations
    | .error name => ∃ before after,
        vocabulary.names ++ declarations.map Declaration.name = before ++ name :: after ∧
          before.Nodup ∧ name ∈ before := by
  induction declarations generalizing vocabulary with
  | nil => exact ⟨rfl, (List.append_nil _).symm⟩
  | cons declaration rest ih =>
    by_cases taken : declaration.name ∈ vocabulary.names
    · obtain ⟨position, first, refused, _⟩ := declare_taken taken
      have ended : vocabulary.declareAll (declaration :: rest) = .error declaration.name := by
        rw [declareAll, List.foldlM_cons, refused]
        rfl
      rw [ended]
      exact ⟨vocabulary.names, rest.map Declaration.name, rfl, vocabulary.distinct, taken⟩
    · obtain ⟨grown, accepted, appended⟩ := declare_fresh taken
      have goesOn : vocabulary.declareAll (declaration :: rest) = grown.declareAll rest := by
        rw [declareAll, List.foldlM_cons, accepted]
        rfl
      have pushed : vocabulary.pushAll (declaration :: rest) = grown.pushAll rest := by
        rw [pushAll, List.foldl_cons, push, accepted]
        rfl
      have names : grown.names = vocabulary.names ++ [declaration.name] := by
        rw [Vocabulary.names, appended, List.map_append]
        rfl
      have later := ih grown
      rw [goesOn, pushed]
      split at later
      next last whole =>
        refine ⟨later.1, later.2.trans ?_⟩
        rw [appended, List.append_assoc, List.singleton_append]
      next name ended =>
        obtain ⟨before, after, split, distinct, held⟩ := later
        refine ⟨before, after, ?_, distinct, held⟩
        rw [← split, names, List.append_assoc, List.singleton_append, List.map_cons]

theorem pairsOutcome (pairs : List (String × Option String)) : PairsOutcome pairs := by
  have outcome := empty.declareAll_outcome (declarationsOf pairs)
  rw [← ofPairs_eq, names_declarationsOf] at outcome
  have none : empty.names = [] := rfl
  rw [none, List.nil_append] at outcome
  cases result : ofPairs pairs with
  | ok vocabulary =>
    rw [result] at outcome
    obtain ⟨pushed, whole⟩ := outcome
    have distinct : (pairs.map Prod.fst).Nodup := by
      have names := vocabulary.distinct
      rwa [whole, List.map_append, names_declarationsOf] at names
    constructor
    case fails_iff => simp [result, distinct]
    case error_iff =>
      intro name
      rw [result]
      apply iff_of_false (by simp)
      rintro ⟨position, first, _⟩
      exact not_repeats distinct position first.1
    case ok_iff =>
      intro other
      rw [result, Except.ok.injEq, ← pushed]
      exact ⟨fun same => ⟨distinct, same.symm⟩, fun same => same.2.symm⟩
  | error name =>
    rw [result] at outcome
    obtain ⟨before, after, split, distinct, held⟩ := outcome
    have repeated : ¬(pairs.map Prod.fst).Nodup := by
      rw [split, List.nodup_append]
      exact fun apart => apart.2.2 name held name List.mem_cons_self rfl
    have least := isLeast_repeats after distinct held
    rw [← split] at least
    constructor
    case fails_iff => simp [result, repeated]
    case error_iff =>
      intro other
      have here : (pairs.map Prod.fst)[before.length]? = some name := by simp [split]
      rw [result, Except.error.injEq]
      constructor
      · rintro rfl
        exact ⟨before.length, least, here⟩
      · rintro ⟨position, first, there⟩
        rw [first.unique least, here] at there
        exact Option.some.inj there
    case ok_iff => simp [result, repeated]

/-- After every run of pushes names and ids correspond, the first declaration of each name is the
one that is kept, and the next push is answered by the id of its name. Declaring pairs is a run of
pushes that ends at the first name that repeats. -/
theorem numbered_after_pushes :
    (∀ pushes : List Declaration, (empty.pushAll pushes).size < UInt32.size →
      (empty.pushAll pushes).Numbered ∧
        (∀ name, (empty.pushAll pushes).declarations.find? (fun held => held.name = name) =
          pushes.find? fun held => held.name = name) ∧
        ∀ declaration, (empty.pushAll pushes).Answers declaration) ∧
    ∀ pairs, PairsOutcome pairs := by
  refine ⟨fun pushes few => ⟨numbered (Nat.le_of_lt few), fun name => ?_, answers few⟩,
    pairsOutcome⟩
  exact empty.find?_pushAll pushes name

def repeatedPushes : List Declaration :=
  [.make "PLUS" (some "+") 1, .make "PLUS" (some "++") 2, .make "COMMA" none 3]

theorem repeatedPushes_numbered :
    (empty.pushAll repeatedPushes).size < UInt32.size ∧
      (empty.pushAll repeatedPushes).names = ["PLUS", "COMMA"] ∧
      (empty.pushAll repeatedPushes).Numbered ∧
      ∀ declaration, (empty.pushAll repeatedPushes).Answers declaration := by
  have few : (empty.pushAll repeatedPushes).size < UInt32.size := by decide
  obtain ⟨numbered, _, answers⟩ := numbered_after_pushes.1 repeatedPushes few
  exact ⟨few, by decide, numbered, answers⟩

end Vocabulary

end TokenTables
