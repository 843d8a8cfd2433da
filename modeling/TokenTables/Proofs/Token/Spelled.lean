import Mathlib.Data.List.Basic
import TokenTables.Proofs.Text.Ascii
import TokenTables.Token.Vocabulary

/-!
The spelled declarations of a vocabulary. Their ids ascend as long as positions fit the words that
hold them, no spelling is empty, and looking a spelling up in any list made from them, one pair to
a declaration, gives the first declaration with that spelling. Names are distinct, so no entry is
listed twice, of two entries one is before the other, and a name is listed with its own spelling
only.
-/

namespace TokenTables

theorem Declaration.spelling_ne_empty (declaration : Declaration) :
    declaration.spelling ≠ some "" := by
  intro empty
  have settled := declaration.settled
  rw [empty] at settled
  unfold settleSpelling at settled
  split at settled <;> simp at settled

namespace Vocabulary

abbrev SpelledEntry := TokenId × Declaration × String

def firstSpelled (vocabulary : Vocabulary) (text : String) : Option TokenId :=
  (vocabulary.entries.find? fun entry => entry.2.spelling = some text).map Prod.fst

/-- Some declaration with this id has this spelling. -/
def Spells (vocabulary : Vocabulary) (id : TokenId) (text : String) : Prop :=
  ∃ declaration, (id, declaration, text) ∈ vocabulary.spelled

theorem mem_spelled_iff (vocabulary : Vocabulary) (id : TokenId) (declaration : Declaration)
    (spelling : String) :
    (id, declaration, spelling) ∈ vocabulary.spelled ↔
      (id, declaration) ∈ vocabulary.entries ∧ declaration.spelling = some spelling := by
  simp only [spelled, List.mem_filterMap, Option.map_eq_some_iff, Prod.exists, Prod.mk.injEq]
  constructor
  · rintro ⟨_, _, member, _, spelt, rfl, rfl, rfl⟩
    exact ⟨member, spelt⟩
  · rintro ⟨member, spelt⟩
    exact ⟨id, declaration, member, spelling, spelt, rfl, rfl, rfl⟩

theorem mem_entries_iff (vocabulary : Vocabulary) (id : TokenId) (declaration : Declaration) :
    (id, declaration) ∈ vocabulary.entries ↔
      ∃ position, vocabulary.declarations[position]? = some declaration ∧
        id = TokenId.ofNat position := by
  simp only [entries, List.mem_map, Prod.exists, List.mem_zipIdx_iff_getElem?, Prod.mk.injEq]
  constructor
  · rintro ⟨_, position, found, rfl, rfl⟩
    exact ⟨position, found, rfl⟩
  · rintro ⟨position, found, rfl⟩
    exact ⟨declaration, position, found, rfl, rfl⟩

theorem spelling_ne_empty {vocabulary : Vocabulary} {entry : SpelledEntry}
    (member : entry ∈ vocabulary.spelled) : entry.2.2 ≠ "" := by
  intro empty
  have spelt := ((vocabulary.mem_spelled_iff entry.1 entry.2.1 entry.2.2).1 member).2
  exact entry.2.1.spelling_ne_empty (empty ▸ spelt)

theorem spellings_ne_empty {vocabulary : Vocabulary} {before after : List SpelledEntry}
    (split : vocabulary.spelled = before ++ after) : ∀ entry ∈ before, entry.2.2 ≠ "" := by
  intro entry member
  have listed : entry ∈ vocabulary.spelled := by simp [split, member]
  exact spelling_ne_empty listed

/-- Also where positions do not fit their words, the ids that are given out are declared. -/
theorem get?_ofNat_isSome {vocabulary : Vocabulary} {position : Nat}
    (inside : position < vocabulary.size) : (vocabulary.get? (TokenId.ofNat position)).isSome := by
  have small := Nat.mod_le position UInt32.size
  rw [size] at inside
  rw [get?, TokenId.index_ofNat, List.getElem?_eq_getElem (by omega)]
  rfl

theorem get?_isSome_of_mem_entries {vocabulary : Vocabulary} {id : TokenId}
    {declaration : Declaration} (member : (id, declaration) ∈ vocabulary.entries) :
    (vocabulary.get? id).isSome := by
  obtain ⟨position, found, rfl⟩ := (vocabulary.mem_entries_iff id declaration).1 member
  exact get?_ofNat_isSome (List.getElem?_eq_some_iff.1 found).1

theorem Spells.get?_isSome {vocabulary : Vocabulary} {id : TokenId} {text : String}
    (spells : vocabulary.Spells id text) : (vocabulary.get? id).isSome := by
  obtain ⟨declaration, member⟩ := spells
  exact get?_isSome_of_mem_entries ((vocabulary.mem_spelled_iff id declaration text).1 member).1

theorem get?_of_mem_spelled {vocabulary : Vocabulary} (few : vocabulary.size < UInt32.size)
    {entry : SpelledEntry} (member : entry ∈ vocabulary.spelled) :
    vocabulary.get? entry.1 = some entry.2.1 := by
  obtain ⟨member, _⟩ := (vocabulary.mem_spelled_iff entry.1 entry.2.1 entry.2.2).1 member
  obtain ⟨position, found, same⟩ := (vocabulary.mem_entries_iff _ _).1 member
  have inside : position < vocabulary.size := (List.getElem?_eq_some_iff.1 found).1
  have fits : position < UInt32.size := Nat.lt_trans inside few
  rw [get?, same, TokenId.index_ofNat, Nat.mod_eq_of_lt fits, found]

theorem spelled_ascending {vocabulary : Vocabulary} (few : vocabulary.size < UInt32.size) :
    vocabulary.spelled.Pairwise fun first second => first.1.index < second.1.index := by
  have entriesAscending : vocabulary.entries.Pairwise fun first second =>
      first.1.index < second.1.index := by
    refine List.pairwise_iff_getElem.2 fun first second inFirst inSecond order => ?_
    simp only [entries, List.length_map, List.length_zipIdx] at inFirst inSecond
    simp only [size, UInt32.size] at few
    simp only [entries, List.getElem_map, List.getElem_zipIdx, TokenId.index_ofNat, UInt32.size]
    omega
  refine List.Pairwise.filterMap _ ?_ entriesAscending
  intro first second order named member other otherMember
  simp only [Option.map_eq_some_iff] at member otherMember
  obtain ⟨_, _, rfl⟩ := member
  obtain ⟨_, _, rfl⟩ := otherMember
  exact order

/-- Looking up one spelling finds the first declaration with it, by whatever key the spellings
are told apart. -/
theorem lookup_spelled {α : Type} [BEq α] [LawfulBEq α] {key : String → α}
    (injective : Function.Injective key) (vocabulary : Vocabulary) (text : String) :
    (vocabulary.spelled.map fun entry => (key entry.2.2, entry.1)).lookup (key text) =
      vocabulary.firstSpelled text := by
  unfold spelled firstSpelled
  induction vocabulary.entries with
  | nil => rfl
  | cons entry rest ih =>
    obtain ⟨id, declaration⟩ := entry
    rw [List.find?_cons]
    cases spelt : declaration.spelling with
    | none => simpa [List.filterMap_cons, spelt] using ih
    | some spelling =>
      by_cases same : spelling = text
      · subst same
        simp [spelt]
      · have different : (key text == key spelling) = false :=
          beq_eq_false_iff_ne.2 fun keys => same (injective keys).symm
        simpa [List.filterMap_cons, spelt, List.lookup_cons, different, same] using ih

theorem nodup_spelled (vocabulary : Vocabulary) : vocabulary.spelled.Nodup := by
  have names : (vocabulary.entries.map fun entry => entry.2.name) =
      vocabulary.declarations.map Declaration.name := by
    rw [entries, List.map_map, ← List.zipIdx_map_fst 0 vocabulary.declarations, List.map_map]
    simp [Function.comp_def]
  have distinct : vocabulary.entries.Pairwise fun first second =>
      first.2.name ≠ second.2.name := by
    apply List.pairwise_map.1
    rw [names]
    exact vocabulary.distinct
  apply List.Pairwise.filterMap _ ?_ distinct
  intro first second different entry listed other otherListed same
  simp only [Option.map_eq_some_iff] at listed otherListed
  obtain ⟨_, _, rfl⟩ := listed
  obtain ⟨_, _, rfl⟩ := otherListed
  exact different (congrArg (fun entry => entry.2.1.name) same)

def Before (vocabulary : Vocabulary) (first second : SpelledEntry) : Prop :=
  vocabulary.spelled.idxOf first < vocabulary.spelled.idxOf second

instance (vocabulary : Vocabulary) (first second : SpelledEntry) :
    Decidable (vocabulary.Before first second) := Nat.decLt ..

theorem notMem_before {vocabulary : Vocabulary} {before after : List SpelledEntry}
    {entry : SpelledEntry} (split : vocabulary.spelled = before ++ entry :: after) :
    entry ∉ before := by
  have once := vocabulary.nodup_spelled
  rw [split] at once
  intro member
  exact (List.nodup_append.1 once).2.2 entry member entry List.mem_cons_self rfl

theorem before_iff_mem {vocabulary : Vocabulary} {before after : List SpelledEntry}
    {entry : SpelledEntry} (split : vocabulary.spelled = before ++ entry :: after)
    (other : SpelledEntry) : vocabulary.Before other entry ↔ other ∈ before := by
  rw [Before, split, List.idxOf_append_of_notMem (notMem_before split), List.idxOf_cons_self]
  by_cases member : other ∈ before
  · have inside := List.idxOf_lt_length_of_mem member
    simp [List.idxOf_append_of_mem member, member, inside]
  · rw [List.idxOf_append_of_notMem member]
    simp only [member, iff_false]
    omega

theorem before_total {vocabulary : Vocabulary} {first second : SpelledEntry}
    (member : first ∈ vocabulary.spelled) (different : first ≠ second) :
    vocabulary.Before first second ∨ vocabulary.Before second first := by
  have places : vocabulary.spelled.idxOf first ≠ vocabulary.spelled.idxOf second := fun same =>
    different ((List.idxOf_inj member).1 same)
  unfold Before
  omega

def spellingSlots (vocabulary : Vocabulary) : List (String × String) :=
  vocabulary.declarations.filterMap fun declaration =>
    declaration.spelling.map fun spelling => (declaration.name, spelling)

theorem mem_spellingSlots (vocabulary : Vocabulary) : ∀ slot ∈ vocabulary.spellingSlots,
    ∃ declaration ∈ vocabulary.declarations,
      declaration.name = slot.1 ∧ declaration.spelling = some slot.2 := by
  intro slot member
  obtain ⟨declaration, declared, held⟩ := List.mem_filterMap.1 member
  obtain ⟨spelling, spelt, rfl⟩ := Option.map_eq_some_iff.1 held
  exact ⟨declaration, declared, rfl, spelt⟩

theorem lookup_spellingSlots (vocabulary : Vocabulary) :
    ∀ declaration ∈ vocabulary.declarations,
      vocabulary.spellingSlots.lookup declaration.name = declaration.spelling := by
  have distinct := vocabulary.distinct
  unfold spellingSlots
  generalize vocabulary.declarations = declarations at distinct
  induction declarations with
  | nil => exact List.forall_mem_nil _
  | cons first rest ih =>
    rw [List.map_cons, List.nodup_cons] at distinct
    obtain ⟨fresh, distinctRest⟩ := distinct
    -- What the first name is looked up to is not in the rest, also where it has no slot itself.
    have apart : ∀ declaration ∈ rest, declaration.name ≠ first.name := by
      intro declaration member same
      exact fresh (List.mem_map.2 ⟨declaration, member, same⟩)
    rw [List.forall_mem_cons]
    constructor
    · cases spelt : first.spelling with
      | some spelling => simp [spelt]
      | none =>
        rw [List.filterMap_cons_none (by rw [spelt]; rfl), List.lookup_eq_none_iff]
        intro slot member
        obtain ⟨declaration, declared, held⟩ := List.mem_filterMap.1 member
        obtain ⟨spelling, _, rfl⟩ := Option.map_eq_some_iff.1 held
        exact bne_iff_ne.2 (apart declaration declared).symm
    · intro declaration member
      have later := ih distinctRest declaration member
      cases spelt : first.spelling with
      | none => rwa [List.filterMap_cons_none (by rw [spelt]; rfl)]
      | some spelling =>
        rw [List.filterMap_cons_some (by rw [spelt]; rfl), List.lookup_cons,
          beq_eq_false_iff_ne.2 (apart declaration member)]
        exact later

theorem spellings_eq (vocabulary : Vocabulary) :
    vocabulary.declarations.map Declaration.spelling =
      vocabulary.names.map fun name => vocabulary.spellingSlots.lookup name := by
  rw [names, List.map_map]
  apply List.map_congr_left
  intro declaration member
  exact (vocabulary.lookup_spellingSlots declaration member).symm

end Vocabulary

end TokenTables
