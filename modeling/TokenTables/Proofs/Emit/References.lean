import Mathlib.Tactic.Common
import TokenTables.Emit.Dispatch
import TokenTables.Proofs.Trie.Continuation

/-!
The order in which the tables refer to tokens. A node refers to its own tokens before it refers to
those below its children, and children are written one after another. So writing fails at the first
token in this order that is not declared, however deep in the tables it is, and for no other reason.
-/

namespace TokenTables

namespace Trie

/-- The bindings below a node as they are written: the tokens of the node itself, and then what is
below its children, both in ascending order of the codes. -/
def writtenFrom (trie : Trie) : Nat → List (List UInt8 × TokenId) :=
  trie.fold fun index below =>
    (trie.node index).tokens.entries.map (fun (code, id) => ([code], id)) ++
      below.flatMap fun (code, written) => written.map fun (codes, id) => (code :: codes, id)

def written (trie : Trie) : List (List UInt8 × TokenId) := trie.writtenFrom root

theorem writtenFrom_eq (trie : Trie) (index : Nat) :
    trie.writtenFrom index =
      (trie.node index).tokens.entries.map (fun (code, id) => ([code], id)) ++
        (trie.node index).children.entries.flatMap fun slot =>
          (trie.writtenFrom slot.2).map fun (codes, id) => (slot.1 :: codes, id) := by
  rw [writtenFrom, fold_eq, List.flatMap_map]

theorem mem_writtenFrom_iff (trie : Trie) (index : Nat) (spelling : List UInt8) (id : TokenId) :
    (spelling, id) ∈ trie.writtenFrom index ↔ trie.findFrom index spelling = some id := by
  induction index using trie.below_induction generalizing spelling with
  | step index ih =>
    rw [writtenFrom_eq, findFrom_eq_some_iff, List.mem_append, List.mem_map, List.mem_flatMap]
    apply or_congr
    · constructor
      · rintro ⟨⟨code, held⟩, member, same⟩
        cases same
        exact ⟨code, member, rfl⟩
      · rintro ⟨code, member, rfl⟩
        exact ⟨(code, id), member, rfl⟩
    · refine exists_congr fun slot => and_congr_right fun member => ?_
      have below := fun rest => ih slot.1 slot.2 ((trie.child?_eq_some_iff ..).2 member) rest
      rw [List.mem_map]
      constructor
      · rintro ⟨⟨rest, held⟩, listed, same⟩
        cases same
        exact ⟨rest, (below rest).1 listed, rfl⟩
      · rintro ⟨rest, found, rfl⟩
        exact ⟨(rest, id), (below rest).2 found, rfl⟩

theorem exists_cons_of_mem_writtenFrom {trie : Trie} {index : Nat} {binding : List UInt8 × TokenId}
    (listed : binding ∈ trie.writtenFrom index) : ∃ next rest, binding.1 = next :: rest := by
  apply List.exists_cons_of_ne_nil
  intro nothing
  have found := (trie.mem_writtenFrom_iff index binding.1 binding.2).1 listed
  rw [nothing] at found
  contradiction

theorem writtenFrom_precedes (trie : Trie) (index : Nat) :
    (trie.writtenFrom index).Pairwise fun first second => Precedes first.1 second.1 := by
  induction index using trie.below_induction with
  | step index ih =>
    rw [writtenFrom_eq]
    apply List.pairwise_append.2
    refine ⟨?tokens, List.pairwise_flatMap.2 ⟨?child, ?children⟩, ?ownFirst⟩
    case tokens => exact List.pairwise_map.2 (trie.node index).tokens.ascending
    case child =>
      intro slot member
      have below := ih slot.1 slot.2 ((trie.child?_eq_some_iff ..).2 member)
      exact List.pairwise_map.2 (below.imp fun order => order.append [slot.1])
    case children =>
      -- Below different children the first code decides, since all spellings there go on.
      refine (trie.node index).children.ascending.imp ?_
      intro slot other less first firstBelow second secondBelow
      obtain ⟨binding, listed, rfl⟩ := List.mem_map.1 firstBelow
      obtain ⟨later, laterListed, rfl⟩ := List.mem_map.1 secondBelow
      obtain ⟨next, rest, more⟩ := exists_cons_of_mem_writtenFrom listed
      obtain ⟨following, others, laterMore⟩ := exists_cons_of_mem_writtenFrom laterListed
      simp only [more, laterMore]
      exact .inl less
    case ownFirst =>
      intro own isToken below isBelow
      obtain ⟨token, _, rfl⟩ := List.mem_map.1 isToken
      obtain ⟨slot, _, inside⟩ := List.mem_flatMap.1 isBelow
      obtain ⟨binding, listed, rfl⟩ := List.mem_map.1 inside
      obtain ⟨next, rest, more⟩ := exists_cons_of_mem_writtenFrom listed
      simp only [more]
      trivial

theorem mem_written_iff (trie : Trie) (spelling : List UInt8) (id : TokenId) :
    (spelling, id) ∈ trie.written ↔ trie.find? spelling = some id := by
  rw [written, mem_writtenFrom_iff, find?_eq_findFrom]

theorem mem_references_iff (trie : Trie) (id : TokenId) :
    id ∈ trie.written.map Prod.snd ↔ ∃ spelling, trie.find? spelling = some id := by
  rw [List.mem_map]
  constructor
  · rintro ⟨⟨spelling, _⟩, listed, rfl⟩
    exact ⟨spelling, (trie.mem_written_iff ..).1 listed⟩
  · rintro ⟨spelling, bound⟩
    exact ⟨(spelling, id), (trie.mem_written_iff ..).2 bound, rfl⟩

/-! The first token that is not declared. -/

def firstForeign? (trie : Trie) (vocabulary : Vocabulary) : Option TokenId :=
  (trie.written.map Prod.snd).find? fun id => (vocabulary.get? id).isNone

/-- A spelling whose token is not declared and that comes before all others like it: of the tokens
of a node the one with the least code, and these before what is below the children. -/
structure FirstForeign (trie : Trie) (vocabulary : Vocabulary) (spelling : List UInt8)
    (id : TokenId) : Prop where
  bound : trie.find? spelling = some id
  foreign : vocabulary.get? id = none
  least : ∀ other held, trie.find? other = some held → vocabulary.get? held = none →
    other = spelling ∨ Precedes spelling other

theorem FirstForeign.unique {trie : Trie} {vocabulary : Vocabulary} {spelling other : List UInt8}
    {id held : TokenId} (first : trie.FirstForeign vocabulary spelling id)
    (second : trie.FirstForeign vocabulary other held) : held = id := by
  have same : other = spelling := Precedes.eq_of_first
    (first.least other held second.bound second.foreign)
    (second.least spelling id first.bound first.foreign)
  have bound := second.bound
  rw [same, first.bound] at bound
  exact (Option.some.inj bound).symm

theorem exists_firstForeign {trie : Trie} {vocabulary : Vocabulary} {id : TokenId}
    (found : trie.firstForeign? vocabulary = some id) :
    ∃ spelling, trie.FirstForeign vocabulary spelling id := by
  rw [firstForeign?, List.find?_map] at found
  obtain ⟨⟨spelling, held⟩, first, rfl⟩ := Option.map_eq_some_iff.1 found
  obtain ⟨foreign, before, after, split, declared⟩ := List.find?_eq_some_iff_append.1 first
  have ascending := trie.writtenFrom_precedes root
  rw [← written, split] at ascending
  have later := (List.pairwise_cons.1 (List.pairwise_append.1 ascending).2.1).1
  refine ⟨spelling, ?bound, Option.isNone_iff_eq_none.1 foreign, ?least⟩
  case bound =>
    apply (trie.mem_written_iff ..).1
    simp [split]
  case least =>
    intro other held bound missing
    have listed := (trie.mem_written_iff other held).2 bound
    rw [split, List.mem_append, List.mem_cons] at listed
    rcases listed with isBefore | same | isAfter
    · have named := declared _ isBefore
      simp [missing] at named
    · exact .inl (Prod.mk.inj same).1
    · exact .inr (later _ isAfter)

/-- The order of writing is the order of the search below a node, so what comes first in the one is
least in the other. -/
theorem firstForeign?_eq_some_iff (trie : Trie) (vocabulary : Vocabulary) (id : TokenId) :
    trie.firstForeign? vocabulary = some id ↔
      ∃ spelling, trie.FirstForeign vocabulary spelling id := by
  constructor
  · exact exists_firstForeign
  · rintro ⟨spelling, first⟩
    cases found : trie.firstForeign? vocabulary with
    | some other =>
      obtain ⟨_, earlier⟩ := exists_firstForeign found
      rw [first.unique earlier]
    | none =>
      have listed := (trie.mem_references_iff id).2 ⟨spelling, first.bound⟩
      have declared := List.find?_eq_none.1 found id listed
      simp [first.foreign] at declared

end Trie

/-! Where writing fails. -/

/-- What refers to these tokens, one after another: it fails at the first that is not declared, and
comes to a result if there is none. -/
def Refers {α : Type} (vocabulary : Vocabulary) (ids : List TokenId) (result : Except EmitError α) :
    Prop :=
  match ids.find? fun id => (vocabulary.get? id).isNone with
  | none => ∃ value, result = .ok value
  | some id => result = .error (.unknownToken id)

namespace Refers

variable {α β : Type} {vocabulary : Vocabulary} {ids : List TokenId} {result : Except EmitError α}

theorem nothing (value : α) : Refers vocabulary [] (.ok value : Except EmitError α) := ⟨value, rfl⟩

theorem bind {later : List TokenId} {next : α → Except EmitError β}
    (first : Refers vocabulary ids result) (rest : ∀ value, Refers vocabulary later (next value)) :
    Refers vocabulary (ids ++ later) (result >>= next) := by
  unfold Refers at first ⊢
  rw [List.find?_append]
  cases foreign : ids.find? fun id => (vocabulary.get? id).isNone with
  | none =>
    rw [foreign] at first
    obtain ⟨value, rfl⟩ := first
    exact rest value
  | some id =>
    rw [foreign] at first
    rw [first]
    rfl

theorem map {next : α → β} (refers : Refers vocabulary ids result) :
    Refers vocabulary ids (do return next (← result)) := by
  have whole : Refers vocabulary (ids ++ []) (do return next (← result)) :=
    refers.bind fun value => nothing (next value)
  rwa [List.append_nil] at whole

theorem mapM {inputs : List α} {write : α → Except EmitError β} {idsOf : α → List TokenId}
    (each : ∀ input ∈ inputs, Refers vocabulary (idsOf input) (write input)) :
    Refers vocabulary (inputs.flatMap idsOf) (inputs.mapM write) := by
  induction inputs with
  | nil => exact nothing []
  | cons input rest ih =>
    obtain ⟨first, later⟩ := List.forall_mem_cons.1 each
    rw [List.mapM_cons, List.flatMap_cons]
    exact first.bind fun value => (ih later).map

theorem exists_ok_iff (refers : Refers vocabulary ids result) :
    (∃ value, result = .ok value) ↔ ∀ id ∈ ids, (vocabulary.get? id).isSome := by
  unfold Refers at refers
  split at refers
  next declared =>
    refine iff_of_true refers fun id member => ?_
    simpa [Option.isSome_iff_ne_none] using List.find?_eq_none.1 declared id member
  next id foreign =>
    apply iff_of_false
    · rintro ⟨value, written⟩
      rw [refers] at written
      contradiction
    · intro declared
      have found := declared id (List.mem_of_find?_eq_some foreign)
      have missing := List.find?_some foreign
      rw [Option.isNone_iff_eq_none.1 missing] at found
      contradiction

theorem eq_error_iff (refers : Refers vocabulary ids result) (error : EmitError) :
    result = .error error ↔
      ∃ id, ids.find? (fun id => (vocabulary.get? id).isNone) = some id ∧
        error = .unknownToken id := by
  unfold Refers at refers
  split at refers
  next declared =>
    obtain ⟨value, rfl⟩ := refers
    simp [declared]
  next id foreign =>
    simp [refers, foreign, eq_comm]

end Refers

namespace Dispatch

variable (dialect : Dialect) (vocabulary : Vocabulary)

theorem nodeSteps_eq (trie : Trie) (index : Nat) :
    nodeSteps dialect vocabulary trie index = do
      let tokenSlots ← (trie.node index).tokens.entries.mapM (tokenSlot dialect vocabulary)
      let childSlots ← ((trie.node index).children.entries.map fun slot =>
        (slot.1, nodeSteps dialect vocabulary trie slot.2)).mapM
          fun (code, tables) => return childSlot dialect code (← tables)
      return table dialect dialect.tokensOpening (trie.node index).tokens.isEmpty tokenSlots
        ++ table dialect dialect.childrenOpening childSlots.isEmpty childSlots.flatten :=
  Trie.fold_eq ..

theorem refers_tokenSlot (slot : UInt8 × TokenId) :
    Refers vocabulary [slot.2] (tokenSlot dialect vocabulary slot) := by
  unfold Refers tokenSlot
  cases named : vocabulary.get? slot.2 with
  | some declaration => simp [named]
  | none => simp [named]

/-- A node refers to what is bound below it, in the order of writing. -/
theorem refers_nodeSteps (trie : Trie) (index : Nat) :
    Refers vocabulary ((trie.writtenFrom index).map Prod.snd)
      (nodeSteps dialect vocabulary trie index) := by
  induction index using trie.below_induction with
  | step index ih =>
    have tokens : Refers vocabulary ((trie.node index).tokens.entries.flatMap fun slot => [slot.2])
        ((trie.node index).tokens.entries.mapM (tokenSlot dialect vocabulary)) :=
      Refers.mapM fun slot _ => refers_tokenSlot dialect vocabulary slot
    have children : Refers vocabulary ((trie.node index).children.entries.flatMap fun slot =>
          (trie.writtenFrom slot.2).map Prod.snd)
        ((trie.node index).children.entries.mapM fun slot =>
          return childSlot dialect slot.1 (← nodeSteps dialect vocabulary trie slot.2)) :=
      Refers.mapM fun slot member =>
        (ih slot.1 slot.2 ((trie.child?_eq_some_iff ..).2 member)).map
    have order : (trie.writtenFrom index).map Prod.snd =
        ((trie.node index).tokens.entries.flatMap fun slot => [slot.2]) ++
          (trie.node index).children.entries.flatMap fun slot =>
            (trie.writtenFrom slot.2).map Prod.snd := by
      rw [Trie.writtenFrom_eq, List.map_append, List.map_map, List.map_flatMap,
        ← List.map_eq_flatMap]
      simp only [List.map_map, Function.comp_def]
    rw [order, nodeSteps_eq, List.mapM_map]
    exact tokens.bind fun _ => children.map

theorem refers_trieSteps (trie : Trie) :
    Refers vocabulary (trie.written.map Prod.snd) (trieSteps dialect vocabulary trie) :=
  (refers_nodeSteps dialect vocabulary trie Trie.root).map

end Dispatch

end TokenTables
