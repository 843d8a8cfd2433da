import Mathlib.Data.List.Nodup
import TokenTables.Proofs.Trie.Binding
import TokenTables.Trie.Construction

/-!
What a spelling continues and what continues it. On the way to its end a spelling passes the
bindings of all its proper beginnings, each once. Of the bindings that continue it, the search below
its end finds the first one, in an order that puts the tokens of a node before those of its
children.
-/

namespace TokenTables

/-- `longer` goes on where `shorter` ends. -/
def Continues (longer shorter : List UInt8) : Prop := ∃ rest, rest ≠ [] ∧ longer = shorter ++ rest

theorem Continues.ne {longer shorter : List UInt8} (continues : Continues longer shorter) :
    longer ≠ shorter := by
  obtain ⟨rest, more, rfl⟩ := continues
  simpa using more

theorem continues_cons_iff (code : UInt8) (longer shorter : List UInt8) :
    Continues (code :: longer) (code :: shorter) ↔ Continues longer shorter := by
  simp [Continues]

def beginnings : List UInt8 → List (List UInt8)
  | code :: next :: rest => [code] :: (beginnings (next :: rest)).map (code :: ·)
  | _ => []

theorem mem_beginnings_iff (codes lead : List UInt8) :
    lead ∈ beginnings codes ↔ lead ≠ [] ∧ Continues codes lead := by
  induction codes generalizing lead with
  | nil => simp [beginnings, Continues]
  | cons code codes ih =>
    cases lead with
    | nil => cases codes <;> simp [beginnings]
    | cons first tail =>
      cases codes with
      | nil =>
        have short : ¬Continues [code] (first :: tail) := by
          rintro ⟨rest, more, same⟩
          have lengths := congrArg List.length same
          have positive := List.length_pos_iff.2 more
          simp only [List.length_cons, List.length_append, List.length_nil] at lengths
          omega
        simp [beginnings, short]
      | cons next rest =>
        rw [beginnings, List.mem_cons, List.mem_map]
        constructor
        · rintro (single | ⟨inner, member, same⟩)
          · obtain ⟨rfl, rfl⟩ := List.cons.inj single
            exact ⟨by simp, next :: rest, by simp, rfl⟩
          · obtain ⟨rfl, rfl⟩ := List.cons.inj same
            exact ⟨by simp, (continues_cons_iff ..).2 ((ih inner).1 member).2⟩
        · rintro ⟨_, continues⟩
          obtain rfl : code = first := by
            obtain ⟨_, _, same⟩ := continues
            exact (List.cons.inj same).1
          by_cases single : tail = []
          · exact .inl (by rw [single])
          · exact .inr ⟨tail, (ih tail).2 ⟨single, (continues_cons_iff ..).1 continues⟩, rfl⟩

theorem nodup_beginnings (codes : List UInt8) : (beginnings codes).Nodup := by
  fun_induction beginnings codes with
  | case1 code next rest ih =>
    refine List.nodup_cons.2 ⟨?_, ih.map List.cons_injective⟩
    intro member
    obtain ⟨inner, listed, same⟩ := List.mem_map.1 member
    exact ((mem_beginnings_iff ..).1 listed).1 (List.cons.inj same).2
  | case2 => exact List.nodup_nil

/-- The order of the search below a node. Spellings are compared where they first have different
codes or where just one of them ends: the one that ends there comes first, and otherwise the one
with the lesser code. -/
def Precedes : List UInt8 → List UInt8 → Prop
  | [code], [other] => code < other
  | [_], _ :: _ :: _ => True
  | code :: next :: rest, other :: following :: more =>
    code < other ∨ code = other ∧ Precedes (next :: rest) (following :: more)
  | _, _ => False

theorem Precedes.append {first second : List UInt8} (order : Precedes first second)
    (shared : List UInt8) : Precedes (shared ++ first) (shared ++ second) := by
  have notEmpty : first ≠ [] ∧ second ≠ [] := by
    constructor <;> rintro rfl <;> simp [Precedes] at order
  induction shared with
  | nil => exact order
  | cons code rest ih =>
    obtain ⟨next, more, left⟩ :=
      List.exists_cons_of_ne_nil (l := rest ++ first) (by simp [notEmpty])
    obtain ⟨following, others, right⟩ :=
      List.exists_cons_of_ne_nil (l := rest ++ second) (by simp [notEmpty])
    rw [List.cons_append, List.cons_append, left, right, Precedes, ← left, ← right]
    exact .inr ⟨rfl, ih⟩

theorem Precedes.asymm {first second : List UInt8} (order : Precedes first second) :
    ¬Precedes second first := by
  fun_induction Precedes first second with
  | case1 code other => exact fun back => absurd order (UInt8.lt_asymm back)
  | case2 => exact id
  | case3 code next rest other following more ih =>
    rintro (back | ⟨rfl, back⟩)
    · rcases order with less | ⟨rfl, _⟩
      · exact UInt8.lt_asymm less back
      · exact UInt8.lt_irrefl _ back
    · rcases order with less | ⟨_, later⟩
      · exact UInt8.lt_irrefl _ less
      · exact ih later back
  | case4 => exact absurd order id

theorem Precedes.eq_of_first {first second : List UInt8}
    (before : second = first ∨ Precedes first second)
    (after : first = second ∨ Precedes second first) : second = first := by
  rcases before with same | less
  · exact same
  · rcases after with same | greater
    · exact same.symm
    · exact absurd greater less.asymm

namespace Trie

/-- On the way through a spelling the bindings of its proper beginnings are passed. -/
theorem completedFrom_eq (trie : Trie) (start : Nat) (spelling : List UInt8) :
    trie.completedFrom start spelling = (beginnings spelling).filterMap (trie.findFrom start) := by
  fun_induction beginnings spelling generalizing start with
  | case1 code next rest ih =>
    have step : ∀ lead ∈ beginnings (next :: rest), trie.findFrom start (code :: lead) =
        (trie.child? start code).bind fun child => trie.findFrom child lead := fun lead member =>
      findFrom_cons trie start code ((mem_beginnings_iff ..).1 member).1
    rw [completedFrom, List.filterMap_cons, List.filterMap_map, Function.comp_def,
      List.filterMap_congr step, findFrom]
    have deeper : ∀ child, (beginnings (next :: rest)).filterMap (fun lead =>
        (some child).bind fun child => trie.findFrom child lead) =
          trie.completedFrom child (next :: rest) := fun child => (ih child).symm
    cases trie.child? start code with
    | some child =>
      rw [deeper]
      cases trie.token? start code <;> rfl
    | none => cases trie.token? start code <;> simp
  | case2 spelling short =>
    unfold completedFrom
    split
    next code next rest => exact absurd rfl (short code next rest)
    next => rfl

theorem findFrom_append (trie : Trie) (start : Nat) (codes : List UInt8) {rest : List UInt8}
    (more : rest ≠ []) :
    trie.findFrom start (codes ++ rest) =
      (trie.walkFrom start codes).bind fun index => trie.findFrom index rest := by
  induction codes generalizing start with
  | nil => rfl
  | cons code codes ih =>
    have notLast : codes ++ rest ≠ [] := by simp [more]
    simp only [List.cons_append, findFrom_cons trie start code notLast, walkFrom, Option.bind_assoc,
      ih]

/-! The search below a node. -/

theorem firstUnder_eq (trie : Trie) (index : Nat) :
    trie.firstUnder index =
      match (trie.node index).tokens.entries with
      | (_, id) :: _ => some id
      | [] => (trie.node index).children.entries.findSome? fun slot => trie.firstUnder slot.2 := by
  unfold firstUnder
  rw [fold_eq, List.findSome?_map]
  rfl

structure FirstBelow (trie : Trie) (start : Nat) (spelling : List UInt8) (id : TokenId) : Prop where
  bound : trie.findFrom start spelling = some id
  least : ∀ other, (trie.findFrom start other).isSome → other = spelling ∨ Precedes spelling other

def FindsBelow (trie : Trie) (start : Nat) : Option TokenId → Prop
  | some id => ∃ spelling, trie.FirstBelow start spelling id
  | none => ∀ spelling, trie.findFrom start spelling = none

/-- A token of the node itself comes first, and of these the one with the least code. -/
theorem firstBelow_token {trie : Trie} {start : Nat} {code : UInt8} {id : TokenId}
    {rest : List (UInt8 × TokenId)}
    (tokens : (trie.node start).tokens.entries = (code, id) :: rest) :
    trie.FirstBelow start [code] id where
  bound := (token?_eq_some_iff ..).2 (by simp [tokens])
  least other found := by
    have ascending := (trie.node start).tokens.ascending
    rw [tokens] at ascending
    match other with
    | [] => simp [findFrom] at found
    | _ :: _ :: _ => exact .inr trivial
    | [last] =>
      obtain ⟨held, slot⟩ := Option.isSome_iff_exists.1 found
      have member := (token?_eq_some_iff ..).1 slot
      rw [tokens, List.mem_cons] at member
      rcases member with same | later
      · exact .inl (by rw [(Prod.mk.inj same).1])
      · exact .inr ((List.pairwise_cons.1 ascending).1 _ later)

theorem child_of_findFrom {trie : Trie} {index : Nat}
    (noTokens : (trie.node index).tokens.entries = []) {spelling : List UInt8}
    (found : (trie.findFrom index spelling).isSome) :
    ∃ slot ∈ (trie.node index).children.entries, ∃ rest, rest ≠ [] ∧ spelling = slot.1 :: rest ∧
      (trie.findFrom slot.2 rest).isSome := by
  obtain ⟨id, bound⟩ := Option.isSome_iff_exists.1 found
  rcases (findFrom_eq_some_iff ..).1 bound with
    ⟨code, member, _⟩ | ⟨slot, member, rest, deeper, rfl⟩
  · simp [noTokens] at member
  · refine ⟨slot, member, rest, ?_, rfl, Option.isSome_of_eq_some deeper⟩
    rintro rfl
    contradiction

/-- Without tokens in the node itself the first child below which anything is bound decides. -/
theorem firstBelow_child {trie : Trie} {start : Nat} {before after : List (UInt8 × Nat)}
    {slot : UInt8 × Nat} {spelling : List UInt8} {id : TokenId}
    (noTokens : (trie.node start).tokens.entries = [])
    (children : (trie.node start).children.entries = before ++ slot :: after)
    (nothing : ∀ other ∈ before, ∀ spelling, trie.findFrom other.2 spelling = none)
    (first : trie.FirstBelow slot.2 spelling id) :
    trie.FirstBelow start (slot.1 :: spelling) id := by
  have more : spelling ≠ [] := by
    rintro rfl
    have bound := first.bound
    contradiction
  have ascending := (trie.node start).children.ascending
  rw [children] at ascending
  have later := (List.pairwise_cons.1 (List.pairwise_append.1 ascending).2.1).1
  refine ⟨?_, fun other found => ?_⟩
  · have edge : trie.child? start slot.1 = some slot.2 :=
      (child?_eq_some_iff ..).2 (by simp [children])
    rw [findFrom_cons trie start slot.1 more, edge]
    exact first.bound
  · obtain ⟨held, member, rest, notEmpty, rfl, deeper⟩ := child_of_findFrom noTokens found
    obtain ⟨next, tail, rfl⟩ := List.exists_cons_of_ne_nil more
    obtain ⟨following, others, rfl⟩ := List.exists_cons_of_ne_nil notEmpty
    rw [children, List.mem_append, List.mem_cons] at member
    rcases member with isBefore | rfl | isAfter
    · rw [nothing held isBefore] at deeper
      contradiction
    · rcases first.least _ deeper with same | order
      · exact .inl (congrArg _ same)
      · exact .inr (.inr ⟨rfl, order⟩)
    · exact .inr (.inl (later held isAfter))

theorem findsBelow_firstUnder (trie : Trie) (index : Nat) :
    trie.FindsBelow index (trie.firstUnder index) := by
  induction index using trie.below_induction with
  | step index ih =>
    have child : ∀ slot ∈ (trie.node index).children.entries,
        trie.FindsBelow slot.2 (trie.firstUnder slot.2) := fun slot member =>
      ih slot.1 slot.2 ((child?_eq_some_iff ..).2 member)
    rw [firstUnder_eq]
    split
    next code id rest tokens => exact ⟨[code], firstBelow_token tokens⟩
    next noTokens =>
      cases found : (trie.node index).children.entries.findSome? fun slot =>
          trie.firstUnder slot.2 with
      | some id =>
        obtain ⟨before, slot, after, children, first, nothing⟩ := List.findSome?_eq_some_iff.1 found
        have below := child slot (by simp [children])
        rw [first] at below
        obtain ⟨spelling, least⟩ := below
        refine ⟨slot.1 :: spelling, firstBelow_child noTokens children ?_ least⟩
        intro other isBefore
        have empty := child other (by simp [children, isBefore])
        rwa [nothing other isBefore] at empty
      | none =>
        intro spelling
        refine Option.not_isSome_iff_eq_none.1 fun bound => ?_
        obtain ⟨slot, member, rest, _, _, deeper⟩ := child_of_findFrom noTokens bound
        have empty := child slot member
        rw [List.findSome?_eq_none_iff.1 found slot member] at empty
        rw [empty rest] at deeper
        contradiction

structure FirstContinuation (trie : Trie) (spelling longer : List UInt8) (id : TokenId) : Prop where
  continues : Continues longer spelling
  bound : trie.find? longer = some id
  least : ∀ other, Continues other spelling → (trie.find? other).isSome →
    other = longer ∨ Precedes longer other

/-- Below the end of a spelling the search finds the first binding that continues it, and nothing
just if there is none. -/
theorem firstUnder_walk (trie : Trie) (spelling : List UInt8) :
    match (trie.walk spelling).bind trie.firstUnder with
    | some id => ∃ longer, trie.FirstContinuation spelling longer id
    | none => ∀ longer, Continues longer spelling → trie.find? longer = none := by
  have below : ∀ rest, rest ≠ [] → trie.find? (spelling ++ rest) =
      (trie.walk spelling).bind fun index => trie.findFrom index rest := fun rest more => by
    rw [find?_eq_findFrom, findFrom_append trie root spelling more, walk]
  cases path : trie.walk spelling with
  | none =>
    rintro longer ⟨rest, more, rfl⟩
    rw [below rest more, path, Option.bind_none]
  | some index =>
    simp only [path, Option.bind_some] at below
    have finds := trie.findsBelow_firstUnder index
    rw [Option.bind_some]
    cases first : trie.firstUnder index with
    | none =>
      rw [first] at finds
      rintro longer ⟨rest, more, rfl⟩
      rw [below rest more]
      exact finds rest
    | some id =>
      rw [first] at finds
      obtain ⟨rest, least⟩ := finds
      have more : rest ≠ [] := by
        rintro rfl
        have bound := least.bound
        contradiction
      refine ⟨spelling ++ rest, ⟨rest, more, rfl⟩, (below rest more).trans least.bound, ?_⟩
      rintro other ⟨others, notEmpty, rfl⟩ found
      rw [below others notEmpty] at found
      rcases least.least others found with same | order
      · exact .inl (by rw [same])
      · exact .inr (order.append spelling)

end Trie

end TokenTables
