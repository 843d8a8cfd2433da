import TokenTables.Proofs.Trie.Growth

/-!
What an insertion does to the bindings. A trie binds what it finds; growing a path changes no
binding, a refused insertion changes nothing at all, and an accepted one binds its own spelling
and no other. So a history of insertions binds each spelling to the token it was first accepted
with.
-/

namespace TokenTables

namespace Trie

def Bindable (spelling : List UInt8) : Prop :=
  spelling ≠ [] ∧ ∀ code ∈ spelling, isAscii code = true

theorem Bindable.exists_concat {spelling : List UInt8} (bindable : Bindable spelling) :
    ∃ codes last, spelling = codes ++ [last] ∧ (∀ code ∈ codes, isAscii code = true) ∧
      isAscii last = true := by
  rcases List.eq_nil_or_concat' spelling with rfl | ⟨codes, last, rfl⟩
  · exact absurd rfl bindable.1
  · obtain ⟨pathAscii, lastAscii⟩ := List.forall_mem_append.1 bindable.2
    exact ⟨codes, last, rfl, pathAscii, lastAscii last (by simp)⟩

def findFrom (trie : Trie) (start : Nat) : List UInt8 → Option TokenId
  | [] => none
  | [last] => trie.token? start last
  | code :: next :: rest =>
    (trie.child? start code).bind fun child => trie.findFrom child (next :: rest)

theorem findFrom_cons (trie : Trie) (start : Nat) (code : UInt8) {rest : List UInt8}
    (more : rest ≠ []) :
    trie.findFrom start (code :: rest) =
      (trie.child? start code).bind fun child => trie.findFrom child rest := by
  cases rest with
  | nil => exact absurd rfl more
  | cons next rest => rfl

/-- What is bound below a node is a token of the node or is bound below one of its children. -/
theorem findFrom_eq_some_iff (trie : Trie) (start : Nat) (spelling : List UInt8) (id : TokenId) :
    trie.findFrom start spelling = some id ↔
      (∃ code, (code, id) ∈ (trie.node start).tokens.entries ∧ spelling = [code]) ∨
      ∃ slot ∈ (trie.node start).children.entries, ∃ rest,
        trie.findFrom slot.2 rest = some id ∧ spelling = slot.1 :: rest := by
  constructor
  · intro found
    match spelling with
    | [] => contradiction
    | [last] => exact .inl ⟨last, (token?_eq_some_iff ..).1 found, rfl⟩
    | code :: next :: rest =>
      obtain ⟨child, edge, deeper⟩ := Option.bind_eq_some_iff.1 found
      exact .inr ⟨(code, child), (child?_eq_some_iff ..).1 edge, next :: rest, deeper, rfl⟩
  · rintro (⟨code, member, rfl⟩ | ⟨slot, member, rest, deeper, rfl⟩)
    · exact (token?_eq_some_iff ..).2 member
    · have more : rest ≠ [] := by
        rintro rfl
        contradiction
      rw [findFrom_cons trie start slot.1 more, (child?_eq_some_iff ..).2 member]
      exact deeper

theorem findFrom_concat (trie : Trie) (start : Nat) (codes : List UInt8) (last : UInt8) :
    trie.findFrom start (codes ++ [last]) =
      (trie.walkFrom start codes).bind fun index => trie.token? index last := by
  induction codes generalizing start with
  | nil => rfl
  | cons code rest ih =>
    rw [List.cons_append, findFrom_cons trie start code (by simp), walkFrom, Option.bind_assoc]
    simp only [ih]

theorem find?_nil (trie : Trie) : trie.find? [] = none := rfl

theorem find?_concat (trie : Trie) (codes : List UInt8) (last : UInt8) :
    trie.find? (codes ++ [last]) =
      (trie.walk codes).bind fun index => trie.token? index last := by
  simp [find?]

theorem find?_eq_findFrom (trie : Trie) (spelling : List UInt8) :
    trie.find? spelling = trie.findFrom root spelling := by
  rcases List.eq_nil_or_concat' spelling with rfl | ⟨codes, last, rfl⟩
  · rfl
  · rw [find?_concat, findFrom_concat]
    rfl

@[simp] theorem find?_empty (spelling : List UInt8) : empty.find? spelling = none := by
  rcases List.eq_nil_or_concat' spelling with rfl | ⟨codes, last, rfl⟩
  · rfl
  · rw [find?_concat]
    simp [token?_empty]

theorem WellFormed.bindable_of_findFrom {trie : Trie} (tree : trie.WellFormed) {start : Nat}
    {spelling : List UInt8} {id : TokenId} (found : trie.findFrom start spelling = some id) :
    Bindable spelling := by
  induction spelling generalizing start with
  | nil => exact absurd found (by simp [findFrom])
  | cons code rest ih =>
    refine ⟨by simp, List.forall_mem_cons.2 ?_⟩
    by_cases last : rest = []
    · subst last
      exact ⟨tree.asciiToken found, by simp⟩
    · rw [findFrom_cons trie start code last] at found
      obtain ⟨child, step, later⟩ := Option.bind_eq_some_iff.1 found
      exact ⟨tree.asciiChild step, (ih later).2⟩

theorem WellFormed.bindable_of_find? {trie : Trie} (tree : trie.WellFormed)
    {spelling : List UInt8} {id : TokenId} (found : trie.find? spelling = some id) :
    Bindable spelling :=
  tree.bindable_of_findFrom ((find?_eq_findFrom trie spelling).symm.trans found)

/-! Growing changes no binding: a new node has no tokens, nor have the nodes below it. -/

theorem Extends.findFrom_new {before after : Trie} (larger : before.Extends after) {start : Nat}
    (beyond : before.nodeCount ≤ start) (spelling : List UInt8) :
    after.findFrom start spelling = none := by
  induction spelling generalizing start with
  | nil => rfl
  | cons code rest ih =>
    by_cases last : rest = []
    · subst last
      exact (larger.token?_eq start code).trans (token?_beyond beyond code)
    · rw [findFrom_cons after start code last]
      refine Option.bind_eq_none_iff.2 fun child step => ih ?_
      exact Nat.le_trans beyond (Nat.le_of_lt (child_bounds step).1)

theorem Extends.findFrom_eq {before after : Trie} (larger : before.Extends after) (start : Nat)
    (spelling : List UInt8) : after.findFrom start spelling = before.findFrom start spelling := by
  induction spelling generalizing start with
  | nil => rfl
  | cons code rest ih =>
    by_cases last : rest = []
    · subst last
      exact larger.token?_eq start code
    · rw [findFrom_cons after start code last, findFrom_cons before start code last]
      cases older : before.child? start code with
      | some child => simp only [larger.child?_kept older, Option.bind_some, ih]
      | none =>
        refine Option.bind_eq_none_iff.2 fun child step => ?_
        rcases larger.child?_new step with held | new
        · exact absurd held (by simp [older])
        · exact larger.findFrom_new new rest

theorem Extends.find?_eq {before after : Trie} (larger : before.Extends after)
    (spelling : List UInt8) : after.find? spelling = before.find? spelling := by
  simp only [find?_eq_findFrom, larger.findFrom_eq]

theorem WellFormed.find?_setToken {trie : Trie} (tree : trie.WellFormed) {codes : List UInt8}
    {index : Nat} (path : trie.walk codes = some index) (last : UInt8) (id : TokenId)
    (spelling : List UInt8) :
    (trie.setToken index last id).find? spelling =
      if spelling = codes ++ [last] then some id else trie.find? spelling := by
  have inside := walk_inside path
  rcases List.eq_nil_or_concat' spelling with rfl | ⟨others, final, rfl⟩
  · simp [find?_nil]
  · rw [find?_concat, find?_concat, walk, walkFrom_setToken trie last id _ _ inside]
    simp only [token?_setToken trie last id _ _ inside]
    change (trie.walk others).bind _ = _
    cases there : trie.walk others with
    | none =>
      have different : others ≠ codes := by
        rintro rfl
        simp [path] at there
      simp [different]
    | some other =>
      have sameSlot : other = index ↔ others = codes :=
        ⟨fun same => tree.walk_injective there (same ▸ path),
          fun same => Option.some.inj (there.symm.trans (same ▸ path))⟩
      simp [sameSlot]

/-! The outcomes of an insertion. -/

/-- Why a spelling is refused: first for what is wrong with the spelling itself, then because it
is bound already. -/
def refusal? (trie : Trie) (spelling : List UInt8) : Option InsertError :=
  if spelling = [] then some .empty
  else
    match spelling.find? fun code => !isAscii code with
    | some byte => some (.nonAscii byte)
    | none => (trie.find? spelling).map .occupied

theorem find?_nonAscii_eq_none {spelling : List UInt8} (bindable : Bindable spelling) :
    spelling.find? (fun code => !isAscii code) = none :=
  List.find?_eq_none.2 fun code member => by simp [bindable.2 code member]

theorem refusal?_eq_none_iff (trie : Trie) (spelling : List UInt8) :
    trie.refusal? spelling = none ↔ Bindable spelling ∧ trie.find? spelling = none := by
  constructor
  · intro accepted
    unfold refusal? at accepted
    split at accepted
    next => contradiction
    next notEmpty =>
      split at accepted
      next => contradiction
      next ascii =>
        refine ⟨⟨notEmpty, fun code member => ?_⟩, Option.map_eq_none_iff.1 accepted⟩
        simpa using List.find?_eq_none.1 ascii code member
  · rintro ⟨bindable, free⟩
    simp [refusal?, bindable.1, find?_nonAscii_eq_none bindable, free]

theorem refusal?_occupied {trie : Trie} {spelling : List UInt8} {holder : TokenId}
    (bindable : Bindable spelling) (taken : trie.find? spelling = some holder) :
    trie.refusal? spelling = some (.occupied holder) := by
  simp [refusal?, bindable.1, find?_nonAscii_eq_none bindable, taken]

/-- A refused insertion leaves the trie as it is: the path of a spelling that is bound already is
there, so nothing is grown before the refusal. -/
theorem insert_refused {trie : Trie} {spelling : List UInt8} {refusal : InsertError}
    (refused : trie.refusal? spelling = some refusal) (id : TokenId) :
    trie.insert spelling id = ⟨trie, some refusal⟩ := by
  rcases List.eq_nil_or_concat' spelling with rfl | ⟨codes, last, rfl⟩
  · rw [← Option.some.inj refused]
    rfl
  simp only [refusal?, List.append_eq_nil_iff, List.cons_ne_self, and_false, if_false] at refused
  simp only [insert, List.getLast?_concat, List.dropLast_concat]
  cases foreign : (codes ++ [last]).find? fun code => !isAscii code with
  | some byte => simp only [foreign] at refused ⊢; rw [refused]
  | none =>
    simp only [foreign, find?_concat] at refused ⊢
    obtain ⟨holder, taken, rfl⟩ := Option.map_eq_some_iff.1 refused
    obtain ⟨index, path, slot⟩ := Option.bind_eq_some_iff.1 taken
    simp only [grow_of_walkFrom path, slot]

theorem insert_free (trie : Trie) (id : TokenId) {codes : List UInt8} {last : UInt8}
    (bindable : Bindable (codes ++ [last])) (free : trie.find? (codes ++ [last]) = none) :
    trie.insert (codes ++ [last]) id =
      ⟨(trie.grow root codes).2.setToken (trie.grow root codes).1 last id, none⟩ := by
  have slot : (trie.grow root codes).2.token? (trie.grow root codes).1 last = none := by
    rw [← (extends_grow trie.root_inside codes).find?_eq, find?_concat, walk,
      walkFrom_grow trie.root_inside] at free
    exact free
  simp only [insert, List.getLast?_concat, find?_nonAscii_eq_none bindable,
    List.dropLast_concat, slot]

/-- The path that an accepted insertion grows is all that it changes about walks. -/
theorem walk_insert_free (trie : Trie) (id : TokenId) {codes : List UInt8} {last : UInt8}
    (bindable : Bindable (codes ++ [last])) (free : trie.find? (codes ++ [last]) = none)
    (lead : List UInt8) :
    (trie.insert (codes ++ [last]) id).trie.walk lead = (trie.grow root codes).2.walk lead := by
  rw [insert_free trie id bindable free]
  exact walkFrom_setToken _ last id root lead (grow_inside trie.root_inside codes)

theorem refusal_insert (trie : Trie) (spelling : List UInt8) (id : TokenId) :
    (trie.insert spelling id).refusal = trie.refusal? spelling := by
  cases outcome : trie.refusal? spelling with
  | some refusal => rw [insert_refused outcome]
  | none =>
    obtain ⟨bindable, free⟩ := (refusal?_eq_none_iff trie spelling).1 outcome
    obtain ⟨codes, last, rfl, _⟩ := bindable.exists_concat
    rw [insert_free trie id bindable free]

theorem WellFormed.insert {trie : Trie} (tree : trie.WellFormed) (spelling : List UInt8)
    (id : TokenId) : (trie.insert spelling id).trie.WellFormed := by
  cases outcome : trie.refusal? spelling with
  | some refusal => rwa [insert_refused outcome]
  | none =>
    obtain ⟨bindable, free⟩ := (refusal?_eq_none_iff trie spelling).1 outcome
    obtain ⟨codes, last, rfl, pathAscii, lastAscii⟩ := bindable.exists_concat
    rw [insert_free trie id bindable free]
    exact (tree.grow trie.root_inside pathAscii).setToken (grow_inside trie.root_inside codes)
      lastAscii id

theorem WellFormed.find?_insert {trie : Trie} (tree : trie.WellFormed) {spelling : List UInt8}
    (accepted : trie.refusal? spelling = none) (id : TokenId) (other : List UInt8) :
    (trie.insert spelling id).trie.find? other =
      if other = spelling then some id else trie.find? other := by
  obtain ⟨bindable, free⟩ := (refusal?_eq_none_iff trie spelling).1 accepted
  obtain ⟨codes, last, rfl, pathAscii, _⟩ := bindable.exists_concat
  have grown := tree.grow trie.root_inside pathAscii
  rw [insert_free trie id bindable free]
  change ((trie.grow root codes).2.setToken _ last id).find? other = _
  rw [grown.find?_setToken (walkFrom_grow trie.root_inside codes),
    (extends_grow trie.root_inside codes).find?_eq]

/-! A history of insertions. -/

def accepted (trie : Trie) :
    List (List UInt8 × TokenId) → List (List UInt8 × TokenId)
  | [] => []
  | (spelling, id) :: later =>
    let insertion := trie.insert spelling id
    match insertion.refusal with
    | none => (spelling, id) :: insertion.trie.accepted later
    | some _ => insertion.trie.accepted later

theorem insertAll_cons (trie : Trie) (spelling : List UInt8) (id : TokenId)
    (later : List (List UInt8 × TokenId)) :
    trie.insertAll ((spelling, id) :: later) =
      (trie.insert spelling id).trie.insertAll later := rfl

theorem WellFormed.insertAll {trie : Trie} (tree : trie.WellFormed)
    (history : List (List UInt8 × TokenId)) : (trie.insertAll history).WellFormed := by
  induction history generalizing trie with
  | nil => exact tree
  | cons insertion later ih => exact ih (tree.insert insertion.1 insertion.2)

theorem token?_insert {trie : Trie} {spelling : List UInt8} {id held : TokenId} {index : Nat}
    {code : UInt8} (slot : (trie.insert spelling id).trie.token? index code = some held) :
    trie.token? index code = some held ∨ held = id := by
  cases outcome : trie.refusal? spelling with
  | some refusal =>
    rw [insert_refused outcome] at slot
    exact .inl slot
  | none =>
    obtain ⟨bindable, free⟩ := (refusal?_eq_none_iff trie spelling).1 outcome
    obtain ⟨codes, last, rfl, _⟩ := bindable.exists_concat
    rw [insert_free trie id bindable free,
      token?_setToken _ last id _ _ (grow_inside trie.root_inside codes)] at slot
    split at slot
    next => exact .inr (Option.some.inj slot).symm
    next => exact .inl (((extends_grow trie.root_inside codes).token?_eq ..).symm.trans slot)

theorem token?_insertAll {trie : Trie} {history : List (List UInt8 × TokenId)} {held : TokenId}
    {index : Nat} {code : UInt8}
    (slot : (trie.insertAll history).token? index code = some held) :
    trie.token? index code = some held ∨ held ∈ history.map Prod.snd := by
  induction history generalizing trie with
  | nil => exact .inl slot
  | cons insertion later ih =>
    rw [List.map_cons, List.mem_cons]
    rcases ih slot with before | brought
    · rcases token?_insert before with old | new
      · exact .inl old
      · exact .inr (.inl new)
    · exact .inr (.inr brought)

/-- What a history binds is what was bound before it and what it was accepted with. -/
theorem WellFormed.find?_insertAll_iff {trie : Trie} (tree : trie.WellFormed)
    (history : List (List UInt8 × TokenId)) (spelling : List UInt8) (id : TokenId) :
    (trie.insertAll history).find? spelling = some id ↔
      trie.find? spelling = some id ∨ (spelling, id) ∈ trie.accepted history := by
  induction history generalizing trie with
  | nil => simp [Trie.insertAll, accepted]
  | cons insertion later ih =>
    obtain ⟨first, token⟩ := insertion
    rw [insertAll_cons, ih (tree.insert first token)]
    simp only [accepted, refusal_insert]
    cases outcome : trie.refusal? first with
    | some refusal => simp only [insert_refused outcome]
    | none =>
      have free := ((refusal?_eq_none_iff trie first).1 outcome).2
      rw [tree.find?_insert outcome token]
      by_cases same : spelling = first
      · subst same
        simp [free, eq_comm]
      · simp [same]

theorem WellFormed.find?_insertAll {trie : Trie} (tree : trie.WellFormed)
    (history : List (List UInt8 × TokenId)) {spelling : List UInt8}
    (bindable : Bindable spelling) :
    (trie.insertAll history).find? spelling =
      (trie.find? spelling).or (history.lookup spelling) := by
  induction history generalizing trie with
  | nil => simp [Trie.insertAll]
  | cons insertion later ih =>
    obtain ⟨first, token⟩ := insertion
    rw [insertAll_cons, ih (tree.insert first token), List.lookup_cons]
    cases outcome : trie.refusal? first with
    | some refusal =>
      rw [insert_refused outcome]
      by_cases same : spelling = first
      · subst same
        cases taken : trie.find? spelling with
        | some holder => rfl
        | none => exact absurd ((refusal?_eq_none_iff ..).2 ⟨bindable, taken⟩) (by simp [outcome])
      · rw [beq_eq_false_iff_ne.2 same]
    | none =>
      have free := ((refusal?_eq_none_iff trie first).1 outcome).2
      rw [tree.find?_insert outcome token]
      by_cases same : spelling = first
      · subst same
        simp [free]
      · rw [if_neg same, beq_eq_false_iff_ne.2 same]

end Trie

end TokenTables
