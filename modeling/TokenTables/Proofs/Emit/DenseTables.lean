import TokenTables.Proofs.Emit.NameTables

/-!
Generated tables in memory, by the rules of C. An enumerator is worth its position in the list. A
table has one slot for each ASCII code, and a slot that no initialiser names is zero or null; of two
initialisers of one slot the later one counts.

Only texts are read: the list of the enumerators, line by line, and the text of the tables, as the
outline of its root.
-/

namespace TokenTables

/-- What a node of the tables comes to in memory. A null pointer is none. -/
inductive DenseNode
  | node (tokens : Option (List Nat)) (children : Option (List (Option DenseNode)))

namespace DenseNode

def fill {α : Type} (blank : α) (slots : List (UInt8 × α)) : List α :=
  slots.foldl (fun table slot => table.set slot.1.toNat slot.2) (List.replicate asciiCount blank)

def array? {α : Type} (blank : α) (slots : List (UInt8 × α)) : Option (List α) :=
  if slots.isEmpty then none else some (fill blank slots)

def ofSlots (tokens : List (UInt8 × TokenId)) (children : List (UInt8 × DenseNode)) : DenseNode :=
  .node (array? 0 (tokens.map fun slot => (slot.1, slot.2.index)))
    (array? none (children.map fun slot => (slot.1, some slot.2)))

/-- The whole number that a consumer finds at the end of a spelling. -/
def value : DenseNode → List UInt8 → Nat
  | _, [] => 0
  | .node tokens _, [last] => (tokens.bind fun table => table[last.toNat]?).getD 0
  | .node _ children, code :: next :: rest =>
    match (children.bind fun table => table[code.toNat]?).getD none with
    | some child => child.value (next :: rest)
    | none => 0

end DenseNode

/-! Arrays. -/

namespace DenseNode

theorem foldl_set_getElem? {α : Type} {slots : List (UInt8 × α)}
    (ascending : slots.Pairwise fun first second => first.1 < second.1) (table : List α)
    (code : UInt8) :
    (slots.foldl (fun table slot => table.set slot.1.toNat slot.2) table)[code.toNat]? =
      table[code.toNat]?.map fun held => (slots.lookup code).getD held := by
  induction slots generalizing table with
  | nil => simp
  | cons head rest ih =>
    obtain ⟨other, value⟩ := head
    obtain ⟨above, restAscending⟩ := List.pairwise_cons.1 ascending
    rw [List.foldl_cons, ih restAscending]
    by_cases same : code = other
    · subst same
      -- The slot is not set again: the codes that follow are greater.
      have last : rest.lookup code = none :=
        List.lookup_eq_none_iff.2 fun later member => bne_iff_ne.2 fun again =>
          UInt8.lt_irrefl code (again.symm ▸ above later member)
      rw [List.getElem?_set_self', List.lookup_cons_self, last]
      cases table[code.toNat]? <;> rfl
    · have apart : other.toNat ≠ code.toNat := fun toNats => same (UInt8.toNat_inj.1 toNats).symm
      rw [List.getElem?_set_ne apart, List.lookup_cons, beq_eq_false_iff_ne.2 same]

/-- An array that is left out for want of slots reads as an array of blanks would. -/
theorem getD_array? {α β : Type} (slots : Slots α)
    (ascii : ∀ code value, slots.get? code = some value → isAscii code = true) (blank : β)
    (value : α → β) (code : UInt8) :
    ((array? blank (slots.entries.map fun slot => (slot.1, value slot.2))).bind
      fun table => table[code.toNat]?).getD blank = ((slots.get? code).map value).getD blank := by
  have read := Slots.lookup_map_value value slots.entries code
  rw [← Slots.get?] at read
  have ascending : (slots.entries.map fun slot => (slot.1, value slot.2)).Pairwise
      fun first second => first.1 < second.1 := List.pairwise_map.2 slots.ascending
  generalize (slots.entries.map fun slot => (slot.1, value slot.2)) = filled at read ascending
  unfold array?
  split
  next nothing =>
    rw [← read, List.isEmpty_iff.1 nothing]
    rfl
  next =>
    rw [Option.bind_some, fill, foldl_set_getElem? ascending, List.getElem?_replicate, read]
    split
    next => rfl
    next beyond =>
      have unlisted : slots.get? code = none := by
        refine Option.eq_none_iff_forall_ne_some.2 fun held found => beyond ?_
        simpa [isAscii] using ascii code held found
      rw [unlisted]
      rfl

end DenseNode

/-! From names to numbers. -/

namespace Outline

def numbers? (value : String → Option Nat) (slots : List (UInt8 × String)) : Option (List Nat) :=
  (slots.mapM fun slot => (value slot.2).map fun number => (slot.1, number)).map (DenseNode.fill 0)

mutual

def dense? (value : String → Option Nat) : Outline → Option DenseNode
  | .node tokens none => do return .node (← tokens.mapM (numbers? value)) none
  | .node tokens (some slots) => do
    let numbers ← tokens.mapM (numbers? value)
    return .node numbers (some (DenseNode.fill none (← pointers? value slots)))

def pointers? (value : String → Option Nat) :
    List (UInt8 × Outline) → Option (List (UInt8 × Option DenseNode))
  | [] => some []
  | (code, child) :: rest => do
    let node ← child.dense? value
    return (code, some node) :: (← pointers? value rest)

end

theorem pointers?_eq (value : String → Option Nat) (slots : List (UInt8 × Outline)) :
    pointers? value slots =
      slots.mapM fun slot => ((slot.2.dense? value).map some).map fun node => (slot.1, node) := by
  induction slots with
  | nil => rfl
  | cons slot rest ih =>
    rw [pointers?, ih, List.mapM_cons]
    cases slot.2.dense? value <;> rfl

theorem dense?_node (value : String → Option Nat) (tokens : Option (List (UInt8 × String)))
    (children : Option (List (UInt8 × Outline))) :
    (node tokens children).dense? value = (do
      let numbers ← tokens.mapM (numbers? value)
      let pointers ← children.mapM fun slots => (pointers? value slots).map (DenseNode.fill none)
      return .node numbers pointers) := by
  cases children with
  | none => rfl
  | some slots =>
    rw [dense?]
    cases tokens.mapM (numbers? value) with
    | none => rfl
    | some numbers =>
      simp only [Option.mapM, Option.bind_eq_bind, Option.bind_some]
      cases pointers? value slots <;> rfl

/-- A table that is written slot by slot comes to the array of what the slots are worth, and one
that is left out for want of slots to a null pointer. -/
theorem mapM_table? {α β γ : Type} {written : α → β} (value : β → Option γ) (worth : α → γ)
    {slots : List (UInt8 × α)}
    (each : ∀ slot ∈ slots, value (written slot.2) = some (worth slot.2)) (blank : γ) :
    (table? (slots.map fun slot => (slot.1, written slot.2))).mapM (fun slots =>
        (slots.mapM fun slot => (value slot.2).map fun held => (slot.1, held)).map
          (DenseNode.fill blank)) =
      some (DenseNode.array? blank (slots.map fun slot => (slot.1, worth slot.2))) := by
  have filled : (slots.map fun slot => (slot.1, written slot.2)).mapM
      (fun slot => (value slot.2).map fun held => (slot.1, held)) =
        some (slots.map fun slot => (slot.1, worth slot.2)) := by
    apply Layout.mapM_eq_some
    apply Layout.forall₂_map_same
    intro slot member
    rw [each slot member, Option.map_some]
  unfold table? DenseNode.array?
  rw [List.isEmpty_map, List.isEmpty_map]
  split
  next => rfl
  next => simp only [Option.mapM, filled, Option.map_some]; rfl

end Outline

/-- What the tables come to in memory, by the texts of the list of enumerators and of the tables. A
name in a slot stands for the enumerator with the lead before it. -/
def DenseNode.ofTexts? (lead list tables : String) : Option DenseNode := do
  let enumerators ← readEnumerators? list
  let outline ← OutlineReading.readTrie? ⟨.c, lead, ""⟩ tables
  outline.dense? fun name => enumerators.idxOf? (lead ++ name)

/-- What the C output for a trie denotes. -/
def denotedTables (identifierLead kindPath : String) (vocabulary : Vocabulary) (trie : Trie) :
    Option DenseNode := do
  let dialect : Dialect := ⟨.c, identifierLead, kindPath⟩
  let tables ← (Dispatch.trieText dialect vocabulary trie).toOption
  DenseNode.ofTexts? identifierLead (layOut (enumeratorList dialect vocabulary)) tables

end TokenTables
