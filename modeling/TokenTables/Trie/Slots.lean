/-!
Slots hold one value for each of some character codes. They are kept in ascending order of the
codes, so every walk over them is in that order whatever the order of insertion was.
-/

namespace TokenTables

structure Slots (α : Type) where
  entries : List (UInt8 × α)
  ascending : entries.Pairwise fun first second => first.1 < second.1

namespace Slots

variable {α : Type}

def empty : Slots α := ⟨[], List.Pairwise.nil⟩

instance : Inhabited (Slots α) := ⟨empty⟩

def isEmpty (slots : Slots α) : Bool := slots.entries.isEmpty

def get? (slots : Slots α) (code : UInt8) : Option α := slots.entries.lookup code

def insertEntry (code : UInt8) (value : α) : List (UInt8 × α) → List (UInt8 × α)
  | [] => [(code, value)]
  | (other, held) :: rest =>
    if code < other then (code, value) :: (other, held) :: rest
    else if code = other then (code, value) :: rest
    else (other, held) :: insertEntry code value rest

theorem mem_insertEntry {code : UInt8} {value : α} {entries : List (UInt8 × α)}
    {entry : UInt8 × α} (member : entry ∈ insertEntry code value entries) :
    entry = (code, value) ∨ entry ∈ entries := by
  induction entries with
  | nil => simpa [insertEntry] using member
  | cons head rest ih =>
    obtain ⟨other, held⟩ := head
    unfold insertEntry at member
    split at member
    · simpa using member
    split at member
    · rcases List.mem_cons.1 member with same | old
      · exact .inl same
      · exact .inr (List.mem_cons_of_mem _ old)
    · rcases List.mem_cons.1 member with same | later
      · exact .inr (same ▸ List.mem_cons_self)
      · rcases ih later with new | old
        · exact .inl new
        · exact .inr (List.mem_cons_of_mem _ old)

theorem insertEntry_ascending (code : UInt8) (value : α) {entries : List (UInt8 × α)}
    (ascending : entries.Pairwise fun first second => first.1 < second.1) :
    (insertEntry code value entries).Pairwise fun first second => first.1 < second.1 := by
  induction entries with
  | nil => simp [insertEntry]
  | cons head rest ih =>
    obtain ⟨other, held⟩ := head
    obtain ⟨above, restAscending⟩ := List.pairwise_cons.1 ascending
    unfold insertEntry
    split
    next less =>
      refine List.pairwise_cons.2 ⟨?_, ascending⟩
      intro entry member
      rcases List.mem_cons.1 member with same | later
      · exact same ▸ less
      · exact UInt8.lt_trans less (above entry later)
    next notLess =>
      split
      next same =>
        exact List.pairwise_cons.2 ⟨fun entry later => same ▸ above entry later, restAscending⟩
      next different =>
        refine List.pairwise_cons.2 ⟨?_, ih restAscending⟩
        intro entry member
        rcases mem_insertEntry member with new | old
        · have order : ¬ code.toNat < other.toNat := fun less =>
            notLess (UInt8.lt_iff_toNat_lt.2 less)
          have distinct : code.toNat ≠ other.toNat := fun same =>
            different (UInt8.toNat_inj.1 same)
          have greater : other < code := UInt8.lt_iff_toNat_lt.2 (by omega)
          exact new ▸ greater
        · exact above entry old

def insert (slots : Slots α) (code : UInt8) (value : α) : Slots α :=
  ⟨insertEntry code value slots.entries, insertEntry_ascending code value slots.ascending⟩

theorem mem_insert {slots : Slots α} {code : UInt8} {value : α} {entry : UInt8 × α}
    (member : entry ∈ (slots.insert code value).entries) :
    entry = (code, value) ∨ entry ∈ slots.entries :=
  mem_insertEntry member

end Slots

end TokenTables
