import TokenTables.Proofs.Trie.Construction
import TokenTables.Proofs.Trie.Continuation

/-!
Which declaration holds a spelling: the first one with it, if it is ASCII. The trie of a list of
entries binds every spelling to the id of its holder, also where ids repeat. So what the trie says
of a spelling and its continuations, it says of the entries.
-/

namespace TokenTables

open Vocabulary (SpelledEntry)

def holder (entries : List SpelledEntry) (codes : List UInt8) : Option SpelledEntry :=
  entries.find? fun entry => IsAsciiText entry.2.2 ∧ utf8Bytes entry.2.2 = codes

def Holds (entries : List SpelledEntry) (entry : SpelledEntry) : Prop :=
  holder entries (utf8Bytes entry.2.2) = some entry

theorem spelling_of_holder {entries : List SpelledEntry} {codes : List UInt8}
    {entry : SpelledEntry} (held : holder entries codes = some entry) :
    IsAsciiText entry.2.2 ∧ utf8Bytes entry.2.2 = codes := by
  have accepted := List.find?_some held
  exact of_decide_eq_true accepted

theorem holds_of_holder {entries : List SpelledEntry} {codes : List UInt8} {entry : SpelledEntry}
    (held : holder entries codes = some entry) : Holds entries entry := by
  rwa [Holds, (spelling_of_holder held).2]

theorem Holds.ascii {entries : List SpelledEntry} {entry : SpelledEntry}
    (holds : Holds entries entry) : IsAsciiText entry.2.2 :=
  (spelling_of_holder holds).1

theorem Holds.mem {entries : List SpelledEntry} {entry : SpelledEntry}
    (holds : Holds entries entry) : entry ∈ entries :=
  List.mem_of_find?_eq_some holds

/-- Among ASCII texts the holder is the first entry with the text. -/
theorem holder_eq_find? (entries : List SpelledEntry) {text : String} (ascii : IsAsciiText text) :
    holder entries (utf8Bytes text) = entries.find? fun entry => entry.2.2 = text := by
  have sameTest : (fun entry : SpelledEntry =>
      decide (IsAsciiText entry.2.2 ∧ utf8Bytes entry.2.2 = utf8Bytes text)) =
        fun entry => decide (entry.2.2 = text) := by
    funext entry
    apply decide_eq_decide.2
    constructor
    · intro held
      exact utf8Bytes_injective held.2
    · rintro rfl
      exact ⟨ascii, rfl⟩
  rw [holder, sameTest]

theorem holder_append (before after : List SpelledEntry) (codes : List UInt8) :
    holder (before ++ after) codes = (holder before codes).or (holder after codes) :=
  List.find?_append

theorem holds_before_iff (before after : List SpelledEntry) (entry : SpelledEntry) :
    Holds before entry ↔ Holds (before ++ after) entry ∧ entry ∈ before := by
  constructor
  · intro holds
    refine ⟨?_, holds.mem⟩
    rw [Holds, holder_append, holds, Option.some_or]
  · rintro ⟨holds, member⟩
    have ascii := holds.ascii
    rw [Holds, holder_append] at holds
    cases first : holder before (utf8Bytes entry.2.2) with
    | some other =>
      rw [first, Option.some_or] at holds
      rw [Holds, first, holds]
    | none =>
      have refused := List.find?_eq_none.1 first entry member
      exact absurd (decide_eq_true ⟨ascii, rfl⟩) refused

theorem holds_iff_free {vocabulary : Vocabulary} {before after : List SpelledEntry}
    {entry : SpelledEntry} (split : vocabulary.spelled = before ++ entry :: after) :
    Holds vocabulary.spelled entry ↔
      IsAsciiText entry.2.2 ∧ holder before (utf8Bytes entry.2.2) = none := by
  constructor
  · intro holds
    refine ⟨holds.ascii, Option.eq_none_iff_forall_ne_some.2 fun other first => ?_⟩
    apply Vocabulary.notMem_before split
    rw [Holds, split, holder_append, first, Option.some_or] at holds
    exact Option.some.inj holds ▸ List.mem_of_find?_eq_some first
  · rintro ⟨ascii, free⟩
    rw [Holds, split, holder_append, free, Option.none_or]
    exact List.find?_cons_of_pos (decide_eq_true ⟨ascii, rfl⟩)

theorem find?_bindings {entries : List SpelledEntry} (notEmpty : ∀ entry ∈ entries, entry.2.2 ≠ "")
    (codes : List UInt8) :
    (Trie.empty.insertAll (bindings entries)).find? codes =
      (holder entries codes).map Prod.fst := by
  cases held : holder entries codes with
  | some entry =>
    obtain ⟨_, before, after, split, others⟩ := List.find?_eq_some_iff_append.1 held
    obtain ⟨ascii, rfl⟩ := spelling_of_holder held
    have free : (bindings before).lookup (utf8Bytes entry.2.2) = none := by
      refine Option.eq_none_iff_forall_ne_some.2 fun id earlier => ?_
      obtain ⟨declaration, text, member, bytes⟩ := listed_of_lookup earlier
      have same : text = entry.2.2 := utf8Bytes_injective bytes
      have refused := others _ member
      simp [same, ascii] at refused
    have own : (Trie.empty.insertAll (bindings (before ++ entry :: after))).lookup entry.2.2 =
        ((bindings before).lookup (utf8Bytes entry.2.2)).or (some entry.1) :=
      lookup_own ascii (notEmpty entry (List.mem_of_find?_eq_some held))
    rw [free, Option.none_or, ← split] at own
    exact own
  | none =>
    refine Option.eq_none_iff_forall_ne_some.2 fun id found => ?_
    have bindable := (Trie.wellFormed_empty.insertAll (bindings entries)).bindable_of_find? found
    rw [Trie.wellFormed_empty.find?_insertAll _ bindable, Trie.find?_empty, Option.none_or] at found
    obtain ⟨declaration, text, member, rfl⟩ := listed_of_lookup found
    have refused := List.find?_eq_none.1 held _ member
    exact refused (decide_eq_true ⟨(utf8Bytes_ascii_iff text).1 bindable.2, rfl⟩)

def passed (entries : List SpelledEntry) (codes : List UInt8) : List SpelledEntry :=
  (beginnings codes).filterMap (holder entries)

theorem mem_passed_iff {entries : List SpelledEntry}
    (notEmpty : ∀ entry ∈ entries, entry.2.2 ≠ "") (codes : List UInt8) (entry : SpelledEntry) :
    entry ∈ passed entries codes ↔
      Holds entries entry ∧ Continues codes (utf8Bytes entry.2.2) := by
  rw [passed, List.mem_filterMap]
  constructor
  · rintro ⟨lead, listed, held⟩
    obtain ⟨_, rfl⟩ := spelling_of_holder held
    exact ⟨held, ((mem_beginnings_iff ..).1 listed).2⟩
  · rintro ⟨holds, continues⟩
    have codesNotEmpty : utf8Bytes entry.2.2 ≠ [] := fun nothing =>
      notEmpty entry holds.mem ((utf8Bytes_eq_nil_iff _).1 nothing)
    exact ⟨_, (mem_beginnings_iff ..).2 ⟨codesNotEmpty, continues⟩, holds⟩

theorem nodup_passed (entries : List SpelledEntry) (codes : List UInt8) :
    (passed entries codes).Nodup := by
  apply List.Nodup.filterMap _ (nodup_beginnings codes)
  intro first second entry held other
  exact (spelling_of_holder held).2.symm.trans (spelling_of_holder other).2

theorem completedFrom_bindings {entries : List SpelledEntry}
    (notEmpty : ∀ entry ∈ entries, entry.2.2 ≠ "") (codes : List UInt8) :
    (Trie.empty.insertAll (bindings entries)).completedFrom Trie.root codes =
      (passed entries codes).map Prod.fst := by
  rw [Trie.completedFrom_eq, passed, List.map_filterMap]
  apply List.filterMap_congr
  intro lead _
  rw [← Trie.find?_eq_findFrom, find?_bindings notEmpty]

/-- Of the entries that hold a spelling which continues this one, the entry has the first. -/
structure Foremost (entries : List SpelledEntry) (codes : List UInt8) (entry : SpelledEntry) :
    Prop where
  holds : Holds entries entry
  continues : Continues (utf8Bytes entry.2.2) codes
  least : ∀ other, Holds entries other → Continues (utf8Bytes other.2.2) codes →
    other = entry ∨ Precedes (utf8Bytes entry.2.2) (utf8Bytes other.2.2)

theorem Foremost.unique {entries : List SpelledEntry} {codes : List UInt8}
    {first second : SpelledEntry} (foremost : Foremost entries codes first)
    (other : Foremost entries codes second) : second = first := by
  apply (foremost.least second other.holds other.continues).resolve_right
  intro order
  rcases other.least first foremost.holds foremost.continues with same | back
  · subst same
    exact order.asymm order
  · exact order.asymm back

theorem foremost_of_first {entries : List SpelledEntry}
    (notEmpty : ∀ entry ∈ entries, entry.2.2 ≠ "") {codes longer : List UInt8} {id : TokenId}
    (first : (Trie.empty.insertAll (bindings entries)).FirstContinuation codes longer id) :
    ∃ entry, Foremost entries codes entry ∧ entry.1 = id := by
  have held := first.bound
  rw [find?_bindings notEmpty, Option.map_eq_some_iff] at held
  obtain ⟨entry, held, rfl⟩ := held
  obtain ⟨_, rfl⟩ := spelling_of_holder held
  refine ⟨entry, ⟨held, first.continues, fun other holds continues => ?_⟩, rfl⟩
  have bound : ((Trie.empty.insertAll (bindings entries)).find? (utf8Bytes other.2.2)).isSome := by
    rw [find?_bindings notEmpty, holds]
    rfl
  apply (first.least _ continues bound).imp_left
  intro same
  rw [Holds, same, held] at holds
  exact (Option.some.inj holds).symm

/-- The search below the end of a spelling gives the id of the foremost entry, and there is one if
any entry continues the spelling. -/
theorem exists_firstUnder_bindings {entries : List SpelledEntry}
    (notEmpty : ∀ entry ∈ entries, entry.2.2 ≠ "") (codes : List UInt8) :
    ∃ behind : Option SpelledEntry,
      ((Trie.empty.insertAll (bindings entries)).walk codes).bind
          (Trie.empty.insertAll (bindings entries)).firstUnder = behind.map Prod.fst ∧
        (∀ entry, behind = some entry ↔ Foremost entries codes entry) ∧
        ∀ entry, Holds entries entry → Continues (utf8Bytes entry.2.2) codes → behind.isSome := by
  have search := (Trie.empty.insertAll (bindings entries)).firstUnder_walk codes
  split at search
  next id found =>
    obtain ⟨longer, first⟩ := search
    obtain ⟨entry, foremost, rfl⟩ := foremost_of_first notEmpty first
    refine ⟨some entry, found, fun other => ⟨?_, fun isFirst => ?_⟩, fun _ _ _ => rfl⟩
    · rintro ⟨⟩
      exact foremost
    · rw [foremost.unique isFirst]
  next found =>
    have nothing : ∀ entry, Holds entries entry → ¬Continues (utf8Bytes entry.2.2) codes := by
      intro entry holds continues
      have free := search _ continues
      rw [find?_bindings notEmpty, holds] at free
      contradiction
    refine ⟨none, found, fun entry => ⟨fun absent => by contradiction, fun foremost => ?_⟩, ?_⟩
    · exact absurd foremost.continues (nothing entry foremost.holds)
    · intro entry holds continues
      exact absurd continues (nothing entry holds)

theorem exists_foremost {entries : List SpelledEntry}
    (notEmpty : ∀ entry ∈ entries, entry.2.2 ≠ "") {codes : List UInt8} {entry : SpelledEntry}
    (holds : Holds entries entry) (continues : Continues (utf8Bytes entry.2.2) codes) :
    ∃ first, Foremost entries codes first := by
  obtain ⟨behind, _, foremost, some⟩ := exists_firstUnder_bindings notEmpty codes
  obtain ⟨first, isFirst⟩ := Option.isSome_iff_exists.1 (some entry holds continues)
  exact ⟨first, (foremost first).1 isFirst⟩

end TokenTables
