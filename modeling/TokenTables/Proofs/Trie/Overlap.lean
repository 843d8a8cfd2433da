import TokenTables.Proofs.Trie.Holding
import TokenTables.Proofs.Trie.Live

/-!
Overlaps. Of two bound spellings one may continue the other, and then the later of the two entries
is the one that can notice it. An entry notices every earlier one whose spelling it continues, but
of the earlier ones that continue its own spelling only the first. Where spellings overlap, some
overlap is noticed, and some node of the trie has a code in both of its slots.
-/

namespace TokenTables

open Vocabulary (SpelledEntry)

inductive Meets (before : List SpelledEntry) (entry : SpelledEntry) :
    SpelledEntry → SpelledEntry → Prop
  | passing {shorter : SpelledEntry} (holds : Holds before shorter)
      (continues : Continues (utf8Bytes entry.2.2) (utf8Bytes shorter.2.2)) :
      Meets before entry shorter entry
  | behind {longer : SpelledEntry} (foremost : Foremost before (utf8Bytes entry.2.2) longer) :
      Meets before entry entry longer

/-- The trie of the entries so far finds the pairs that one more entry forms, each once. -/
theorem exists_overlaps_bindings {before : List SpelledEntry} {entry : SpelledEntry}
    (notEmpty : ∀ other ∈ before, other.2.2 ≠ "") (fresh : entry ∉ before) :
    ∃ pairs : List (SpelledEntry × SpelledEntry),
      (Trie.empty.insertAll (bindings before)).overlaps entry.1 (utf8Bytes entry.2.2) =
          pairs.map (fun pair => (pair.1.1, pair.2.1)) ∧
        pairs.Nodup ∧
        ∀ shorter longer, (shorter, longer) ∈ pairs ↔ Meets before entry shorter longer := by
  obtain ⟨behind, search, foremost, _⟩ := exists_firstUnder_bindings notEmpty (utf8Bytes entry.2.2)
  have nodup := nodup_passed before (utf8Bytes entry.2.2)
  have member := mem_passed_iff notEmpty (utf8Bytes entry.2.2)
  refine ⟨(passed before (utf8Bytes entry.2.2)).map (·, entry) ++ (behind.map (entry, ·)).toList,
    ?_, ?_, fun shorter longer => ?_⟩
  · rw [Trie.overlaps, completedFrom_bindings notEmpty, search]
    cases behind <;> simp
  · apply List.Nodup.append
    · exact nodup.map fun first second same => (Prod.mk.inj same).1
    · cases behind <;> simp
    · -- A pair found on both sides would be the entry with itself.
      intro pair left right
      obtain ⟨shorter, listed, rfl⟩ := List.mem_map.1 left
      obtain ⟨longer, _, same⟩ := Option.map_eq_some_iff.1 (Option.mem_toList.1 right)
      rw [← (Prod.mk.inj same).1] at listed
      exact fresh ((member entry).1 listed).1.mem
  · rw [List.mem_append, List.mem_map, Option.mem_toList, Option.map_eq_some_iff]
    simp only [Prod.mk.injEq, member, foremost]
    constructor
    · rintro (⟨_, ⟨holds, continues⟩, rfl, rfl⟩ | ⟨_, isFirst, rfl, rfl⟩)
      · exact .passing holds continues
      · exact .behind isFirst
    · intro meets
      cases meets with
      | passing holds continues => exact .inl ⟨shorter, ⟨holds, continues⟩, rfl, rfl⟩
      | behind isFirst => exact .inr ⟨longer, isFirst, rfl, rfl⟩

namespace Vocabulary

variable (vocabulary : Vocabulary) (trie : Trie)

/-- The trie binds the spelling of the entry to the entry. Ids repeat where there are more
positions than their words can tell apart, so the entry is also the first with its spelling. -/
structure Binds (entry : SpelledEntry) : Prop where
  first : (vocabulary.spelled.find? fun other => other.2.2 = entry.2.2) = some entry
  found : trie.lookup entry.2.2 = some entry.1

structure Overlaps (shorter longer : SpelledEntry) : Prop where
  short : vocabulary.Binds trie shorter
  long : vocabulary.Binds trie longer
  continues : Continues (utf8Bytes longer.2.2) (utf8Bytes shorter.2.2)

theorem Binds.mem {vocabulary : Vocabulary} {trie : Trie} {entry : SpelledEntry}
    (binds : vocabulary.Binds trie entry) : entry ∈ vocabulary.spelled :=
  List.mem_of_find?_eq_some binds.first

def later (first second : SpelledEntry) : SpelledEntry :=
  if vocabulary.Before first second then second else first

/-- An overlap that is noticed: the shorter spelling comes first, or of the spellings before it
that continue it, this one is the first. -/
structure Noticed (shorter longer : SpelledEntry) : Prop where
  overlaps : vocabulary.Overlaps trie shorter longer
  order : vocabulary.Before shorter longer ∨
    vocabulary.Before longer shorter ∧
      ∀ other, vocabulary.Overlaps trie shorter other → vocabulary.Before other shorter →
        other = longer ∨ Precedes (utf8Bytes longer.2.2) (utf8Bytes other.2.2)

variable {vocabulary} {trie} (complete : trie = Trie.empty.insertAll (bindings vocabulary.spelled))

include complete in
theorem binds_iff (entry : SpelledEntry) :
    vocabulary.Binds trie entry ↔ Holds vocabulary.spelled entry := by
  have bound : ∀ text, trie.lookup text =
      (holder vocabulary.spelled (utf8Bytes text)).map Prod.fst := by
    intro text
    rw [complete]
    exact find?_bindings (fun _ => spelling_ne_empty) _
  constructor
  · rintro ⟨first, found⟩
    rw [bound, Option.map_eq_some_iff] at found
    obtain ⟨other, held, _⟩ := found
    obtain ⟨ascii, bytes⟩ := spelling_of_holder held
    rw [utf8Bytes_injective bytes] at ascii
    rw [Holds, holder_eq_find? _ ascii]
    exact first
  · intro holds
    constructor
    · rw [← holder_eq_find? _ holds.ascii]
      exact holds
    · rw [bound, holds]
      rfl

include complete in
theorem overlaps_iff (shorter longer : SpelledEntry) :
    vocabulary.Overlaps trie shorter longer ↔
      Holds vocabulary.spelled shorter ∧ Holds vocabulary.spelled longer ∧
        Continues (utf8Bytes longer.2.2) (utf8Bytes shorter.2.2) := by
  rw [← binds_iff complete, ← binds_iff complete]
  constructor
  · rintro ⟨short, long, continues⟩
    exact ⟨short, long, continues⟩
  · rintro ⟨short, long, continues⟩
    exact ⟨short, long, continues⟩

include complete in
theorem noticed_at_iff {before after : List SpelledEntry} {entry : SpelledEntry}
    (split : vocabulary.spelled = before ++ entry :: after)
    (holds : Holds vocabulary.spelled entry) (shorter longer : SpelledEntry) :
    vocabulary.Noticed trie shorter longer ∧ vocabulary.later shorter longer = entry ↔
      Meets before entry shorter longer := by
  have earlier : ∀ other, Holds before other ↔
      Holds vocabulary.spelled other ∧ vocabulary.Before other entry := fun other => by
    rw [holds_before_iff before (entry :: after), before_iff_mem split, split]
  constructor
  · rintro ⟨noticed, last⟩
    obtain ⟨short, long, continues⟩ := (overlaps_iff complete ..).1 noticed.overlaps
    by_cases order : vocabulary.Before shorter longer
    · rw [later, if_pos order] at last
      subst last
      exact .passing ((earlier shorter).2 ⟨short, order⟩) continues
    · rw [later, if_neg order] at last
      subst last
      obtain ⟨back, least⟩ := noticed.order.resolve_left order
      refine .behind ⟨(earlier longer).2 ⟨long, back⟩, continues, ?_⟩
      intro other held further
      obtain ⟨otherHolds, otherBack⟩ := (earlier other).1 held
      exact least other ((overlaps_iff complete ..).2 ⟨short, otherHolds, further⟩) otherBack
  · intro meets
    cases meets with
    | passing held continues =>
      obtain ⟨short, order⟩ := (earlier shorter).1 held
      have overlaps := (overlaps_iff complete ..).2 ⟨short, holds, continues⟩
      exact ⟨⟨overlaps, .inl order⟩, if_pos order⟩
    | behind foremost =>
      obtain ⟨long, back⟩ := (earlier longer).1 foremost.holds
      have overlaps := (overlaps_iff complete ..).2 ⟨holds, long, foremost.continues⟩
      refine ⟨⟨overlaps, .inr ⟨back, ?_⟩⟩, if_neg (Nat.lt_asymm back)⟩
      intro other others otherBack
      obtain ⟨_, otherHolds, further⟩ := (overlaps_iff complete ..).1 others
      exact foremost.least other ((earlier other).2 ⟨otherHolds, otherBack⟩) further

include complete in
theorem Noticed.holds_later {shorter longer : SpelledEntry}
    (noticed : vocabulary.Noticed trie shorter longer) :
    Holds vocabulary.spelled (vocabulary.later shorter longer) := by
  obtain ⟨short, long, _⟩ := (overlaps_iff complete ..).1 noticed.overlaps
  unfold later
  split
  next => exact long
  next => exact short

include complete in
theorem exists_noticed {shorter longer : SpelledEntry}
    (overlaps : vocabulary.Overlaps trie shorter longer) :
    ∃ first second, vocabulary.Noticed trie first second := by
  obtain ⟨short, long, continues⟩ := (overlaps_iff complete ..).1 overlaps
  have different : shorter ≠ longer := by
    rintro rfl
    exact continues.ne rfl
  rcases before_total short.mem different with order | back
  · exact ⟨shorter, longer, overlaps, .inl order⟩
  · -- Not this overlap, perhaps, but the one with the foremost of the earlier spellings.
    obtain ⟨before, after, split⟩ := List.append_of_mem short.mem
    have earlier : Holds before longer := by
      apply (holds_before_iff before (shorter :: after) longer).2
      rw [← split]
      exact ⟨long, (before_iff_mem split longer).1 back⟩
    obtain ⟨first, foremost⟩ := exists_foremost (spellings_ne_empty split) earlier continues
    have noticed := (noticed_at_iff complete split short shorter first).2 (.behind foremost)
    exact ⟨shorter, first, noticed.1⟩

include complete in
theorem exists_shared_iff_overlaps :
    (∃ index code, trie.Shared index code) ↔
      ∃ shorter longer, vocabulary.Overlaps trie shorter longer := by
  have tree : trie.WellFormed := by
    rw [complete]
    exact Trie.wellFormed_empty.insertAll _
  have live : trie.Live := by
    rw [complete]
    exact Trie.live_empty.insertAll Trie.wellFormed_empty _
  have bound : ∀ codes, (trie.find? codes).isSome ↔
      ∃ entry, Holds vocabulary.spelled entry ∧ utf8Bytes entry.2.2 = codes := by
    intro codes
    rw [complete, find?_bindings fun _ => spelling_ne_empty, Option.isSome_map,
      Option.isSome_iff_exists]
    constructor
    · rintro ⟨entry, held⟩
      exact ⟨entry, holds_of_holder held, (spelling_of_holder held).2⟩
    · rintro ⟨entry, holds, rfl⟩
      exact ⟨entry, holds⟩
  rw [Trie.exists_shared_iff tree live]
  constructor
  · rintro ⟨_, _, continues, short, long⟩
    obtain ⟨shorter, held, rfl⟩ := (bound _).1 short
    obtain ⟨longer, further, rfl⟩ := (bound _).1 long
    exact ⟨shorter, longer, (overlaps_iff complete ..).2 ⟨held, further, continues⟩⟩
  · rintro ⟨shorter, longer, overlaps⟩
    obtain ⟨short, long, continues⟩ := (overlaps_iff complete ..).1 overlaps
    exact ⟨_, _, continues, (bound _).2 ⟨shorter, short, rfl⟩, (bound _).2 ⟨longer, long, rfl⟩⟩

end Vocabulary

end TokenTables
