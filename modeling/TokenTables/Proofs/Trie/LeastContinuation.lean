import TokenTables.Proofs.Trie.Continuation
import TokenTables.Proofs.Trie.Correspondence

/-!
The search below a node. It finds a token just if a bound spelling goes on from the path to the
node, and such a spelling there is below every node but the root. Of several it finds the least, in
an order of its own: a spelling that ends comes before all that are longer there, whatever their
codes are, so the least is in general neither the first in the dictionary nor the shortest.
-/

namespace TokenTables

/-- Two spellings are told apart at the first position where they have different codes or where just
one of them ends. The one that ends there is less, and otherwise the one with the lesser code. -/
def ComesFirst (first second : List UInt8) : Prop :=
  ∃ shared code other rest more,
    first = shared ++ code :: rest ∧ second = shared ++ other :: more ∧
      (rest = [] ∧ more ≠ [] ∨ (rest = [] ↔ more = []) ∧ code < other)

/-- The order of the search is decided at one position. -/
theorem precedes_iff (first second : List UInt8) :
    Precedes first second ↔ ComesFirst first second := by
  constructor
  · intro order
    fun_induction Precedes first second with
    | case1 code other => exact ⟨[], code, other, [], [], rfl, rfl, .inr ⟨Iff.rfl, order⟩⟩
    | case2 code other following more =>
      exact ⟨[], code, other, [], following :: more, rfl, rfl, .inl ⟨rfl, by simp⟩⟩
    | case3 code next rest other following more ih =>
      rcases order with less | ⟨rfl, later⟩
      · exact ⟨[], code, other, _, _, rfl, rfl, .inr ⟨by simp, less⟩⟩
      · obtain ⟨shared, left, right, _, _, here, there, decided⟩ := ih later
        exact ⟨code :: shared, left, right, _, _, congrArg _ here, congrArg _ there, decided⟩
    | case4 => exact absurd order id
  · rintro ⟨shared, code, other, rest, more, rfl, rfl, decided⟩
    apply Precedes.append
    rcases decided with ⟨rfl, longer⟩ | ⟨both, less⟩
    · obtain ⟨following, others, rfl⟩ := List.exists_cons_of_ne_nil longer
      trivial
    · cases rest with
      | nil => rwa [both.1 rfl]
      | cons next rest =>
        obtain ⟨following, others, rfl⟩ :=
          List.exists_cons_of_ne_nil fun nothing => List.cons_ne_nil next rest (both.2 nothing)
        exact .inl less

namespace Trie

structure LeastContinuation (bindings : List (List UInt8 × TokenId)) (spelling longer : List UInt8)
    (id : TokenId) : Prop where
  bound : (longer, id) ∈ bindings
  continues : Continues longer spelling
  least : ∀ other held, (other, held) ∈ bindings → Continues other spelling →
    other = longer ∨ ComesFirst longer other

/-- What the search below a node finds, told from the path to the node and what is bound. -/
structure SearchesBelow (trie : Trie) (bindings : List (List UInt8 × TokenId))
    (path : List UInt8) (index : Nat) : Prop where
  isSome_iff : (trie.firstUnder index).isSome ↔
    ∃ longer id, (longer, id) ∈ bindings ∧ Continues longer path
  below_path : path ≠ [] → ∃ longer id, (longer, id) ∈ bindings ∧ Continues longer path
  eq_some_iff : ∀ id, trie.firstUnder index = some id ↔
    ∃ longer, LeastContinuation bindings path longer id

theorem FirstContinuation.unique {trie : Trie} {path longer other : List UInt8} {id held : TokenId}
    (first : trie.FirstContinuation path longer id)
    (second : trie.FirstContinuation path other held) : held = id := by
  have same : other = longer := Precedes.eq_of_first
    (first.least other second.continues (by rw [second.bound]; rfl))
    (second.least longer first.continues (by rw [first.bound]; rfl))
  have bound := second.bound
  rw [same, first.bound] at bound
  exact (Option.some.inj bound).symm

section

variable {trie : Trie} {bindings : List (List UInt8 × TokenId)}
  (bound : ∀ spelling id, trie.find? spelling = some id ↔ (spelling, id) ∈ bindings)
include bound

theorem firstContinuation_iff (path longer : List UInt8) (id : TokenId) :
    trie.FirstContinuation path longer id ↔ LeastContinuation bindings path longer id := by
  constructor
  · intro first
    refine ⟨(bound longer id).1 first.bound, first.continues, fun other held listed further => ?_⟩
    have found := (bound other held).2 listed
    exact (first.least other further (by rw [found]; rfl)).imp_right (precedes_iff longer other).1
  · intro least
    refine ⟨least.continues, (bound longer id).2 least.bound, fun other further found => ?_⟩
    obtain ⟨held, found⟩ := Option.isSome_iff_exists.1 found
    have listed := (bound other held).1 found
    exact (least.least other held listed further).imp_right (precedes_iff longer other).2

theorem searchesBelow (tree : trie.WellFormed) (live : trie.Live) {path : List UInt8} {index : Nat}
    (leads : trie.walk path = some index) : trie.SearchesBelow bindings path index := by
  have search := trie.firstUnder_walk path
  rw [leads, Option.bind_some] at search
  constructor
  case isSome_iff =>
    cases found : trie.firstUnder index with
    | some id =>
      rw [found] at search
      obtain ⟨longer, first⟩ := search
      exact iff_of_true rfl ⟨longer, id, (bound longer id).1 first.bound, first.continues⟩
    | none =>
      rw [found] at search
      refine iff_of_false (by simp) ?_
      rintro ⟨longer, id, listed, continues⟩
      have nothing := search longer continues
      rw [(bound longer id).2 listed] at nothing
      contradiction
  case below_path =>
    intro notRoot
    have leadsOn := (live.walk_isSome_iff tree path).1 (by rw [leads]; rfl)
    obtain ⟨longer, continues, found⟩ := leadsOn.resolve_left notRoot
    obtain ⟨id, found⟩ := Option.isSome_iff_exists.1 found
    exact ⟨longer, id, (bound longer id).1 found, continues⟩
  case eq_some_iff =>
    intro id
    simp only [← firstContinuation_iff bound]
    constructor
    · intro found
      rwa [found] at search
    · rintro ⟨longer, first⟩
      cases found : trie.firstUnder index with
      | some other =>
        rw [found] at search
        obtain ⟨_, second⟩ := search
        rw [first.unique second]
      | none =>
        rw [found] at search
        have nothing := search longer first.continues
        rw [first.bound] at nothing
        contradiction

end

/-- After every history of insertions the search below a node finds the least of the accepted
spellings that go on from the path to the node, and there is one unless the node is the root. -/
theorem firstUnder_insertAll (history : List (List UInt8 × TokenId)) {path : List UInt8}
    {index : Nat} (leads : (empty.insertAll history).walk path = some index) :
    (empty.insertAll history).SearchesBelow (empty.accepted history) path index := by
  have bound (spelling : List UInt8) (id : TokenId) :
      (empty.insertAll history).find? spelling = some id ↔
        (spelling, id) ∈ empty.accepted history := by
    rw [wellFormed_empty.find?_insertAll_iff, find?_empty]
    simp
  exact searchesBelow bound (wellFormed_empty.insertAll history)
    (live_empty.insertAll wellFormed_empty history) leads

/-- Insertions of which the last two are refused. Of what goes on from the first code, the second
spelling is the first in the dictionary and the first one is the shortest. -/
def branches : List (List UInt8 × TokenId) :=
  [([60, 98, 99], ⟨0⟩), ([60, 97, 97, 97, 97], ⟨1⟩), ([60, 97, 97, 98], ⟨2⟩), ([], ⟨3⟩),
    ([60, 97, 97, 98], ⟨4⟩)]

theorem branches_searched :
    (empty.insertAll branches).walk [60] = some 1 ∧
      (empty.insertAll branches).firstUnder 1 = some ⟨2⟩ ∧
      (empty.insertAll branches).SearchesBelow (empty.accepted branches) [60] 1 := by
  have leads : (empty.insertAll branches).walk [60] = some 1 := by decide
  have found : (empty.insertAll branches).firstUnder 1 = some ⟨2⟩ := by decide +kernel
  exact ⟨leads, found, firstUnder_insertAll branches leads⟩

end Trie

end TokenTables
