import Mathlib.Data.List.Forall2
import TokenTables.Diagnostic.Basic

/-!
Sorting a report orders it by places and keeps what speaks of the same place in order. So it makes
no difference whether diagnostics are left out before the report is sorted or after it, and two
reports whose diagnostics speak of the same places one by one are sorted alike.
-/

namespace TokenTables

namespace Diagnostic

def atOrBefore (first second : Diagnostic) : Bool := (comparePlaces first second).isLE

theorem sort_eq (report : List Diagnostic) : sort report = report.mergeSort atOrBefore := rfl

instance : Std.TransCmp comparePlaces :=
  inferInstanceAs (Std.TransCmp
    (compareLex (compareOn Diagnostic.file) (compareOn fun diagnostic => diagnostic.line.getD 0)))

theorem atOrBefore_trans (first second third : Diagnostic)
    (left : atOrBefore first second = true) (right : atOrBefore second third = true) :
    atOrBefore first third = true :=
  Std.TransCmp.isLE_trans left right

theorem atOrBefore_total (first second : Diagnostic) :
    (atOrBefore first second || atOrBefore second first) = true := by
  rw [Bool.or_eq_true]
  cases order : comparePlaces first second with
  | lt => exact .inl (by rw [atOrBefore, order]; rfl)
  | eq => exact .inl (by rw [atOrBefore, order]; rfl)
  | gt => exact .inr (by rw [atOrBefore, Std.OrientedCmp.lt_of_gt order]; rfl)

theorem eq_of_append_eq {α : Type} (keep : α → Bool) {before after others rest : List α}
    (same : before ++ after = others ++ rest) (kept : ∀ member ∈ before, keep member)
    (left : ∀ member ∈ after, ¬keep member) (othersKept : ∀ member ∈ others, keep member)
    (restLeft : ∀ member ∈ rest, ¬keep member) : before = others ∧ after = rest := by
  have first := congrArg (List.filter keep) same
  rw [List.filter_append, List.filter_append, List.filter_eq_self.2 kept,
    List.filter_eq_nil_iff.2 left, List.filter_eq_self.2 othersKept,
    List.filter_eq_nil_iff.2 restLeft, List.append_nil, List.append_nil] at first
  subst first
  exact ⟨rfl, List.append_cancel_left same⟩

theorem filter_append_filter_not {α : Type} {keep : α → Bool} {members : List α}
    (order : members.Pairwise fun first second => keep second = true → keep first = true) :
    members.filter keep ++ members.filter (fun member => !keep member) = members := by
  induction members with
  | nil => rfl
  | cons member rest ih =>
    obtain ⟨first, later⟩ := List.pairwise_cons.1 order
    cases kept : keep member with
    | true => simpa [List.filter_cons, kept] using ih later
    | false =>
      have none : rest.filter keep = [] := List.filter_eq_nil_iff.2 fun other isLater isKept => by
        rw [first other isLater isKept] at kept
        contradiction
      have all := ih later
      rw [none, List.nil_append] at all
      simp [kept, none, all]

/-- Diagnostics are put in one after another. One that is left out would have changed nothing about
the others, and one that is kept finds its place among those that are kept. -/
theorem filter_sort (keep : Diagnostic → Bool) (report : List Diagnostic) :
    (sort report).filter keep = sort (report.filter keep) := by
  simp only [sort_eq]
  induction report with
  | nil => simp
  | cons diagnostic rest ih =>
    obtain ⟨before, after, whole, sorted, earlier⟩ :=
      List.mergeSort_cons atOrBefore_trans atOrBefore_total diagnostic rest
    have ascending := List.pairwise_mergeSort atOrBefore_trans atOrBefore_total (diagnostic :: rest)
    rw [whole, List.pairwise_append, List.pairwise_cons] at ascending
    have later := ascending.2.1.1
    rw [sorted, List.filter_append] at ih
    rw [whole, List.filter_append]
    by_cases kept : keep diagnostic
    · obtain ⟨front, back, placed, others, frontEarlier⟩ :=
        List.mergeSort_cons atOrBefore_trans atOrBefore_total diagnostic (rest.filter keep)
      have placedAscending := List.pairwise_mergeSort atOrBefore_trans atOrBefore_total
        (diagnostic :: rest.filter keep)
      rw [placed, List.pairwise_append, List.pairwise_cons] at placedAscending
      -- What comes before the new diagnostic and what comes after it is told by the order.
      obtain ⟨sameFront, sameBack⟩ := eq_of_append_eq
        (fun other => !atOrBefore diagnostic other) (ih.trans others)
        (fun other member => earlier other (List.mem_of_mem_filter member))
        (fun other member => by simp [later other (List.mem_of_mem_filter member)])
        frontEarlier
        (fun other member => by simp [placedAscending.2.1.1 other member])
      rw [List.filter_cons_of_pos kept, List.filter_cons_of_pos kept, placed, sameFront, sameBack]
    · rw [List.filter_cons_of_neg kept, List.filter_cons_of_neg kept]
      exact ih

/-- Both reports are the two sides of one list of pairs, which is sorted by the places that both
sides speak of. -/
theorem forall₂_sort {alike : Diagnostic → Diagnostic → Prop}
    (samePlace : ∀ {first second}, alike first second →
      first.file = second.file ∧ first.line = second.line)
    {report others : List Diagnostic} (both : List.Forall₂ alike report others) :
    List.Forall₂ alike (sort report) (sort others) := by
  let pairs := report.zip others
  let pairsAtOrBefore (first second : Diagnostic × Diagnostic) := atOrBefore first.1 second.1
  have left : pairs.map Prod.fst = report := List.map_fst_zip (Nat.le_of_eq both.length_eq)
  have right : pairs.map Prod.snd = others := List.map_snd_zip (Nat.le_of_eq both.length_eq.symm)
  have related : ∀ pair ∈ pairs, alike pair.1 pair.2 := fun _ member => List.forall₂_zip both member
  have leftSorted : (pairs.mergeSort pairsAtOrBefore).map Prod.fst = sort report := by
    rw [sort_eq, ← left]
    exact List.map_mergeSort fun _ _ _ _ => rfl
  have rightSorted : (pairs.mergeSort pairsAtOrBefore).map Prod.snd = sort others := by
    rw [sort_eq, ← right]
    apply List.map_mergeSort
    intro first firstMember second secondMember
    obtain ⟨file, line⟩ := samePlace (related first firstMember)
    obtain ⟨otherFile, otherLine⟩ := samePlace (related second secondMember)
    simp only [pairsAtOrBefore, atOrBefore, comparePlaces, file, line, otherFile, otherLine]
  rw [← leftSorted, ← rightSorted, List.forall₂_map_left_iff, List.forall₂_map_right_iff]
  exact List.forall₂_same.2 fun pair member => related pair (List.mem_mergeSort.1 member)

/-! What a sorted report is like. -/

/-- What has no file comes first, and then the files in the order of their names. In one file the
lines ascend, and what has no line counts as line 0. -/
def InOrder (first second : Diagnostic) : Prop :=
  match first.file, second.file with
  | none, none => first.line.getD 0 ≤ second.line.getD 0
  | none, some _ => True
  | some _, none => False
  | some file, some other =>
    file < other ∨ file = other ∧ first.line.getD 0 ≤ second.line.getD 0

theorem atOrBefore_iff (first second : Diagnostic) :
    atOrBefore first second = true ↔ InOrder first second := by
  rw [atOrBefore, comparePlaces, Ordering.isLE_then_iff_or, Nat.isLE_compare, InOrder]
  cases first.file with
  | none =>
    cases second.file with
    | none => simp [compare]
    | some other => simp [compare]
  | some file =>
    cases second.file with
    | none => simp [compare]
    | some other =>
      have less : compare file other = .lt ↔ file < other := compareOfLessAndEq_eq_lt
      have same : compare file other = .eq ↔ file = other := Std.LawfulEqCmp.compare_eq_iff_eq
      exact or_congr less (and_congr_left fun _ => same)

theorem sort_inOrder (report : List Diagnostic) : (sort report).Pairwise InOrder :=
  (List.pairwise_mergeSort atOrBefore_trans atOrBefore_total report).imp
    fun {first second} order => (atOrBefore_iff first second).1 order

theorem sort_of_inOrder {report : List Diagnostic} (ordered : report.Pairwise InOrder) :
    sort report = report :=
  List.mergeSort_of_pairwise <| ordered.imp fun {first second} order =>
    (atOrBefore_iff first second).2 order

theorem sort_of_onePlace {report : List Diagnostic} {file : Option String} {line : Nat}
    (place : ∀ diagnostic ∈ report, diagnostic.file = file ∧ diagnostic.line.getD 0 = line) :
    sort report = report := by
  apply sort_of_inOrder
  apply List.pairwise_of_forall_mem_list
  intro first firstHere second secondHere
  obtain ⟨firstFile, firstLine⟩ := place first firstHere
  obtain ⟨secondFile, secondLine⟩ := place second secondHere
  rw [InOrder, firstFile, secondFile, firstLine, secondLine]
  cases file with
  | none => exact Nat.le_refl _
  | some file => exact .inr ⟨rfl, Nat.le_refl _⟩

theorem sort_append_general {located general : List Diagnostic}
    (inFile : ∀ diagnostic ∈ located, diagnostic.file.isSome)
    (noPlace : ∀ diagnostic ∈ general, diagnostic.file = none ∧ diagnostic.line = none) :
    sort (located ++ general) = general ++ sort located := by
  let outside (diagnostic : Diagnostic) : Bool := diagnostic.file.isNone
  have first : (sort (located ++ general)).Pairwise fun first second =>
      outside second = true → outside first = true := by
    refine (sort_inOrder _).imp fun {first second} order isOutside => ?_
    rw [InOrder, Option.isNone_iff_eq_none.1 isOutside] at order
    cases named : first.file with
    | none => simp [outside, named]
    | some file => simp [named] at order
  have isInside : ∀ diagnostic ∈ located, outside diagnostic = false := fun diagnostic member =>
    Option.isNone_eq_false_iff.2 (inFile diagnostic member)
  have isOutside : ∀ diagnostic ∈ general, outside diagnostic = true := fun diagnostic member =>
    Option.isNone_iff_eq_none.2 (noPlace diagnostic member).1
  have front : (located ++ general).filter outside = general := by
    rw [List.filter_append, List.filter_eq_self.2 isOutside, List.filter_eq_nil_iff.2,
      List.nil_append]
    exact fun diagnostic member => by simp [isInside diagnostic member]
  have back : (located ++ general).filter (fun diagnostic => !outside diagnostic) = located := by
    rw [List.filter_append, List.filter_eq_self.2, List.filter_eq_nil_iff.2, List.append_nil]
    · exact fun diagnostic member => by simp [isOutside diagnostic member]
    · exact fun diagnostic member => by simp [isInside diagnostic member]
  have sorted : sort general = general := sort_of_onePlace fun diagnostic member =>
    ⟨(noPlace diagnostic member).1, by rw [(noPlace diagnostic member).2, Option.getD_none]⟩
  rw [← filter_append_filter_not first, filter_sort, filter_sort, front, back, sorted]

/-- A report and what sorting makes of it. -/
structure StablySorted (report sorted : List Diagnostic) : Prop where
  perm : sorted.Perm report
  ordered : sorted.Pairwise InOrder
  /-- What the order does not tell apart stays in the order of the report. -/
  stable : ∀ file line,
    sorted.filter (fun diagnostic => diagnostic.file = file ∧ diagnostic.line.getD 0 = line) =
      report.filter (fun diagnostic => diagnostic.file = file ∧ diagnostic.line.getD 0 = line)
  sort_eq_self : sort sorted = sorted
  length_eq : sorted.length = report.length
  hasErrors_eq : hasErrors sorted = hasErrors report
  errorCount_eq : errorCount sorted = errorCount report
  warningCount_eq : warningCount sorted = warningCount report
  mentions_eq : ∀ code, mentions sorted code = mentions report code

theorem stablySorted_sort (report : List Diagnostic) : StablySorted report (sort report) := by
  have perm : (sort report).Perm report := List.mergeSort_perm report _
  have ordered := sort_inOrder report
  constructor
  case perm => exact perm
  case ordered => exact ordered
  case stable =>
    intro file line
    rw [filter_sort]
    exact sort_of_onePlace fun diagnostic member => of_decide_eq_true (List.mem_filter.1 member).2
  case sort_eq_self => exact sort_of_inOrder ordered
  case length_eq => exact perm.length_eq
  case hasErrors_eq => exact perm.any_eq
  case errorCount_eq => exact perm.countP_eq _
  case warningCount_eq => exact perm.countP_eq _
  case mentions_eq => exact fun code => perm.any_eq

end Diagnostic

end TokenTables
