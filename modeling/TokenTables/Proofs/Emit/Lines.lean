import TokenTables.Proofs.Emit.Outline

/-!
The lines of a page. Every step writes one line or none, at the level that the steps before it lead
to, so what is laid out is known line by line: cutting the text at its line feeds gives these lines,
if no text of a step breaks its line.
-/

namespace TokenTables

namespace LayoutStep

open OutlineReading (indented)

def text : LayoutStep → String
  | line text => text
  | opening text => text
  | closing text => text
  | _ => ""

def atLevel (level : Nat) (text : String) : List Char :=
  if text.isEmpty then [] else indented level text

def lines (level : Nat) : LayoutStep → List (List Char)
  | line text => [atLevel level text]
  | opening text => [atLevel level text]
  | closing text => [atLevel (level - 1) text]
  | blank => [[]]
  | indent => []
  | dedent => []

def levelAfter (level : Nat) : LayoutStep → Nat
  | line _ => level
  | opening _ => level + 1
  | closing _ => level - 1
  | blank => level
  | indent => level + 1
  | dedent => level - 1

end LayoutStep

namespace Layout

open LayoutStep (atLevel)
open OutlineReading

def levelAfter (level : Nat) (steps : List LayoutStep) : Nat :=
  steps.foldl LayoutStep.levelAfter level

def linesAt (level : Nat) : List LayoutStep → List (List Char)
  | [] => []
  | step :: rest => step.lines level ++ linesAt (step.levelAfter level) rest

theorem linesAt_append (level : Nat) (first second : List LayoutStep) :
    linesAt level (first ++ second) =
      linesAt level first ++ linesAt (levelAfter level first) second := by
  induction first generalizing level with
  | nil => rfl
  | cons step rest ih =>
    rw [List.cons_append, linesAt, ih, ← List.append_assoc]
    rfl

theorem levelAfter_append (level : Nat) (first second : List LayoutStep) :
    levelAfter level (first ++ second) = levelAfter (levelAfter level first) second :=
  List.foldl_append ..

theorem levelAfter_lines (level : Nat) (texts : List String) :
    levelAfter level (texts.map .line) = level := by
  induction texts with
  | nil => rfl
  | cons text rest ih => exact ih

theorem linesAt_lines (level : Nat) (texts : List String) :
    linesAt level (texts.map .line) = texts.map (atLevel level) := by
  induction texts with
  | nil => rfl
  | cons text rest ih => exact congrArg (atLevel level text :: ·) ih

theorem levelAfter_block (level : Nat) (opening closing : String) (texts : List String) :
    levelAfter level (.opening opening :: texts.map .line ++ [.closing closing]) = level := by
  rw [List.cons_append, ← List.singleton_append, levelAfter_append, levelAfter_append,
    levelAfter_lines]
  rfl

theorem linesAt_block (level : Nat) (opening closing : String) (texts : List String) :
    linesAt level (.opening opening :: texts.map .line ++ [.closing closing]) =
      atLevel level opening :: texts.map (atLevel (level + 1)) ++ [atLevel level closing] := by
  have inside : levelAfter (level + 1) (texts.map .line) = level + 1 := levelAfter_lines ..
  have opened : linesAt level (.opening opening :: (texts.map .line ++ [.closing closing])) =
      atLevel level opening :: linesAt (level + 1) (texts.map .line ++ [.closing closing]) := rfl
  rw [List.cons_append, opened, linesAt_append, linesAt_lines, inside]
  rfl

/-! The text of a page. -/

theorem writeLine_eq (page : Page) (text : String) :
    page.writeLine text =
      ⟨page.level, page.text ++ String.ofList (pageText [atLevel page.level text])⟩ := by
  unfold Page.writeLine atLevel
  by_cases empty : text.isEmpty
  · rw [if_pos empty, if_pos empty]
    rfl
  · rw [if_neg empty, if_neg empty, pageText, List.flatMap_singleton, String.ofList_append,
      indented, String.ofList_toList]
    simp only [String.append_assoc]

theorem write_eq (page : Page) (step : LayoutStep) :
    page.write step =
      ⟨step.levelAfter page.level,
        page.text ++ String.ofList (pageText (step.lines page.level))⟩ := by
  cases step with
  | line text => exact writeLine_eq page text
  | opening text =>
    rw [Page.write, writeLine_eq]
    rfl
  | closing text => exact writeLine_eq page.dedent text
  | blank => exact writeLine_eq page ""
  | indent => exact congrArg (Page.mk _) (String.append_empty).symm
  | dedent => exact congrArg (Page.mk _) (String.append_empty).symm

theorem writeAll_eq (page : Page) (steps : List LayoutStep) :
    page.writeAll steps =
      ⟨levelAfter page.level steps,
        page.text ++ String.ofList (pageText (linesAt page.level steps))⟩ := by
  induction steps generalizing page with
  | nil => exact congrArg (Page.mk _) (String.append_empty).symm
  | cons step rest ih =>
    have written : page.writeAll (step :: rest) = (page.write step).writeAll rest := rfl
    rw [written, ih, write_eq, linesAt, pageText_append, String.ofList_append,
      String.append_assoc]
    rfl

theorem layOut_toList (steps : List LayoutStep) :
    (layOut steps).toList = pageText (linesAt 0 steps) := by
  rw [layOut, writeAll_eq, String.empty_append, String.toList_ofList]

theorem atLevel_unbroken (level : Nat) {text : String} (unbroken : '\n' ∉ text.toList) :
    '\n' ∉ atLevel level text := by
  unfold atLevel
  split
  next => exact List.not_mem_nil
  next => exact indented_unbroken level unbroken

theorem linesAt_unbroken (level : Nat) {steps : List LayoutStep}
    (unbroken : ∀ step ∈ steps, '\n' ∉ step.text.toList) :
    ∀ line ∈ linesAt level steps, '\n' ∉ line := by
  induction steps generalizing level with
  | nil => exact List.forall_mem_nil _
  | cons step rest ih =>
    obtain ⟨first, later⟩ := List.forall_mem_cons.1 unbroken
    rw [linesAt, List.forall_mem_append]
    refine ⟨?_, ih _ later⟩
    cases step with
    | line text => exact List.forall_mem_singleton.2 (atLevel_unbroken level first)
    | opening text => exact List.forall_mem_singleton.2 (atLevel_unbroken level first)
    | closing text => exact List.forall_mem_singleton.2 (atLevel_unbroken _ first)
    | blank => exact List.forall_mem_singleton.2 List.not_mem_nil
    | indent => exact List.forall_mem_nil _
    | dedent => exact List.forall_mem_nil _

/-- The lines of a text are the lines that its steps write. -/
theorem pageLines_layOut {steps : List LayoutStep}
    (unbroken : ∀ step ∈ steps, '\n' ∉ step.text.toList) :
    pageLines (layOut steps).toList = linesAt 0 steps := by
  rw [layOut_toList, pageLines_pageText (linesAt_unbroken 0 unbroken)]

/-! Lines and their indentation. -/

def content (line : List Char) : List Char := line.dropWhile (· == ' ')

def indentation (line : List Char) : Nat := (line.takeWhile (· == ' ')).length

/-- A text that is told from its indentation and from the lines around it. -/
structure Solid (text : String) : Prop where
  unbroken : '\n' ∉ text.toList
  visible : text.toList.head?.any (· != ' ') = true

theorem Solid.exists_cons {text : String} (solid : Solid text) :
    ∃ first rest, text.toList = first :: rest ∧ ¬(first == ' ') = true := by
  obtain ⟨first, start, apart⟩ := (Option.any_eq_true _ _).1 solid.visible
  obtain ⟨rest, whole⟩ := List.head?_eq_some_iff.1 start
  exact ⟨first, rest, whole, by simpa using apart⟩

theorem Solid.toList_ne_nil {text : String} (solid : Solid text) : text.toList ≠ [] := by
  obtain ⟨first, rest, whole, _⟩ := solid.exists_cons
  rw [whole]
  exact List.cons_ne_nil first rest

theorem Solid.append {first second : String} (left : Solid first)
    (unbroken : '\n' ∉ second.toList) : Solid (first ++ second) where
  unbroken := by
    rw [String.toList_append, List.mem_append, not_or]
    exact ⟨left.unbroken, unbroken⟩
  visible := by
    obtain ⟨c, start, apart⟩ := (Option.any_eq_true _ _).1 left.visible
    rw [String.toList_append, List.head?_append, start]
    exact apart

theorem atLevel_zero (text : String) : atLevel 0 text = text.toList := by
  unfold atLevel
  split
  next empty => rw [String.isEmpty_iff.1 empty]; rfl
  next => rw [indented, String.toList_append]; rfl

theorem Solid.atLevel_eq {text : String} (solid : Solid text) (level : Nat) :
    atLevel level text = List.replicate (4 * level) ' ' ++ text.toList := by
  have visible : ¬text.isEmpty := by
    rw [String.isEmpty_iff]
    intro nothing
    exact solid.toList_ne_nil (congrArg String.toList nothing)
  rw [atLevel, if_neg visible, indented, String.toList_append, Page.indentation,
    String.toList_ofList]

theorem Solid.takeWhile_eq_nil {text : String} (solid : Solid text) :
    text.toList.takeWhile (· == ' ') = [] ∧ text.toList.dropWhile (· == ' ') = text.toList := by
  obtain ⟨first, rest, whole, apart⟩ := solid.exists_cons
  simp only [whole, List.takeWhile_cons, List.dropWhile_cons, if_neg apart, and_self]

theorem blank_of_mem_replicate {count : Nat} :
    ∀ c ∈ List.replicate count ' ', (c == ' ') = true := by
  intro c member
  rw [List.eq_of_mem_replicate member, beq_self_eq_true]

theorem Solid.content_atLevel {text : String} (solid : Solid text) (level : Nat) :
    content (atLevel level text) = text.toList := by
  rw [solid.atLevel_eq, content, List.dropWhile_append_of_pos blank_of_mem_replicate,
    solid.takeWhile_eq_nil.2]

theorem Solid.indentation_atLevel {text : String} (solid : Solid text) (level : Nat) :
    indentation (atLevel level text) = 4 * level := by
  rw [solid.atLevel_eq, indentation, List.takeWhile_append_of_pos blank_of_mem_replicate,
    solid.takeWhile_eq_nil.1, List.append_nil, List.length_replicate]

theorem forall₂_map_same {α β γ : Type} {related : β → γ → Prop} {f : α → β} {g : α → γ}
    {elements : List α} (each : ∀ element ∈ elements, related (f element) (g element)) :
    List.Forall₂ related (elements.map f) (elements.map g) := by
  apply List.forall₂_map_left_iff.2
  apply List.forall₂_map_right_iff.2
  exact List.forall₂_same.2 each

theorem mapM_eq_some {α β : Type} {read : α → Option β} {lines : List α} {contents : List β}
    (each : List.Forall₂ (fun line content => read line = some content) lines contents) :
    lines.mapM read = some contents := by
  induction each with
  | nil => rfl
  | cons first _ ih =>
    rw [List.mapM_cons, first, ih]
    rfl

end Layout

end TokenTables
