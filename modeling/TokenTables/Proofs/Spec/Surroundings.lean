import Mathlib.Data.List.TakeWhile
import TokenTables.Proofs.Spec.FieldWriting
import TokenTables.Proofs.Spec.LineContent

/-!
What surrounds a line does not matter. White space before a line and after it changes nothing about
what the line says, wherever the line ends: in a field, behind a closing quote, in a quote that is
not closed or right after a backslash. And a source says the same whether its lines end with a line
feed alone or with a carriage return before it.
-/

namespace TokenTables

def Blank (text : List Char) : Prop := ∀ c ∈ text, isBlank c = true

theorem Blank.notMem {text : List Char} (blank : Blank text) {c : Char}
    (visible : isBlank c = false) : c ∉ text := by
  intro member
  rw [blank c member] at visible
  contradiction

theorem Blank.dropWhile {text : List Char} (blank : Blank text) (keep : Char → Bool) :
    Blank (text.dropWhile keep) := fun c member =>
  blank c ((List.dropWhile_sublist keep).subset member)

theorem Blank.takeWhile {text : List Char} (blank : Blank text) (keep : Char → Bool) :
    Blank (text.takeWhile keep) := fun c member =>
  blank c ((List.takeWhile_sublist keep).subset member)

theorem trimBoth_append {drop : Char → Bool} (text : List Char) {trail : List Char}
    (dropped : ∀ c ∈ trail, drop c = true) :
    trimBoth drop (text ++ trail) = trimBoth drop text := by
  unfold trimBoth
  rw [List.dropWhile_append]
  split
  next nothing =>
    rw [List.isEmpty_iff.1 nothing, List.dropWhile_eq_nil_iff.2 dropped]
  next =>
    rw [List.reverse_append, List.dropWhile_append_of_pos]
    simpa using dropped

namespace Field

variable {trail : List Char}

theorem readQuoted_blank (blank : Blank trail) : readQuoted trail = none := by
  induction trail with
  | nil => rfl
  | cons c rest ih =>
    have notQuote : c ≠ '"' := fun quote => blank.notMem (c := '"') (by decide) (by simp [quote])
    have notBackslash : c ≠ '\\' := fun backslash =>
      blank.notMem (c := '\\') (by decide) (by simp [backslash])
    rw [readQuoted_plain notQuote notBackslash, ih (List.forall_mem_cons.1 blank).2]
    rfl

/-- White space neither closes a quote, also where it follows a backslash, nor gets into a quote
that is closed. -/
theorem readQuoted_append_blank (inside : List Char) (blank : Blank trail) :
    readQuoted (inside ++ trail) =
      (readQuoted inside).map fun (text, after) => (text, after ++ trail) := by
  fun_induction readQuoted inside with
  | case1 => exact readQuoted_blank blank
  | case2 => rfl
  | case3 =>
    cases trail with
    | nil => rfl
    | cons escaped rest =>
      have later := readQuoted_blank (List.forall_mem_cons.1 blank).2
      rw [List.singleton_append, readQuoted, later]
      rfl
  | case4 escaped rest ih =>
    rw [List.cons_append, List.cons_append, readQuoted, ih, Option.map_map, Option.map_map]
    rfl
  | case5 c rest notQuote notLast notEscape ih =>
    have notBackslash : c ≠ '\\' := by
      intro backslash
      cases rest with
      | nil => exact notLast backslash rfl
      | cons escaped rest => exact notEscape escaped rest backslash rfl
    rw [List.cons_append, readQuoted_plain notQuote notBackslash, ih, Option.map_map,
      Option.map_map]
    rfl

/-! Splitting with white space around the line. -/

theorem split_blank (separator : Char) (blank : Blank trail) : split separator trail = .ok [] := by
  apply split_nothing
  apply List.dropWhile_eq_nil_iff.2
  intro c member
  simp [between, blank c member]

theorem dropWhile_append_of_start {drop : Char → Bool} {line rest : List Char} {first : Char}
    (start : line.dropWhile drop = first :: rest) (trail : List Char) :
    (line ++ trail).dropWhile drop = first :: (rest ++ trail) := by
  rw [List.dropWhile_append, start]
  rfl

/-- The white space may hold the next separator, if the text before it has none. -/
theorem split_skipped (separator : Char) (text : List Char) (blank : Blank trail) :
    split separator ((text ++ trail).dropWhile (· != separator)) =
      split separator (text.dropWhile (· != separator) ++ trail) := by
  rw [List.dropWhile_append]
  split
  next nothing =>
    rw [List.isEmpty_iff.1 nothing, List.nil_append, split_blank separator (blank.dropWhile _),
      split_blank separator blank]
  next => rfl

theorem trimBoth_takeWhile_append (keep : Char → Bool) (first : Char) (rest : List Char)
    (blank : Blank trail) :
    trimBoth isBlank (first :: (rest ++ trail).takeWhile keep) =
      trimBoth isBlank (first :: rest.takeWhile keep) := by
  rw [List.takeWhile_append]
  split
  next whole =>
    rw [(List.takeWhile_prefix keep).eq_of_length whole, ← List.cons_append]
    exact trimBoth_append _ (blank.takeWhile keep)
  next => rfl

/-- One case for each way to split: what is left of the line after a field has the same white space
behind it. -/
theorem split_append_blank (separator : Char) (line : List Char) (blank : Blank trail) :
    split separator (line ++ trail) = split separator line := by
  fun_induction split separator line with
  | case1 line nothing =>
    apply split_nothing
    have dropped := List.dropWhile_eq_nil_iff.1 nothing
    apply List.dropWhile_eq_nil_iff.2
    intro c member
    rcases List.mem_append.1 member with inside | behind
    · exact dropped c inside
    · simp [between, blank c behind]
  | case2 line inside start unclosed =>
    apply split_unclosed (dropWhile_append_of_start start trail)
    rw [readQuoted_append_blank inside blank, unclosed]
    rfl
  | case3 line inside start text after closed ih =>
    have found : readQuoted (inside ++ trail) = some (text, after ++ trail) := by
      rw [readQuoted_append_blank inside blank, closed]
      rfl
    rw [split_quoted (dropWhile_append_of_start start trail) found,
      split_skipped separator after blank, ih]
  | case4 line first rest unquoted start ih =>
    rw [split_plain (dropWhile_append_of_start start trail) unquoted,
      trimBoth_takeWhile_append _ first rest blank, split_skipped separator rest blank, ih]

theorem split_surrounded (separator : Char) {lead : List Char} (line : List Char)
    (leadBlank : Blank lead) (trailBlank : Blank trail) :
    split separator (lead ++ line ++ trail) = split separator line := by
  rw [split_append_blank separator _ trailBlank]
  apply split_eq_of_start
  apply List.dropWhile_append_of_pos
  intro c member
  simp [between, leadBlank c member]

end Field

/-! Lines. -/

section Line

variable {format : SpecFormat} {lead trail : String}

theorem isPrefix_append_blank_iff {marker content trail : List Char}
    (visible : ∀ c ∈ marker, isBlank c = false) (blank : Blank trail) :
    marker <+: content ++ trail ↔ marker <+: content := by
  constructor
  · intro starts
    rcases List.prefix_or_prefix_of_prefix starts (List.prefix_append content trail) with
      inside | ⟨more, whole⟩
    · exact inside
    · rw [← whole, List.prefix_append_right_inj] at starts
      have nothing : more = [] := by
        apply List.eq_nil_iff_forall_not_mem.2
        intro c member
        exact blank.notMem (visible c (by simp [← whole, member])) (starts.subset member)
      rw [nothing, List.append_nil] at whole
      exact whole ▸ List.prefix_rfl
  · exact fun starts => starts.trans (List.prefix_append content trail)

theorem passedOver_surrounded_iff (visible : ∀ c ∈ format.commentMarker.toList, isBlank c = false)
    (text : String) (leadBlank : Blank lead.toList) (trailBlank : Blank trail.toList) :
    PassedOver format (lead ++ text ++ trail) ↔ PassedOver format text := by
  have start : (lead ++ text ++ trail).toList.dropWhile isBlank =
      (text.toList ++ trail.toList).dropWhile isBlank := by
    rw [String.toList_append, String.toList_append, List.append_assoc]
    exact List.dropWhile_append_of_pos leadBlank
  rw [PassedOver, PassedOver, start, List.dropWhile_append]
  split
  next nothing =>
    rw [List.isEmpty_iff.1 nothing, List.dropWhile_eq_nil_iff.2 trailBlank]
  next something =>
    have content : text.toList.dropWhile isBlank ≠ [] := fun nothing =>
      something (List.isEmpty_iff.2 nothing)
    simp [content, isPrefix_append_blank_iff visible trailBlank]

theorem ofLine_surrounded (visible : ∀ c ∈ format.commentMarker.toList, isBlank c = false)
    (text : String) (leadBlank : Blank lead.toList) (trailBlank : Blank trail.toList) :
    LineContent.ofLine format (lead ++ text ++ trail) = LineContent.ofLine format text := by
  have passed := passedOver_surrounded_iff visible text leadBlank trailBlank
  by_cases content : PassedOver format text
  · rw [LineContent.ofLine_passedOver content, LineContent.ofLine_passedOver (passed.2 content)]
  · have split := Field.split_surrounded format.separator.character text.toList leadBlank trailBlank
    rw [← String.toList_append, ← String.toList_append] at split
    simp only [LineContent.ofLine, LineContent.ofLine_content content,
      LineContent.ofLine_content (mt passed.1 content), split]

end Line

/-! Line ends. -/

/-- The source with a carriage return before every line feed. -/
def withReturns (source : String) : String :=
  String.ofList <| source.toList.flatMap fun c => if c = '\n' then ['\r', '\n'] else [c]

theorem linesFrom_withReturns {source current : List Char} (noReturn : '\r' ∉ source)
    (notBefore : '\r' ∉ current) :
    linesFrom current (source.flatMap fun c => if c = '\n' then ['\r', '\n'] else [c]) =
      linesFrom current source := by
  induction source generalizing current with
  | nil => rfl
  | cons c rest ih =>
    have later : '\r' ∉ rest := fun member => noReturn (List.mem_cons_of_mem c member)
    rw [List.flatMap_cons]
    by_cases lineFeed : c = '\n'
    · subst lineFeed
      have line : linesFrom current ('\n' :: rest) = current.reverse :: linesFrom [] rest := by
        rw [linesFrom]
        rintro before rfl
        exact notBefore List.mem_cons_self
      rw [line, ← ih later List.not_mem_nil]
      rfl
    · have here : '\r' ≠ c := fun same => noReturn (same ▸ List.mem_cons_self)
      have before : '\r' ∉ c :: current := List.not_mem_cons_of_ne_of_not_mem here notBefore
      rw [if_neg lineFeed, List.singleton_append, linesFrom, linesFrom, ih later before]
      · exact lineFeed
      · exact lineFeed

theorem textLines_withReturns {source : String} (noReturn : '\r' ∉ source.toList) :
    textLines (withReturns source) = textLines source := by
  rw [textLines, withReturns, String.toList_ofList,
    linesFrom_withReturns noReturn List.not_mem_nil, textLines]

/-- White space around a line changes nothing about what reading the line does, in any state of the
reader, and carriage returns before the line feeds change nothing about what a source says. -/
theorem surroundings_ignored :
    (∀ format : SpecFormat, (∀ c ∈ format.commentMarker.toList, isBlank c = false) →
      ∀ (file : Option String) (reading : Reading) (line : Nat) (text lead trail : String),
        Blank lead.toList → Blank trail.toList →
          reading.readLine format file line (lead ++ text ++ trail) =
            reading.readLine format file line text) ∧
      ∀ (format : SpecFormat) (file : Option String) (source : String), '\r' ∉ source.toList →
        readSpec format file (withReturns source) = readSpec format file source := by
  constructor
  · intro format visible file reading line text lead trail leadBlank trailBlank
    rw [Reading.readLine, Reading.readLine, ofLine_surrounded visible text leadBlank trailBlank]
  · intro format file source noReturn
    rw [readSpec, readSpec, Reading.readSource, Reading.readSource, textLines_withReturns noReturn]

theorem unclosed_surroundings_ignored :
    (∀ c ∈ ({} : SpecFormat).commentMarker.toList, isBlank c = false) ∧
      Blank "\u3000\t".toList ∧ Blank "\u00a0 ".toList ∧
      Reading.start.readLine {} none 7 ("\u3000\t" ++ "A\t\"x\\" ++ "\u00a0 ") =
        Reading.start.readLine {} none 7 "A\t\"x\\" ∧
      '\r' ∉ "A\t\"x\\\nB".toList ∧
      readSpec {} none (withReturns "A\t\"x\\\nB") = readSpec {} none "A\t\"x\\\nB" := by
  have visible : ∀ c ∈ ({} : SpecFormat).commentMarker.toList, isBlank c = false := by
    simp [isBlank, blankRanges]
  have lead : Blank "\u3000\t".toList := List.all_eq_true.1 (by decide)
  have trail : Blank "\u00a0 ".toList := List.all_eq_true.1 (by decide)
  have noReturn : '\r' ∉ "A\t\"x\\\nB".toList := by decide
  exact ⟨visible, lead, trail, surroundings_ignored.1 {} visible none .start 7 _ _ _ lead trail,
    noReturn, surroundings_ignored.2 {} none _ noReturn⟩

end TokenTables
