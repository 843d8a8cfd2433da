import Mathlib.Data.List.DropRight
import Mathlib.Data.List.Forall2
import Mathlib.Data.List.TakeWhile
import TokenTables.Spec.Field

/-!
Writing the fields of a line. A plain field is written as it is. Inside quotes a quote and a
backslash are escaped, a tab and a line feed may be, and every other character stands for itself.
Fields written so and joined by the separator are split into the same fields again, and splitting
any line gives only fields that can be written.
-/

namespace TokenTables

namespace Field

@[mk_iff]
structure Plain (separator : Char) (text : List Char) : Prop where
  nonempty : text ≠ []
  unquoted : text.head? ≠ some '"'
  startsVisible : ∀ c ∈ text.head?, isBlank c = false
  endsVisible : ∀ c ∈ text.getLast?, isBlank c = false
  apart : separator ∉ text

instance (separator : Char) (text : List Char) : Decidable (Plain separator text) :=
  decidable_of_iff
    (text ≠ [] ∧ text.head? ≠ some '"' ∧ (text.head?.all fun c => !isBlank c) = true ∧
      (text.getLast?.all fun c => !isBlank c) = true ∧ separator ∉ text)
    (by simp only [plain_iff, Option.all_eq_true, Bool.not_eq_true', Option.mem_def])

/-- A field that a line can hold. Between quotes there may be any text, unless a quote is what
separates the fields. -/
def WellFormed (separator : Char) (field : Field) : Prop :=
  if field.quoted then separator ≠ '"' else Plain separator field.text.toList

def quotedForms : Char → List (List Char)
  | '"' => [['\\', '"']]
  | '\\' => [['\\', '\\']]
  | '\t' => [['\t'], ['\\', 't']]
  | '\n' => [['\n'], ['\\', 'n']]
  | c => [[c]]

/-- The ways to write a field. Each character between quotes is written in one of its forms. -/
inductive Written : Field → List Char → Prop
  | plain (text : String) : Written ⟨text, false⟩ text.toList
  | quoted {text : String} {forms : List (List Char)}
      (each : List.Forall₂ (fun c form => form ∈ quotedForms c) text.toList forms) :
      Written ⟨text, true⟩ ('"' :: forms.flatten ++ ['"'])

theorem quotedForms_ne_nil (c : Char) : quotedForms c ≠ [] := by
  unfold quotedForms
  split <;> exact List.cons_ne_nil _ _

theorem exists_written (field : Field) : ∃ written, Written field written := by
  cases field with
  | mk text quoted =>
    cases quoted with
    | false => exact ⟨_, .plain text⟩
    | true =>
      have forms : List.Forall₂ (fun c form => form ∈ quotedForms c) text.toList
          (text.toList.map fun c => (quotedForms c).head (quotedForms_ne_nil c)) := by
        apply List.forall₂_map_right_iff.2
        exact List.forall₂_same.2 fun c _ => List.head_mem _
      exact ⟨_, .quoted forms⟩

/-! Reading what is between quotes. -/

theorem readQuoted_plain {c : Char} (notQuote : c ≠ '"') (notBackslash : c ≠ '\\')
    (rest : List Char) :
    readQuoted (c :: rest) = (readQuoted rest).map fun (text, after) => (c :: text, after) := by
  rw [readQuoted]
  · exact notQuote
  · exact fun same => absurd same notBackslash
  · exact fun _ _ same => absurd same notBackslash

theorem readQuoted_form {c : Char} {form : List Char} (written : form ∈ quotedForms c)
    (rest : List Char) :
    readQuoted (form ++ rest) =
      (readQuoted rest).map fun (text, after) => (c :: text, after) := by
  unfold quotedForms at written
  split at written
  next =>
    rw [List.mem_singleton.1 written]
    rfl
  next =>
    rw [List.mem_singleton.1 written]
    rfl
  next =>
    rcases List.mem_pair.1 written with rfl | rfl
    · rfl
    · rfl
  next =>
    rcases List.mem_pair.1 written with rfl | rfl
    · rfl
    · rfl
  next notQuote notBackslash _ _ =>
    rw [List.mem_singleton.1 written]
    exact readQuoted_plain notQuote notBackslash rest

theorem readQuoted_forms {text : List Char} {forms : List (List Char)}
    (each : List.Forall₂ (fun c form => form ∈ quotedForms c) text forms) (after : List Char) :
    readQuoted (forms.flatten ++ '"' :: after) = some (text, after) := by
  induction each with
  | nil => rfl
  | cons written _ ih =>
    rw [List.flatten_cons, List.append_assoc, readQuoted_form written, ih]
    rfl

/-! The steps of splitting, told apart by what is left when separators and white space are
dropped. -/

def between (separator c : Char) : Bool := c == separator || isBlank c

section Steps

variable {separator first : Char} {line inside text after rest : List Char}

theorem split_nothing (nothing : line.dropWhile (between separator) = []) :
    split separator line = .ok [] := by
  rw [split]
  split
  next => rfl
  next start => exact absurd (start.symm.trans nothing) (List.cons_ne_nil _ _)
  next _ start => exact absurd (start.symm.trans nothing) (List.cons_ne_nil _ _)

theorem split_unclosed (quote : line.dropWhile (between separator) = '"' :: inside)
    (unclosed : readQuoted inside = none) : split separator line = .error ⟨[]⟩ := by
  rw [split]
  split
  next start => exact absurd (quote.symm.trans start) (List.cons_ne_nil _ _)
  next start =>
    cases start.symm.trans quote
    split
    next => rfl
    next closed => exact absurd (closed.symm.trans unclosed) (by simp)
  next other start => exact absurd (List.cons.inj (quote.symm.trans start)).1.symm other

theorem split_quoted (quote : line.dropWhile (between separator) = '"' :: inside)
    (closed : readQuoted inside = some (text, after)) :
    split separator line =
      before ⟨String.ofList text, true⟩ (split separator (after.dropWhile (· != separator))) := by
  conv_lhs => rw [split]
  split
  next start => exact absurd (quote.symm.trans start) (List.cons_ne_nil _ _)
  next start =>
    cases start.symm.trans quote
    split
    next unclosed => exact absurd (closed.symm.trans unclosed) (by simp)
    next found =>
      cases found.symm.trans closed
      rfl
  next other start => exact absurd (List.cons.inj (quote.symm.trans start)).1.symm other

theorem split_plain (start : line.dropWhile (between separator) = first :: rest)
    (plain : first ≠ '"') :
    split separator line =
      before ⟨String.ofList (trimBoth isBlank (first :: rest.takeWhile (· != separator))), false⟩
        (split separator (rest.dropWhile (· != separator))) := by
  conv_lhs => rw [split]
  split
  next nothing => exact absurd (start.symm.trans nothing) (List.cons_ne_nil _ _)
  next quote => exact absurd (List.cons.inj (start.symm.trans quote)).1 plain
  next _ found =>
    cases found.symm.trans start
    rfl

end Steps

/-! Splitting what was written. -/

theorem Plain.trimmed {separator : Char} {text : List Char} (plain : Plain separator text) :
    trimBoth isBlank text = text := by
  have start : text.dropWhile isBlank = text := by
    cases text with
    | nil => rfl
    | cons first rest =>
      have visible : isBlank first = false := plain.startsVisible first rfl
      exact List.dropWhile_cons_of_neg (by simp [visible])
  have stop : text.rdropWhile isBlank = text := by
    apply List.rdropWhile_eq_self_iff.2
    intro nonempty
    rw [plain.endsVisible _ (List.getLast?_eq_some_getLast nonempty)]
    decide
  rw [trimBoth, start]
  exact stop

/-- Up to the next separator nothing is lost of what follows a field. -/
theorem dropWhile_tail {separator : Char} {tail : List Char}
    (next : ∀ c ∈ tail.head?, c = separator) : tail.dropWhile (· != separator) = tail := by
  cases tail with
  | nil => rfl
  | cons c rest => exact List.dropWhile_cons_of_neg (by simp [next c rfl])

theorem takeWhile_tail {separator : Char} {tail : List Char}
    (next : ∀ c ∈ tail.head?, c = separator) : tail.takeWhile (· != separator) = [] := by
  cases tail with
  | nil => rfl
  | cons c rest => exact List.takeWhile_cons_of_neg (by simp [next c rfl])

theorem split_written {separator : Char} {field : Field} {written tail : List Char}
    (wellFormed : field.WellFormed separator) (form : Written field written)
    (next : ∀ c ∈ tail.head?, c = separator) :
    split separator (written ++ tail) = before field (split separator tail) := by
  cases form with
  | plain text =>
    have plain : Plain separator text.toList := wellFormed
    have kept := plain.trimmed
    rw [← String.ofList_toList (s := text)]
    generalize text.toList = letters at plain kept
    cases letters with
    | nil => exact absurd rfl plain.nonempty
    | cons first rest =>
      have apart : separator ≠ first ∧ separator ∉ rest := by simpa using plain.apart
      have visible : isBlank first = false := plain.startsVisible first rfl
      have start : ((first :: rest) ++ tail).dropWhile (between separator) =
          first :: (rest ++ tail) := by
        apply List.dropWhile_cons_of_neg
        simp [between, visible, Ne.symm apart.1]
      have others : ∀ c ∈ rest, (c != separator) = true := by
        intro c member
        exact bne_iff_ne.2 fun same => apart.2 (same ▸ member)
      rw [String.toList_ofList, split_plain start fun quote => plain.unquoted (congrArg some quote),
        List.takeWhile_append_of_pos others, List.dropWhile_append_of_pos others,
        takeWhile_tail next, dropWhile_tail next, List.append_nil, kept]
  | @quoted text forms each =>
    have notQuote : separator ≠ '"' := wellFormed
    have start : ('"' :: forms.flatten ++ ['"'] ++ tail).dropWhile (between separator) =
        '"' :: (forms.flatten ++ '"' :: tail) := by
      rw [List.append_assoc, List.singleton_append, List.cons_append]
      apply List.dropWhile_cons_of_neg
      simp [between, Ne.symm notQuote]
      decide
    rw [split_quoted start (readQuoted_forms each tail), dropWhile_tail next,
      String.ofList_toList]

theorem split_eq_of_start {separator : Char} {line other : List Char}
    (same : line.dropWhile (between separator) = other.dropWhile (between separator)) :
    split separator line = split separator other := by
  cases start : other.dropWhile (between separator) with
  | nil => rw [split_nothing start, split_nothing (same.trans start)]
  | cons first inside =>
    by_cases quote : first = '"'
    · subst quote
      cases closed : readQuoted inside with
      | none => rw [split_unclosed start closed, split_unclosed (same.trans start) closed]
      | some found => rw [split_quoted start closed, split_quoted (same.trans start) closed]
    · rw [split_plain start quote, split_plain (same.trans start) quote]

theorem split_separator (separator : Char) (rest : List Char) :
    split separator (separator :: rest) = split separator rest := by
  apply split_eq_of_start
  apply List.dropWhile_cons_of_pos
  simp [between]

theorem split_intercalate {separator : Char} {fields : List Field} {pieces : List (List Char)}
    (wellFormed : ∀ field ∈ fields, field.WellFormed separator)
    (written : List.Forall₂ Written fields pieces) :
    split separator ([separator].intercalate pieces) = .ok fields := by
  induction written with
  | nil => exact split_nothing rfl
  | @cons field piece fields pieces form others ih =>
    have first := List.forall_mem_cons.1 wellFormed
    cases others with
    | nil =>
      have whole : [separator].intercalate [piece] = piece ++ [] := by simp
      rw [whole, split_written first.1 form (by simp), split_nothing rfl]
      rfl
    | cons otherForm others =>
      rw [List.intercalate_cons_cons, List.append_assoc, List.singleton_append,
        split_written first.1 form (by simp), split_separator, ih first.2]
      rfl

/-! What splitting gives. -/

def fieldsRead : Except Unterminated (List Field) → List Field
  | .ok fields => fields
  | .error unterminated => unterminated.fields

theorem fieldsRead_before (field : Field) (later : Except Unterminated (List Field)) :
    fieldsRead (before field later) = field :: fieldsRead later := by
  cases later <;> rfl

theorem plain_trimBoth {separator first : Char} {rest : List Char}
    (start : between separator first = false) (unquoted : first ≠ '"') :
    Plain separator (trimBoth isBlank (first :: rest.takeWhile (· != separator))) := by
  have starts : first ≠ separator ∧ isBlank first = false := by
    simpa [between] using start
  generalize line : first :: rest.takeWhile (· != separator) = letters
  have apart : separator ∉ letters := by
    rw [← line, List.mem_cons]
    intro member
    rcases member with same | later
    · exact starts.1 same.symm
    · have different := List.mem_takeWhile_imp later
      exact bne_iff_ne.1 different rfl
  have whole : trimBoth isBlank letters = letters.rdropWhile isBlank := by
    have kept : letters.dropWhile isBlank = letters := by
      rw [← line]
      exact List.dropWhile_cons_of_neg (by simp [starts.2])
    rw [trimBoth, kept]
    rfl
  have nonempty : letters.rdropWhile isBlank ≠ [] := by
    intro nothing
    have blank := List.rdropWhile_eq_nil_iff.1 nothing first (by simp [← line])
    exact absurd blank (by simp [starts.2])
  have head : (letters.rdropWhile isBlank).head? = some first := by
    have longer : (letters.rdropWhile isBlank).head? = letters.head? := by
      conv_rhs => rw [← (List.rdropWhile_prefix isBlank letters).choose_spec]
      exact (List.head?_append_of_ne_nil _ nonempty).symm
    rw [longer, ← line]
    rfl
  rw [whole]
  exact {
    nonempty := nonempty
    unquoted := by
      rw [head]
      exact fun same => unquoted (Option.some.inj same)
    startsVisible := by
      rw [head]
      intro c same
      cases same
      exact starts.2
    endsVisible := by
      intro c last
      rw [List.getLast?_eq_some_getLast nonempty] at last
      have visible := List.rdropWhile_last_not isBlank letters nonempty
      cases last
      simpa using visible
    apart := fun member => apart ((List.rdropWhile_prefix ..).subset member) }

theorem between_first {separator first : Char} {line rest : List Char}
    (start : line.dropWhile (between separator) = first :: rest) :
    between separator first = false := by
  have stopped := List.head?_dropWhile_not (between separator) line
  rwa [start] at stopped

/-- One case for each way to split: every field is put before those of a shorter line. -/
theorem wellFormed_fieldsRead (separator : Char) (line : List Char) :
    ∀ field ∈ fieldsRead (split separator line), field.WellFormed separator := by
  fun_induction split separator line with
  | case1 => simp [fieldsRead]
  | case2 => simp [fieldsRead]
  | case3 line inside start text after _ ih =>
    rw [fieldsRead_before, List.forall_mem_cons]
    refine ⟨?_, ih⟩
    intro same
    have visible := between_first start
    simp [between, same] at visible
  | case4 line first rest unquoted start ih =>
    rw [fieldsRead_before, List.forall_mem_cons]
    refine ⟨?_, ih⟩
    show Plain separator (String.ofList _).toList
    rw [String.toList_ofList]
    exact plain_trimBoth (between_first start) unquoted

/-- Splitting undoes writing, however the characters between quotes are written. What splitting
gives, also before a quote that is not closed, can be written; so the fields of a line are read
again from every way to write them. -/
theorem split_of_written (separator : Char) :
    (∀ field, ∃ written, Written field written) ∧
      (∀ fields pieces, (∀ field ∈ fields, field.WellFormed separator) →
        List.Forall₂ Written fields pieces →
          split separator ([separator].intercalate pieces) = .ok fields) ∧
      (∀ line, ∀ field ∈ fieldsRead (split separator line), field.WellFormed separator) ∧
      ∀ line fields pieces, split separator line = .ok fields →
        List.Forall₂ Written fields pieces →
          split separator ([separator].intercalate pieces) = .ok fields := by
  refine ⟨exists_written, fun fields pieces => split_intercalate,
    wellFormed_fieldsRead separator, ?_⟩
  intro line fields pieces found written
  apply split_intercalate _ written
  have wellFormed := wellFormed_fieldsRead separator line
  rw [found] at wellFormed
  exact wellFormed

def sampleFields : List Field := [⟨"a b", false⟩, ⟨"\t,\"\\\t", true⟩]

def sampleForms : List (List Char) := [['\\', 't'], [','], ['\\', '"'], ['\\', '\\'], ['\t']]

def samplePieces : List (List Char) := ["a b".toList, '"' :: sampleForms.flatten ++ ['"']]

theorem split_samplePieces :
    (∀ field ∈ sampleFields, field.WellFormed ',') ∧
      List.Forall₂ Written sampleFields samplePieces ∧
      split ',' ([','].intercalate samplePieces) = .ok sampleFields := by
  have wellFormed : ∀ field ∈ sampleFields, field.WellFormed ',' := by
    have plain : Plain ',' "a b".toList := by decide
    have quoted : ',' ≠ '"' := by decide
    simp only [sampleFields, List.forall_mem_cons]
    exact ⟨plain, quoted, by simp⟩
  have written : List.Forall₂ Written sampleFields samplePieces := by
    have each : List.Forall₂ (fun c form => form ∈ quotedForms c) "\t,\"\\\t".toList
        sampleForms := by
      simp [sampleForms, quotedForms]
    exact .cons (.plain "a b") (.cons (.quoted each) .nil)
  exact ⟨wellFormed, written, (split_of_written ',').2.1 _ _ wellFormed written⟩

end Field

end TokenTables
