import Mathlib.Data.List.Basic
import Mathlib.Data.List.Infix
import TokenTables.Diagnostic.Message

/-!
What a filled template says. Arguments are put in one after another, so a placeholder that an
argument brings along is taken for one of the template if its number is still to come. Where the
template keeps its placeholders apart, the outcome is that of putting all arguments in at once, after
the later ones have been put into the earlier ones. So a template is filled with the arguments as
they are if none of them has a placeholder of a later one.
-/

namespace TokenTables

/-! All placeholders at once. -/

/-- Replaces each placeholder of the text by its argument and looks at no argument again. The first
`skip` characters belong to a placeholder that is already replaced. -/
def fillAtOnceFrom (arguments : List (List Char)) : Nat → List Char → List Char
  | _, [] => []
  | skip + 1, _ :: rest => fillAtOnceFrom arguments skip rest
  | 0, c :: rest =>
    match arguments.zipIdx.find? fun slot => (placeholder slot.2).isPrefixOf (c :: rest) with
    | some (argument, position) =>
      argument ++ fillAtOnceFrom arguments ((placeholder position).length - 1) rest
    | none => c :: fillAtOnceFrom arguments 0 rest

def fillAtOnce (template : String) (arguments : List String) : String :=
  String.ofList (fillAtOnceFrom (arguments.map String.toList) 0 template.toList)

/-! One after another. -/

def fillFrom (position : Nat) (arguments : List (List Char)) (text : List Char) : List Char :=
  (arguments.zipIdx position).foldl
    (fun text (argument, position) => replaceAll (placeholder position) argument text) text

def seenFrom (position : Nat) : List (List Char) → List (List Char)
  | [] => []
  | argument :: later => fillFrom (position + 1) later argument :: seenFrom (position + 1) later

def seenArguments (arguments : List String) : List String :=
  (seenFrom 0 (arguments.map String.toList)).map String.ofList

/-- No argument has a placeholder of a later one. -/
def Undisturbed (arguments : List String) : Prop :=
  ∀ (first second : Nat) (argument : String), arguments[first]? = some argument →
    first < second → second < arguments.length → ¬placeholder second <:+: argument.toList

theorem fill_eq (template : String) (arguments : List String) :
    fill template arguments =
      String.ofList (fillFrom 0 (arguments.map String.toList) template.toList) := by
  rw [fill, fillFrom, List.zipIdx_map, List.foldl_map]
  rfl

/-! Placeholders. -/

def isPlaceholderCharacter (c : Char) : Bool := c = '\x7b' || c = '\x7d' || c.isDigit

theorem isDigit_of_mem_repr {position : Nat} {c : Char} (member : c ∈ position.repr.toList) :
    c.isDigit = true := by
  rw [Nat.repr_eq_ofList_toDigits, String.toList_ofList] at member
  exact Nat.isDigit_of_mem_toDigits (by decide) (by decide) member

theorem placeholder_eq (position : Nat) : ∃ rest, placeholder position = '\x7b' :: rest ∧
    '\x7b' ∉ rest ∧ ∀ c ∈ rest, isPlaceholderCharacter c = true := by
  refine ⟨position.repr.toList ++ ['\x7d'], rfl, ?_, ?_⟩
  · intro member
    rcases List.mem_append.1 member with digit | closing
    · exact absurd (isDigit_of_mem_repr digit) (by decide)
    · simp at closing
  · intro c member
    rcases List.mem_append.1 member with digit | closing
    · simp [isPlaceholderCharacter, isDigit_of_mem_repr digit]
    · rw [List.mem_singleton.1 closing]
      rfl

theorem isPlaceholderCharacter_of_mem {position : Nat} {c : Char}
    (member : c ∈ placeholder position) : isPlaceholderCharacter c = true := by
  obtain ⟨rest, shape, _, others⟩ := placeholder_eq position
  rw [shape] at member
  rcases List.mem_cons.1 member with opening | inside
  · rw [opening]
    rfl
  · exact others c inside

/-- Numbers are closed by a brace, so no placeholder is the beginning of another one. -/
theorem isPrefixOf_placeholder_iff (position other : Nat) (after : List Char) :
    (placeholder position).isPrefixOf (placeholder other ++ after) = true ↔ position = other := by
  have digits : ∀ (number : Nat) (rest : List Char),
      (number.repr.toList ++ '\x7d' :: rest).takeWhile Char.isDigit = number.repr.toList := by
    intro number rest
    rw [List.takeWhile_append_of_pos fun _ => isDigit_of_mem_repr]
    exact List.append_nil _
  rw [List.isPrefixOf_iff_prefix]
  constructor
  · intro begins
    obtain ⟨rest, same⟩ := begins
    simp only [placeholder, List.cons_append, List.append_assoc, List.nil_append,
      List.cons.injEq, true_and] at same
    have numbers := congrArg (List.takeWhile Char.isDigit) same
    rw [digits, digits] at numbers
    simp only [Nat.repr_eq_ofList_toDigits, String.toList_ofList] at numbers
    rw [← Nat.ofDigitChars_ten_toDigits (n := position), numbers, Nat.ofDigitChars_ten_toDigits]
  · intro same
    rw [same]
    exact List.prefix_append ..

/-! Replacing. -/

theorem replaceFrom_skip (pattern replacement text after : List Char) :
    replaceFrom pattern replacement text.length (text ++ after) =
      replaceAll pattern replacement after := by
  induction text with
  | nil => rfl
  | cons c text ih => exact ih

section

variable {pattern replacement : List Char}

/-- What follows cannot take part in an occurrence if its first character is not in the pattern. -/
theorem isPrefixOf_append_foreign {after : List Char}
    (foreign : ∀ c ∈ after.head?, c ∉ pattern) (text : List Char) :
    pattern.isPrefixOf (text ++ after) = pattern.isPrefixOf text := by
  induction pattern generalizing text with
  | nil => simp
  | cons first rest ih =>
    cases text with
    | nil =>
      cases after with
      | nil => rfl
      | cons c after =>
        have apart : first ≠ c := by
          intro same
          exact foreign c rfl (same ▸ List.mem_cons_self)
        simp [List.isPrefixOf, apart]
    | cons c text =>
      have restForeign : ∀ c ∈ after.head?, c ∉ rest := fun c member inside =>
        foreign c member (List.mem_cons_of_mem _ inside)
      simp [List.isPrefixOf, ih restForeign]

theorem replaceFrom_append {after : List Char} (foreign : ∀ c ∈ after.head?, c ∉ pattern)
    {skip : Nat} {text : List Char} (inside : skip ≤ text.length) :
    replaceFrom pattern replacement skip (text ++ after) =
      replaceFrom pattern replacement skip text ++ replaceAll pattern replacement after := by
  induction text generalizing skip with
  | nil =>
    have none : skip = 0 := Nat.le_zero.1 inside
    subst none
    cases after <;> rfl
  | cons c text ih =>
    cases skip with
    | succ skip => exact ih (Nat.le_of_succ_le_succ inside)
    | zero =>
      have same := isPrefixOf_append_foreign foreign (c :: text)
      rw [List.cons_append] at same ⊢
      rw [replaceFrom, replaceFrom, same]
      split
      next occurs =>
        have fits := (List.isPrefixOf_iff_prefix.1 occurs).length_le
        rw [List.length_cons] at fits
        rw [ih (by omega), List.append_assoc]
      next => rw [ih (Nat.zero_le _), List.cons_append]

theorem replaceAll_absent {text : List Char} (absent : ¬pattern <:+: text) :
    replaceAll pattern replacement text = text := by
  unfold replaceAll
  induction text with
  | nil => rfl
  | cons c text ih =>
    have notHere : pattern.isPrefixOf (c :: text) ≠ true := fun occurs =>
      absent (List.isPrefixOf_iff_prefix.1 occurs).isInfix
    rw [replaceFrom, if_neg notHere, ih]
    intro later
    exact absent (later.trans (List.suffix_cons c text).isInfix)

end

theorem replaceAll_words (position : Nat) (argument : List Char) {words : List Char}
    (braceless : '\x7b' ∉ words) (after : List Char) :
    replaceAll (placeholder position) argument (words ++ after) =
      words ++ replaceAll (placeholder position) argument after := by
  obtain ⟨rest, shape, _⟩ := placeholder_eq position
  unfold replaceAll
  induction words with
  | nil => rfl
  | cons c words ih =>
    have apart : '\x7b' ≠ c := by
      intro same
      exact braceless (same ▸ List.mem_cons_self)
    have notHere : (placeholder position).isPrefixOf (c :: (words ++ after)) ≠ true := by
      simp [shape, List.isPrefixOf, apart]
    rw [List.cons_append, replaceFrom, if_neg notHere,
      ih fun member => braceless (List.mem_cons_of_mem _ member)]
    rfl

theorem replaceAll_placeholder (position other : Nat) (argument : List Char) :
    replaceAll (placeholder position) argument (placeholder other) =
      if position = other then argument else placeholder other := by
  obtain ⟨rest, shape, braceless, _⟩ := placeholder_eq other
  have here := isPrefixOf_placeholder_iff position other []
  rw [List.append_nil, shape] at here
  rw [shape, replaceAll, replaceFrom]
  by_cases same : position = other
  · subst same
    rw [if_pos (here.2 rfl), if_pos rfl, shape]
    have skipped := replaceFrom_skip ('\x7b' :: rest) argument rest []
    rw [List.append_nil] at skipped
    change argument ++ replaceFrom _ _ rest.length rest = argument
    rw [skipped]
    exact List.append_nil _
  · rw [if_neg fun occurs => same (here.1 occurs), if_neg same]
    have left := replaceAll_words position argument braceless []
    rw [List.append_nil] at left
    change '\x7b' :: replaceAll _ _ rest = _
    rw [left]
    exact congrArg _ (List.append_nil rest)

/-! Templates. -/

inductive Segment
  | words (text : String)
  | slot (position : Nat)

namespace Segment

def render (content : Nat → List Char) : Segment → List Char
  | words text => text.toList
  | slot position => content position

def closed : List Segment → Bool
  | [] => true
  | words text :: _ => text.toList.head?.any fun c => !isPlaceholderCharacter c
  | slot _ :: _ => false

def framed : List Segment → Bool
  | [] => true
  | words text :: rest => !text.toList.contains '\x7b' && framed rest
  | slot _ :: rest => closed rest && framed rest

variable {content : Nat → List Char}

theorem head?_of_closed {segments : List Segment} (isClosed : closed segments = true) :
    ∀ c ∈ (segments.flatMap (render content)).head?, isPlaceholderCharacter c = false := by
  intro c first
  match segments with
  | [] => contradiction
  | words text :: rest =>
    cases letters : text.toList with
    | nil => simp [closed, letters] at isClosed
    | cons letter others =>
      simp only [closed, letters, List.head?_cons, Option.any_some, Bool.not_eq_true'] at isClosed
      simp only [List.flatMap_cons, render, letters, List.cons_append, List.head?_cons,
        Option.mem_some_iff] at first
      exact first ▸ isClosed

/-- Whatever stands in the places of arguments, replacing a placeholder is done in each of them by
itself. -/
theorem replaceAll_render (position : Nat) (argument : List Char) {segments : List Segment}
    (isFramed : framed segments = true) (content : Nat → List Char) :
    replaceAll (placeholder position) argument (segments.flatMap (render content)) =
      segments.flatMap (render fun other =>
        replaceAll (placeholder position) argument (content other)) := by
  induction segments with
  | nil => rfl
  | cons segment rest ih =>
    rw [List.flatMap_cons, List.flatMap_cons]
    cases segment with
    | words text =>
      simp only [framed, Bool.and_eq_true, Bool.not_eq_true', List.contains_eq_mem,
        decide_eq_false_iff_not] at isFramed
      rw [render, replaceAll_words position argument isFramed.1, ih isFramed.2]
      rfl
    | slot other =>
      rw [framed, Bool.and_eq_true] at isFramed
      have foreign : ∀ c ∈ (rest.flatMap (render content)).head?, c ∉ placeholder position := by
        intro c first inside
        have outside := head?_of_closed isFramed.1 c first
        rw [isPlaceholderCharacter_of_mem inside] at outside
        contradiction
      rw [render, replaceAll, replaceFrom_append foreign (Nat.zero_le _), ih isFramed.2]
      rfl

theorem fillFrom_render (position : Nat) (arguments : List (List Char)) {segments : List Segment}
    (isFramed : framed segments = true) (content : Nat → List Char) :
    fillFrom position arguments (segments.flatMap (render content)) =
      segments.flatMap (render fun other => fillFrom position arguments (content other)) := by
  induction arguments generalizing position content with
  | nil => rfl
  | cons argument later ih =>
    change fillFrom (position + 1) later (replaceAll (placeholder position) argument _) = _
    rw [replaceAll_render position argument isFramed, ih]
    rfl

end Segment

/-- In the place of an argument stands at last the argument as it is seen. -/
theorem fillFrom_placeholder {position other : Nat} (reached : position ≤ other)
    (arguments : List (List Char)) :
    fillFrom position arguments (placeholder other) =
      ((seenFrom position arguments)[other - position]?).getD (placeholder other) := by
  induction arguments generalizing position with
  | nil => rfl
  | cons argument later ih =>
    change fillFrom (position + 1) later (replaceAll (placeholder position) argument _) = _
    rw [replaceAll_placeholder, seenFrom]
    by_cases here : position = other
    · rw [if_pos here, here, Nat.sub_self, List.getElem?_cons_zero]
      rfl
    · have further : other - position = other - (position + 1) + 1 := by omega
      rw [if_neg here, ih (by omega), further, List.getElem?_cons_succ]

/-! The same for all placeholders at once. -/

theorem find?_zipIdx (arguments : List (List Char)) {position other : Nat}
    (reached : position ≤ other) :
    (arguments.zipIdx position).find? (fun slot => slot.2 = other) =
      (arguments[other - position]?).map (·, other) := by
  induction arguments generalizing position with
  | nil => rfl
  | cons argument later ih =>
    rw [List.zipIdx_cons, List.find?_cons]
    by_cases here : position = other
    · simp [here]
    · have further : other - position = other - (position + 1) + 1 := by omega
      simp only [here, decide_false]
      rw [ih (by omega), further, List.getElem?_cons_succ]

theorem fillAtOnceFrom_skip (arguments : List (List Char)) (text after : List Char) :
    fillAtOnceFrom arguments text.length (text ++ after) = fillAtOnceFrom arguments 0 after := by
  induction text with
  | nil => rfl
  | cons c text ih => exact ih

theorem fillAtOnceFrom_words (arguments : List (List Char)) {words : List Char}
    (braceless : '\x7b' ∉ words) (after : List Char) :
    fillAtOnceFrom arguments 0 (words ++ after) = words ++ fillAtOnceFrom arguments 0 after := by
  induction words with
  | nil => rfl
  | cons c words ih =>
    have apart : '\x7b' ≠ c := by
      intro same
      exact braceless (same ▸ List.mem_cons_self)
    have nowhere : arguments.zipIdx.find? (fun slot =>
        (placeholder slot.2).isPrefixOf (c :: (words ++ after))) = none := by
      apply List.find?_eq_none.2
      intro slot _
      obtain ⟨rest, shape, _⟩ := placeholder_eq slot.2
      simp [shape, List.isPrefixOf, apart]
    rw [List.cons_append, fillAtOnceFrom, nowhere,
      ih fun member => braceless (List.mem_cons_of_mem _ member)]
    rfl

theorem fillAtOnceFrom_slot (arguments : List (List Char)) (position : Nat) (after : List Char) :
    fillAtOnceFrom arguments 0 (placeholder position ++ after) =
      (arguments[position]?).getD (placeholder position) ++ fillAtOnceFrom arguments 0 after := by
  obtain ⟨rest, shape, braceless, _⟩ := placeholder_eq position
  have test : (fun slot : List Char × Nat =>
      (placeholder slot.2).isPrefixOf (placeholder position ++ after)) =
        fun slot => decide (slot.2 = position) := by
    funext slot
    rw [Bool.eq_iff_iff, isPrefixOf_placeholder_iff, decide_eq_true_iff]
  have search := find?_zipIdx arguments (Nat.zero_le position)
  rw [← test, Nat.sub_zero, shape, List.cons_append] at search
  rw [shape, List.cons_append, fillAtOnceFrom, search]
  cases found : arguments[position]? with
  | some argument =>
    have length : (placeholder position).length - 1 = rest.length := by
      rw [shape]
      rfl
    change argument ++ fillAtOnceFrom arguments ((placeholder position).length - 1) _ = _
    rw [length, fillAtOnceFrom_skip]
    rfl
  | none =>
    change '\x7b' :: fillAtOnceFrom arguments 0 (rest ++ after) = _
    rw [fillAtOnceFrom_words arguments braceless]
    rfl

theorem Segment.fillAtOnceFrom_render (arguments : List (List Char)) {segments : List Segment}
    (isFramed : framed segments = true) :
    fillAtOnceFrom arguments 0 (segments.flatMap (render placeholder)) =
      segments.flatMap (render fun position =>
        (arguments[position]?).getD (placeholder position)) := by
  induction segments with
  | nil => rfl
  | cons segment rest ih =>
    rw [List.flatMap_cons, List.flatMap_cons]
    cases segment with
    | words text =>
      simp only [framed, Bool.and_eq_true, Bool.not_eq_true', List.contains_eq_mem,
        decide_eq_false_iff_not] at isFramed
      rw [render, fillAtOnceFrom_words arguments isFramed.1, ih isFramed.2]
      rfl
    | slot position =>
      rw [framed, Bool.and_eq_true] at isFramed
      rw [render, fillAtOnceFrom_slot, ih isFramed.2]
      rfl

/-! Filled templates. -/

/-- The template keeps its placeholders apart. -/
def Framed (template : String) : Prop :=
  ∃ segments, Segment.framed segments = true ∧
    segments.flatMap (Segment.render placeholder) = template.toList

theorem map_toList_seenArguments (arguments : List String) :
    (seenArguments arguments).map String.toList = seenFrom 0 (arguments.map String.toList) := by
  rw [seenArguments, List.map_map]
  simp [Function.comp_def]

theorem fill_eq_fillAtOnce {template : String} (isFramed : Framed template)
    (arguments : List String) :
    fill template arguments = fillAtOnce template (seenArguments arguments) := by
  obtain ⟨segments, framed, text⟩ := isFramed
  rw [fill_eq, fillAtOnce, ← text, Segment.fillFrom_render _ _ framed,
    Segment.fillAtOnceFrom_render _ framed, map_toList_seenArguments]
  simp only [fillFrom_placeholder (Nat.zero_le _), Nat.sub_zero]

theorem fillFrom_undisturbed {position : Nat} {later : List (List Char)} {text : List Char}
    (absent : ∀ number, position ≤ number → number < position + later.length →
      ¬placeholder number <:+: text) : fillFrom position later text = text := by
  induction later generalizing position with
  | nil => rfl
  | cons argument rest ih =>
    have here := absent position (Nat.le_refl _) (by simp)
    change fillFrom (position + 1) rest (replaceAll (placeholder position) argument text) = text
    rw [replaceAll_absent here]
    apply ih
    intro number behind below
    rw [List.length_cons] at absent
    exact absent number (by omega) (by omega)

theorem seenFrom_undisturbed {position : Nat} {arguments : List (List Char)}
    (absent : ∀ (first second : Nat) (argument : List Char), arguments[first]? = some argument →
      first < second → second < arguments.length →
        ¬placeholder (position + second) <:+: argument) :
    seenFrom position arguments = arguments := by
  induction arguments generalizing position with
  | nil => rfl
  | cons argument later ih =>
    rw [List.length_cons] at absent
    have own : fillFrom (position + 1) later argument = argument := by
      apply fillFrom_undisturbed
      intro number behind below
      have free := absent 0 (number - position) argument rfl (by omega) (by omega)
      rwa [Nat.add_sub_cancel' (by omega)] at free
    have rest : seenFrom (position + 1) later = later := by
      apply ih
      intro first second other found order below
      have free := absent (first + 1) (second + 1) other found (by omega) (by omega)
      rwa [show position + (second + 1) = position + 1 + second by omega] at free
    rw [seenFrom, own, rest]

theorem seenArguments_undisturbed {arguments : List String} (undisturbed : Undisturbed arguments) :
    seenArguments arguments = arguments := by
  have same : seenFrom 0 (arguments.map String.toList) = arguments.map String.toList := by
    apply seenFrom_undisturbed
    intro first second argument found order below
    rw [List.getElem?_map, Option.map_eq_some_iff] at found
    obtain ⟨text, listed, rfl⟩ := found
    rw [List.length_map] at below
    rw [Nat.zero_add]
    exact undisturbed first second text listed order below
  rw [seenArguments, same, List.map_map]
  simp [Function.comp_def]

/-- The text says what the message was given: all arguments are put in at once, each as it is seen
after those behind it have been put into it, and each as it is if it has no placeholder of one of
those. -/
structure Message.Says (message : Message) (arguments : List String) (text : String) : Prop where
  text_eq : text = fillAtOnce message.template (seenArguments arguments)
  verbatim : Undisturbed arguments → text = fillAtOnce message.template arguments

theorem Message.says_fill {message : Message} (isFramed : Framed message.template)
    (arguments : List String) : message.Says arguments (fill message.template arguments) where
  text_eq := fill_eq_fillAtOnce isFramed arguments
  verbatim undisturbed := by
    rw [fill_eq_fillAtOnce isFramed, seenArguments_undisturbed undisturbed]

/-! The messages about two spellings. -/

theorem framed_spellingTaken : Framed Message.spellingTaken.template :=
  ⟨[.words "Spelling ", .slot 0, .words " of '", .slot 1, .words "' is already bound to '", .slot 2,
    .words "'."], by decide, by decide⟩

theorem framed_overlapWarning : Framed Message.overlapWarning.template :=
  ⟨[.words "Spelling ", .slot 0, .words " of '", .slot 1, .words "' is a prefix of ", .slot 2,
    .words " of '", .slot 3, .words "'; the lexer must resolve it by longest match."],
    by decide, by decide⟩

theorem framed_overlapDenied : Framed Message.overlapDenied.template :=
  ⟨[.words "Spelling ", .slot 0, .words " of '", .slot 1, .words "' is a prefix of ", .slot 2,
    .words " of '", .slot 3, .words "'."], by decide, by decide⟩

end TokenTables
