import TokenTables.Text.Blank

/-!
Fields of a specification line. Separators and white space between fields are dropped. A field
that starts with a double quote runs to the closing quote and may hold anything; inside it a
backslash escapes a quote, a backslash, a tab (t) or a line feed (n), and before any other
character it stands for itself. Text glued to a closing quote is dropped up to the next separator.
Any other field runs to the next separator and loses the white space around it.
-/

namespace TokenTables

structure Field where
  text : String
  quoted : Bool
  deriving DecidableEq, Repr

structure Unterminated where
  fields : List Field
  deriving DecidableEq, Repr

namespace Field

def unescape : Char → List Char
  | '"' => ['"']
  | '\\' => ['\\']
  | 't' => ['\t']
  | 'n' => ['\n']
  | other => ['\\', other]

def readQuoted : List Char → Option (List Char × List Char)
  | [] => none
  | '"' :: rest => some ([], rest)
  | '\\' :: [] => none
  | '\\' :: escaped :: rest =>
    (readQuoted rest).map fun (text, after) => (unescape escaped ++ text, after)
  | c :: rest => (readQuoted rest).map fun (text, after) => (c :: text, after)

theorem readQuoted_shorter {input text after : List Char}
    (closed : readQuoted input = some (text, after)) : after.length < input.length := by
  fun_induction readQuoted input generalizing text after with
  | case1 => simp at closed
  | case2 rest =>
    simp only [Option.some.injEq, Prod.mk.injEq] at closed
    simp [← closed.2]
  | case3 => simp at closed
  | case4 escaped rest ih =>
    obtain ⟨⟨inner, remaining⟩, found, same⟩ := Option.map_eq_some_iff.1 closed
    cases same
    have shorter := ih found
    simp only [List.length_cons]
    omega
  | case5 c rest _ _ _ ih =>
    obtain ⟨⟨inner, remaining⟩, found, same⟩ := Option.map_eq_some_iff.1 closed
    cases same
    have shorter := ih found
    simp only [List.length_cons]
    omega

def before (field : Field) : Except Unterminated (List Field) → Except Unterminated (List Field)
  | .ok fields => .ok (field :: fields)
  | .error ⟨fields⟩ => .error ⟨field :: fields⟩

theorem dropWhile_length_le (drop : Char → Bool) (text : List Char) :
    (text.dropWhile drop).length ≤ text.length :=
  (List.dropWhile_sublist drop).length_le

/-- Splits a line into its fields. A plain field starts with a character that is neither white
space nor the separator, so it is never empty. -/
def split (separator : Char) (line : List Char) : Except Unterminated (List Field) :=
  match _start : line.dropWhile fun c => c == separator || isBlank c with
  | [] => .ok []
  | '"' :: inside =>
    match _closed : readQuoted inside with
    | none => .error ⟨[]⟩
    | some (text, after) =>
      before ⟨String.ofList text, true⟩ (split separator (after.dropWhile (· != separator)))
  | first :: rest =>
    before ⟨String.ofList (trimBoth isBlank (first :: rest.takeWhile (· != separator))), false⟩
      (split separator (rest.dropWhile (· != separator)))
termination_by line.length
decreasing_by
  · have dropped := dropWhile_length_le (fun c => c == separator || isBlank c) line
    have inner := readQuoted_shorter _closed
    have skipped := dropWhile_length_le (· != separator) after
    simp only [_start, List.length_cons] at dropped
    omega
  · have dropped := dropWhile_length_le (fun c => c == separator || isBlank c) line
    have skipped := dropWhile_length_le (· != separator) rest
    simp only [_start, List.length_cons] at dropped
    omega

end Field

end TokenTables
