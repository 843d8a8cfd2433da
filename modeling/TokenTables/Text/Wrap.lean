/-!
Wrapping of prose at a number of columns. Lines are filled greedily: each takes as many words as
fit, and the spaces at its end are dropped. A line may end after spaces, after a hyphen between
two letters or digits, and after some marks, of which the slash of a path is the usual one; no
line starts with a closing mark or ends with an opening one. A word that no line can hold is cut.
Every character takes one column, and one outside ASCII counts as a letter.
-/

namespace TokenTables

namespace Wrap

inductive MarkClass
  | letter
  | digit
  | opening
  | closing
  | bracketClosing
  | quote
  | exclamation
  | point
  | slash
  | hyphen
  | divider
  | currency
  | percent
  deriving DecidableEq, Repr

def markClass (c : Char) : MarkClass :=
  if c.isDigit then .digit
  else match c with
    | '(' | '[' | '\x7b' => .opening
    | ')' | ']' => .bracketClosing
    | '\x7d' => .closing
    | '"' | '\'' => .quote
    | '!' | '?' => .exclamation
    | ',' | '.' | ':' | ';' => .point
    | '/' => .slash
    | '-' => .hyphen
    | '|' | '\t' => .divider
    | '$' | '+' | '\\' => .currency
    | '%' => .percent
    | _ => .letter

def MarkClass.closes : MarkClass → Bool
  | .closing | .bracketClosing | .exclamation | .point | .slash => true
  | _ => false

def MarkClass.parts (last next : MarkClass) : Bool :=
  if next.closes || next = .quote || next = .divider || next = .hyphen then false
  else match last with
    | .divider | .exclamation => true
    | .slash => next ≠ .digit
    | .point => next ≠ .digit && next ≠ .letter
    | .closing => next ≠ .currency && next ≠ .percent
    | .bracketClosing => next = .opening
    | .currency | .percent => next = .currency || next = .percent
    | .letter | .digit | .opening | .quote | .hyphen => false

def MarkClass.partsAtSpace (last next : MarkClass) : Bool :=
  !next.closes && last ≠ .opening && !(last = .quote && next = .opening)

def isWordCharacter (c : Char) : Bool := c.isAlphanum || 0x80 ≤ c.toNat

/-- Whether a line may end between `before`, whose last character comes first, and `next`. -/
def mayEnd (before : List Char) (next : Char) : Bool :=
  match before with
  | [] => false
  | ' ' :: earlier =>
    next != ' ' && match earlier.dropWhile (· == ' ') with
      | [] => true
      | last :: _ => (markClass last).partsAtSpace (markClass next)
  | '-' :: earlier => earlier.head?.any isWordCharacter && isWordCharacter next
  | last :: _ => next != ' ' && (markClass last).parts (markClass next)

def marked (before : List Char) : List Char → List (Bool × Char)
  | [] => []
  | c :: rest => (mayEnd before c, c) :: marked (c :: before) rest

def pieces (line : List Char) : List (List Char) :=
  ((marked [] line).splitBy fun _ next => !next.1).map fun piece => piece.map Prod.snd

structure Word where
  text : List Char
  gap : List Char
  deriving DecidableEq, Repr

/-- Cuts a text into words that fit. The gap stays with the last of them. -/
def cut (columns : Nat) (text gap : List Char) : List Word :=
  if _fits : columns = 0 ∨ text.length ≤ columns then [⟨text, gap⟩]
  else ⟨text.take columns, []⟩ :: cut columns (text.drop columns) gap
termination_by text.length
decreasing_by
  simp only [List.length_drop]
  omega

def words (columns : Nat) (line : List Char) : List Word :=
  (pieces line).flatMap fun piece =>
    let text := (piece.reverse.dropWhile (· == ' ')).reverse
    cut columns text (piece.drop text.length)

def fill (columns : Nat) (line gap : List Char) : List Word → List (List Char)
  | [] => [line]
  | word :: rest =>
    if columns < line.length + gap.length + word.text.length then
      line :: fill columns word.text word.gap rest
    else fill columns (line ++ gap ++ word.text) word.gap rest

def lines (columns : Nat) (text : String) : List String :=
  (text.splitOn "\n").flatMap fun line =>
    (fill columns [] [] (words columns line.toList)).map String.ofList

end Wrap

end TokenTables
