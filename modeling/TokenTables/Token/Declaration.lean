/-!
A declaration is one line of a token specification: a name and, for tokens with a fixed text, the
spelling. A spelling is always settled: the comma token, which a comma-separated line cannot
spell, is spelled by a comma whatever its line says, and an empty spelling stands for one space.
Lines are numbered by natural numbers, which 32 bits hold for every text of less than 2^30
characters.
-/

namespace TokenTables

def commaName : String := "COMMA"

def settleSpelling (name : String) (spelling : Option String) : Option String :=
  if name = commaName then some ","
  else spelling.map fun text => if text = "" then " " else text

theorem settleSpelling_settled (name : String) (spelling : Option String) :
    settleSpelling name (settleSpelling name spelling) = settleSpelling name spelling := by
  unfold settleSpelling
  split
  · rfl
  · cases spelling with
    | none => rfl
    | some text => by_cases empty : text = "" <;> simp [empty]

/-- A declared token. `line` is the line of the specification that declares it. -/
structure Declaration where
  name : String
  spelling : Option String
  line : Nat
  settled : settleSpelling name spelling = spelling
  deriving DecidableEq

namespace Declaration

def make (name : String) (spelling : Option String) (line : Nat) : Declaration where
  name := name
  spelling := settleSpelling name spelling
  line := line
  settled := settleSpelling_settled name spelling

def hasSpelling (declaration : Declaration) : Bool := declaration.spelling.isSome

@[simp] theorem make_fields (declaration : Declaration) :
    make declaration.name declaration.spelling declaration.line = declaration := by
  cases declaration with
  | mk name spelling line settled => simp [make, settled]

end Declaration

end TokenTables
