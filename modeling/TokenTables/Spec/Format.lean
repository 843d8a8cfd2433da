/-!
The line format of a token specification.
-/

namespace TokenTables

inductive Separator
  | tab
  | space
  | comma
  deriving DecidableEq, Repr

namespace Separator

def character : Separator → Char
  | tab => '\t'
  | space => ' '
  | comma => ','

def label : Separator → String
  | tab => "tab"
  | space => "space"
  | comma => "comma"

end Separator

inductive MalformedPolicy
  | abort
  | skip
  deriving DecidableEq, Repr

structure SpecFormat where
  separator : Separator := .tab
  /-- Lines that start with this text are comments. The empty text marks no comments. -/
  commentMarker : String := "//"
  malformed : MalformedPolicy := .abort
  deriving DecidableEq, Repr

end TokenTables
