import TokenTables.Json.Lexeme

/-!
JSON documents. A text that is not JSON is read as far as it goes, so that what stands before the
fault can still be judged: every array and object that the fault leaves open is marked as such,
and a missing value is a `broken` one. Since the text is read from left to right, a value that is
marked is always the last one of all that surround it.

The reader is a machine over lexemes. It keeps the containers that are open and the place in the
innermost one.
-/

namespace TokenTables

/-- How an object ends: with its brace, at a fault, or at a value that stands where the first key
should. -/
inductive Ending (α : Type)
  | closed
  | cut
  | strayKey (found : α)

inductive Json
  | null
  | boolean (value : Bool)
  | number (value : Json.Number)
  /-- A string, unless it holds an unpaired surrogate. -/
  | text (content : Option String)
  | array (items : List Json) (closed : Bool)
  | object (members : List (String × Json)) (ending : Ending Json)
  | broken

namespace Json

instance : Inhabited Json := ⟨broken⟩

/-- A container that is still open. Its contents are held last one first, and an object has read
the key of its next member. -/
inductive Open
  | array (items : List Json)
  | object (members : List (String × Json)) (key : String)

inductive Place
  | value
  | firstItem
  | key (first : Bool) (members : List (String × Json))
  | colon (members : List (String × Json)) (key : String)
  | after (value : Json)

def scalar? : Lexeme → Option Json
  | .null => some null
  | .boolean value => some (boolean value)
  | .number value => some (number value)
  | .text content => some (text content)
  | _ => none

def startValue (around : List Open) : Lexeme → Option (List Open × Place)
  | .openBracket => some (.array [] :: around, .firstItem)
  | .openBrace => some (around, .key true [])
  | lexeme => (scalar? lexeme).map fun value => (around, .after value)

def step (around : List Open) : Place → Lexeme → Option (List Open × Place)
  | .value, lexeme => startValue around lexeme
  | .firstItem, .closeBracket =>
    match around with
    | .array items :: outer => some (outer, .after (array items.reverse true))
    | _ => none
  | .firstItem, lexeme => startValue around lexeme
  | .key true members, .closeBrace => some (around, .after (object members.reverse .closed))
  | .key _ members, .text (some key) => some (around, .colon members key)
  | .colon members key, .colon => some (.object members key :: around, .value)
  | .after value, .comma =>
    match around with
    | .array items :: outer => some (.array (value :: items) :: outer, .value)
    | .object members key :: outer => some (outer, .key false ((key, value) :: members))
    | [] => none
  | .after value, .closeBracket =>
    match around with
    | .array items :: outer => some (outer, .after (array (value :: items).reverse true))
    | _ => none
  | .after value, .closeBrace =>
    match around with
    | .object members key :: outer =>
      some (outer, .after (object ((key, value) :: members).reverse .closed))
    | _ => none
  | _, _ => none

def cutOff : List Open → Json → Json
  | [], last => last
  | .array items :: outer, last => cutOff outer (array (last :: items).reverse false)
  | .object members key :: outer, last =>
    cutOff outer (object ((key, last) :: members).reverse .cut)

def strayEnding : Option Lexeme → Ending Json
  | some (.text _) => .cut
  | some .openBracket => .strayKey (array [] false)
  | some .openBrace => .strayKey (object [] .cut)
  | some lexeme =>
    match scalar? lexeme with
    | some value => .strayKey value
    | none => .cut
  | none => .cut

/-- The document as far as it could be read, when `fault` does not fit or the text ends. -/
def stop (around : List Open) (fault : Option Lexeme) : Place → Json
  | .value => cutOff around broken
  | .firstItem => cutOff around broken
  | .key true members => cutOff around (object members.reverse (strayEnding fault))
  | .key false members => cutOff around (object members.reverse .cut)
  | .colon members key => cutOff around (object ((key, broken) :: members).reverse .cut)
  | .after value => cutOff around value

structure Document where
  value : Json
  whole : Bool

def readFrom (around : List Open) (place : Place) : List Lexeme → Document
  | [] =>
    match around, place with
    | [], .after value => ⟨value, true⟩
    | _, _ => ⟨stop around none place, false⟩
  | lexeme :: rest =>
    match step around place lexeme with
    | some (outer, next) => readFrom outer next rest
    | none => ⟨stop around (some lexeme) place, false⟩

def read (input : String) : Document := readFrom [] .value (lexemes input.toList)

end Json

end TokenTables
