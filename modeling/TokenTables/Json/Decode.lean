import TokenTables.Json.Document
import TokenTables.Text.Quoted

/-!
Decoding documents into values of known shape. What a document says first is judged first: the
decoders go through it from left to right and stop at the first problem, which is either a value of
the wrong shape or the place where the text is not JSON. Members with unknown names are passed
over. A record can also be given as the array of its fields in their order; fields that are
missing keep their default.
-/

namespace TokenTables

namespace Json

inductive DecodeError
  /-- The text is not JSON, or not of a form that the shape admits. -/
  | malformed
  | invalidType (found expected : String)
  | unknownVariant (found : String) (known : List String)
  | duplicateField (name : String)
  deriving DecidableEq, Repr

namespace DecodeError

def ticked (name : String) : String := "`" ++ name ++ "`"

def alternatives : List String → String
  | [first, second] => ticked first ++ " or " ++ ticked second
  | names => "one of " ++ String.intercalate ", " (names.map ticked)

def message? : DecodeError → Option String
  | malformed => none
  | invalidType found expected => some ("invalid type: " ++ found ++ ", expected " ++ expected)
  | unknownVariant found known =>
    some ("unknown variant " ++ ticked found ++ ", expected " ++ alternatives known)
  | duplicateField name => some ("duplicate field " ++ ticked name)

end DecodeError

abbrev Decoder (α : Type) := Json → Except DecodeError α

def described? : Json → Option String
  | null => some "null"
  | boolean true => some ("boolean " ++ DecodeError.ticked "true")
  | boolean false => some ("boolean " ++ DecodeError.ticked "false")
  | number value => value.described?
  | text (some content) => some ("string " ++ Quoted.text content)
  | text none => none
  | array _ _ => some "sequence"
  | object _ _ => some "map"
  | broken => none

def mismatch (expected : String) (found : Json) : DecodeError :=
  match found.described? with
  | some description => .invalidType description expected
  | none => .malformed

def decodeString : Decoder String
  | text (some content) => .ok content
  | found => .error (mismatch "a string" found)

def decodeOptional : Decoder (Option String)
  | null => .ok none
  | found => (decodeString found).map some

def decodeStrings : Decoder (List String)
  | array items closed => do
    let strings ← items.mapM decodeString
    if closed then return strings else throw .malformed
  | found => throw (mismatch "a sequence" found)

def decodeVariant {α : Type} (variants : List (String × α)) (name : String) :
    Except DecodeError α :=
  match variants.lookup name with
  | some value => .ok value
  | none => .error (.unknownVariant name (variants.map Prod.fst))

def decodeUnit : Decoder Unit
  | null => .ok ()
  | found => .error (mismatch "unit" found)

/-- One of several named values: its name, or an object with its name as only key and null. -/
def decodeChoice {α : Type} (variants : List (String × α)) : Decoder α
  | text (some name) => decodeVariant variants name
  | object [] (.strayKey found) => throw (mismatch "variant identifier" found)
  | object ((name, payload) :: others) ending => do
    let value ← decodeVariant variants name
    decodeUnit payload
    match others, ending with
    | [], .closed => return value
    | _, _ => throw .malformed
  | _ => throw .malformed

structure FieldDecoder (ρ : Type) where
  name : String
  decode : ρ → Decoder ρ

def fieldDecoder {ρ α : Type} (name : String) (decode : Decoder α) (set : ρ → α → ρ) :
    FieldDecoder ρ where
  name := name
  decode record value := (decode value).map (set record)

/-- Reads the members of an object. `seen` are the fields that were given before. -/
def decodeMembers {ρ : Type} (fields : List (FieldDecoder ρ)) (seen : List String) (record : ρ) :
    List (String × Json) → Except DecodeError ρ
  | [] => .ok record
  | (name, value) :: rest =>
    match fields.find? fun field => field.name == name with
    | none => decodeMembers fields seen record rest
    | some field => do
      if seen.contains name then throw (.duplicateField name)
      let changed ← field.decode record value
      decodeMembers fields (name :: seen) changed rest

def decodeItems {ρ : Type} (record : ρ) :
    List (FieldDecoder ρ) → List Json → Except DecodeError ρ
  | field :: fields, item :: items => do
    let changed ← field.decode record item
    decodeItems changed fields items
  | [], _ :: _ => .error .malformed
  | _, [] => .ok record

def decodeRecord {ρ : Type} (title : String) (fields : List (FieldDecoder ρ)) (default : ρ) :
    Decoder ρ
  | object members ending => do
    let record ← decodeMembers fields [] default members
    match ending with
    | .closed => return record
    | _ => throw .malformed
  | array items closed => do
    let record ← decodeItems default fields items
    if closed then return record else throw .malformed
  | found => throw (mismatch ("struct " ++ title) found)

def decodeDocument {α : Type} (decode : Decoder α) (document : Document) :
    Except DecodeError α := do
  let value ← decode document.value
  if document.whole then return value else throw .malformed

end Json

end TokenTables
