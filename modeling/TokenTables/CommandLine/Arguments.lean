import TokenTables.Settings.ProjectFile

/-!
The arguments of the command line. They are read from left to right, and the first that is at
fault, or that asks for help or the version, decides. An option takes its value from behind an
equals sign or from the next argument; a next argument that starts with a hyphen is only a value
if it is nothing but the hyphen. Options and flags are given once at most, except for the flag that
raises the verbosity. After two hyphens every argument is an input.
-/

namespace TokenTables

structure Invocation where
  input : Option String := none
  project : Option String := none
  target : Option Target := none
  strategy : Option Strategy := none
  separator : Option Separator := none
  outDir : Option String := none
  overlap : Option OverlapPolicy := none
  noMatch : Option String := none
  noEmit : Bool := false
  toStdout : Bool := false
  initialise : Bool := false
  verbosity : Nat := 0
  deriving DecidableEq, Repr

inductive Request
  | run (invocation : Invocation)
  | help
  | version
  | usageError
  deriving DecidableEq, Repr

namespace Invocation

def setOnce {α : Type} (held : Option α) (value : Option α) (set : Option α → Invocation) :
    Option Invocation :=
  match held, value with
  | none, some value => some (set (some value))
  | _, _ => none

def raiseFlag (held : Bool) (set : Bool → Invocation) : Option Invocation :=
  if held then none else some (set true)

def setInput (invocation : Invocation) (value : String) : Option Invocation :=
  setOnce invocation.input (some value) fun input => { invocation with input := input }

def setProject (invocation : Invocation) (value : String) : Option Invocation :=
  setOnce invocation.project (some value) fun project => { invocation with project := project }

def setOption? (invocation : Invocation) : String → Option (String → Option Invocation)
  | "project" => some invocation.setProject
  | "target" => some fun value =>
    setOnce invocation.target (Target.variants.lookup value)
      fun target => { invocation with target := target }
  | "strategy" => some fun value =>
    setOnce invocation.strategy (Strategy.variants.lookup value)
      fun strategy => { invocation with strategy := strategy }
  | "separator" => some fun value =>
    setOnce invocation.separator (Separator.variants.lookup value)
      fun separator => { invocation with separator := separator }
  | "out-dir" => some fun value =>
    setOnce invocation.outDir (some value) fun outDir => { invocation with outDir := outDir }
  | "prefix-overlap" => some fun value =>
    setOnce invocation.overlap (OverlapPolicy.variants.lookup value)
      fun overlap => { invocation with overlap := overlap }
  | "no-match" => some fun value =>
    setOnce invocation.noMatch (some value) fun noMatch => { invocation with noMatch := noMatch }
  | _ => none

end Invocation

namespace Request

inductive Progress
  | continue (invocation : Invocation)
  | needsValue (set : String → Option Invocation)
  | finished (request : Request)

def Progress.ofResult : Option Invocation → Progress
  | some invocation => .continue invocation
  | none => .finished usageError

/-- An argument of one hyphen and letters. The value of an option follows its letter. -/
def readLetters (invocation : Invocation) : List Char → Progress
  | [] => .continue invocation
  | 'v' :: rest => readLetters { invocation with verbosity := invocation.verbosity + 1 } rest
  | 'p' :: [] => .needsValue invocation.setProject
  | 'p' :: '=' :: value => .ofResult (invocation.setProject (String.ofList value))
  | 'p' :: value => .ofResult (invocation.setProject (String.ofList value))
  | 'h' :: _ => .finished help
  | 'V' :: _ => .finished version
  | _ => .finished usageError

def readLongName (invocation : Invocation) (name : String) : Progress :=
  match name with
  | "help" => .finished help
  | "version" => .finished version
  | "verbose" => .continue { invocation with verbosity := invocation.verbosity + 1 }
  | "no-emit" => .ofResult <| Invocation.raiseFlag invocation.noEmit
      fun noEmit => { invocation with noEmit := noEmit }
  | "stdout" => .ofResult <| Invocation.raiseFlag invocation.toStdout
      fun toStdout => { invocation with toStdout := toStdout }
  | "init" => .ofResult <| Invocation.raiseFlag invocation.initialise
      fun initialise => { invocation with initialise := initialise }
  | _ =>
    match invocation.setOption? name with
    | some set => .needsValue set
    | none => .finished usageError

def readLong (invocation : Invocation) (text : List Char) : Progress :=
  let name := String.ofList (text.takeWhile (· != '='))
  match text.dropWhile (· != '=') with
  | [] => readLongName invocation name
  | _ :: value =>
    match invocation.setOption? name with
    | some set => .ofResult (set (String.ofList value))
    | none => .finished usageError

def readArgument (invocation : Invocation) (argument : String) : Progress :=
  match argument.toList with
  | '-' :: '-' :: name => readLong invocation name
  | '-' :: letter :: letters => readLetters invocation (letter :: letters)
  | _ => .ofResult (invocation.setInput argument)

def isValue (argument : String) : Bool :=
  match argument.toList with
  | '-' :: _ :: _ => false
  | _ => true

def readInputs (invocation : Invocation) : List String → Request
  | [] => .run invocation
  | argument :: rest =>
    match invocation.setInput argument with
    | some changed => readInputs changed rest
    | none => .usageError

def readFrom (invocation : Invocation) : List String → Request
  | [] => .run invocation
  | "--" :: rest => readInputs invocation rest
  | argument :: rest =>
    match readArgument invocation argument with
    | .continue changed => readFrom changed rest
    | .finished request => request
    | .needsValue set =>
      match rest with
      | [] => .usageError
      | value :: others =>
        if isValue value then
          match set value with
          | some changed => readFrom changed others
          | none => .usageError
        else .usageError

def ofArguments (arguments : List String) : Request := readFrom {} arguments

end Request

end TokenTables
