import TokenTables.Build.Basic
import TokenTables.Settings.Loading
import TokenTables.Text.Wrap

/-!
What the command line prints: reports on the specification, one diagnostic to a line with its notes
indented below it, and failures of the whole run with their cause and a hint.
-/

namespace TokenTables

namespace Colour

def red : String := "\x1b[31m"

def yellow : String := "\x1b[33m"

def cyan : String := "\x1b[36m"

def grey : String := "\x1b[90m"

def bold : String := "\x1b[1m"

def reset : String := "\x1b[0m"

end Colour

inductive Failure
  | project (error : ProjectError)
  | build (error : BuildError)

namespace Failure

def code : Failure → String
  | project (.read ..) => "toktab::config::read"
  | project (.parse ..) => "toktab::config::parse"
  | build .noInput => "toktab::no_input"
  | build (.read ..) => "toktab::io::read"
  | build (.write ..) => "toktab::io::write"
  | build (.emission _) => "toktab::emit"
  | build (.aborted _) => "toktab::aborted"

def message : Failure → String
  | project error => error.message
  | build error => error.message

def cause? : Failure → Option String
  | project (.read _ cause) => some cause.message
  | project (.parse _ cause) => cause.message?
  | build (.read _ cause) => some cause.message
  | build (.write _ cause) => some cause.message
  | build (.emission cause) => some cause.message
  | build _ => none

def hint? : Failure → Option String
  | project (.parse ..) => some "see `toktab --init` for a project file with every field"
  | build .noInput => some "pass a token file or set \"input\" in toktab.json"
  | _ => none

def columns : Nat := 78

/-- One part of a printed failure, with `lead` before its first line and `later` before the lines
that continue it. Both take the same room. -/
def printedPart (lead later text : String) : String :=
  match Wrap.lines (columns - lead.length) text with
  | [] => ""
  | first :: rest =>
    lead ++ first ++ "\n" ++ String.join (rest.map fun line => later ++ line ++ "\n")

def shown (failure : Failure) : String :=
  failure.code ++ "\n\n" ++ printedPart "  × " "  │ " failure.message
    ++ (match failure.cause? with
      | some cause => printedPart "  ╰─▶ " "      " cause
      | none => "")
    ++ (match failure.hint? with
      | some hint => printedPart "  help: " "        " hint
      | none => "")
    ++ "\n"

end Failure

namespace Diagnostic

def colouredPlace (diagnostic : Diagnostic) : String :=
  match diagnostic.file with
  | some file => Colour.cyan ++ file ++ Colour.reset
      ++ (match diagnostic.line with
        | some line => ":" ++ line.repr
        | none => "") ++ ": "
  | none => diagnostic.place

def coloured (diagnostic : Diagnostic) : String :=
  diagnostic.colouredPlace ++ Colour.bold
    ++ (if diagnostic.isError then Colour.red else Colour.yellow) ++ diagnostic.category.label
    ++ Colour.reset ++ " " ++ Colour.cyan ++ "TT" ++ diagnostic.code.repr ++ Colour.reset ++ ": "
    ++ diagnostic.text

def printed (inColour : Bool) (diagnostic : Diagnostic) : String :=
  (if inColour then diagnostic.coloured else diagnostic.shown) ++ "\n"

def printedReport (inColour : Bool) (report : List Diagnostic) : String :=
  String.join <| report.map fun diagnostic =>
    diagnostic.printed inColour
      ++ String.join (diagnostic.related.map fun note => "  " ++ note.printed inColour)

end Diagnostic

def plural (count : Nat) : String := if count = 1 then "" else "s"

def printedErrorCount (inColour : Bool) (count : Nat) : String :=
  let text := "Found " ++ count.repr ++ " error" ++ plural count ++ "."
  if inColour then "\n" ++ Colour.red ++ text ++ Colour.reset ++ "\n" else "\n" ++ text ++ "\n"

def printedError (inColour : Bool) (message : String) : String :=
  if inColour then Colour.bold ++ Colour.red ++ "error" ++ Colour.reset ++ ": " ++ message ++ "\n"
  else "error: " ++ message ++ "\n"

def printedSummary (fileCount : Nat) (elapsed : String) : String :=
  Colour.grey ++ "Generated " ++ fileCount.repr ++ " file" ++ plural fileCount ++ " in "
    ++ elapsed ++ "s." ++ Colour.reset ++ "\n"

end TokenTables
