/-!
Indented text. Generated source is a list of layout steps, and a page is what writing them gives.
A block is opened by a line after which the level rises, and closed by a line before which it
falls. Empty lines are never indented, and the level does not fall below zero. Levels are natural
numbers, which 32 bits hold in all that is emitted for a text of less than 2^30 characters.
-/

namespace TokenTables

inductive LayoutStep
  | line (text : String)
  | opening (text : String)
  | closing (text : String)
  | blank
  | indent
  | dedent
  deriving DecidableEq, Repr

structure Page where
  level : Nat := 0
  text : String := ""
  deriving DecidableEq, Repr

namespace Page

def indentation (level : Nat) : String := String.ofList (List.replicate (4 * level) ' ')

def writeLine (page : Page) (text : String) : Page :=
  if text.isEmpty then { page with text := page.text ++ "\n" }
  else { page with text := page.text ++ indentation page.level ++ text ++ "\n" }

def indent (page : Page) : Page := { page with level := page.level + 1 }

def dedent (page : Page) : Page := { page with level := page.level - 1 }

def write (page : Page) : LayoutStep → Page
  | .line text => page.writeLine text
  | .opening text => (page.writeLine text).indent
  | .closing text => page.dedent.writeLine text
  | .blank => page.writeLine ""
  | .indent => page.indent
  | .dedent => page.dedent

def writeAll (page : Page) (steps : List LayoutStep) : Page := steps.foldl write page

end Page

def layOut (steps : List LayoutStep) : String := (Page.writeAll {} steps).text

end TokenTables
