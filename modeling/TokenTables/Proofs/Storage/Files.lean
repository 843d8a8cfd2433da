import Mathlib.Logic.Function.Basic
import TokenTables.Storage.Basic

/-!
Files as a state. Whatever keeps the files, reading them leaves them as they are, so what comes
after a reading can be told from its result alone. The simplest of such states is a map from places
to texts, where a path leads to a place and writing sets the text there.
-/

namespace TokenTables

def Steady {σ α : Type} (action : StateM σ α) : Prop := ∀ files, (action.run files).2 = files

namespace Steady

variable {σ α β : Type}

theorem pure (value : α) : Steady (pure value : StateM σ α) := fun _ => rfl

theorem bind {action : StateM σ α} {next : α → StateM σ β} (first : Steady action)
    (later : ∀ value, Steady (next value)) : Steady (action >>= next) := by
  intro files
  show ((next (action.run files).1).run (action.run files).2).2 = files
  rw [later, first]

/-- What follows a steady action starts from the same state. -/
theorem run_bind {action : StateM σ α} (steady : Steady action) {files : σ} {value : α}
    (result : (action.run files).1 = value) (next : α → StateM σ β) :
    (action >>= next).run files = (next value).run files := by
  show (next (action.run files).1).run (action.run files).2 = _
  rw [result, steady]

end Steady

class SteadyReading (σ : Type) [FileAccess (StateM σ)] : Prop where
  readText : ∀ path, Steady (FileAccess.readText path : StateM σ (Except FileError String))
  fileExists : ∀ path, Steady (FileAccess.fileExists path : StateM σ Bool)

instance : SteadyReading Storage where
  readText _ _ := rfl
  fileExists _ _ := rfl

/-- Files as a map from places to texts. Different paths may lead to the same place. -/
structure FileMap {κ : Type} (place : String → κ) where
  text? : κ → Option String

namespace FileMap

variable {κ : Type} [DecidableEq κ] {place : String → κ}

def write (files : FileMap place) (path text : String) : FileMap place :=
  ⟨Function.update files.text? (place path) (some text)⟩

theorem text?_write (files : FileMap place) (path text : String) :
    (files.write path text).text? (place path) = some text :=
  Function.update_self ..

theorem text?_write_of_ne {files : FileMap place} {path text : String} {other : κ}
    (elsewhere : other ≠ place path) : (files.write path text).text? other = files.text? other :=
  Function.update_of_ne elsewhere ..

instance : FileAccess (StateM (FileMap place)) where
  readText path := return match (← get).text? (place path) with
    | some text => .ok text
    | none => .error .notFound
  fileExists path := return ((← get).text? (place path)).isSome
  makeDirectories _ := return .ok ()
  writeText path text := do
    modify fun files => files.write path text
    return .ok ()

instance : SteadyReading (FileMap place) where
  readText _ _ := rfl
  fileExists _ _ := rfl

end FileMap

end TokenTables
