import TokenTables.Proofs.Json.Grammar
import TokenTables.Proofs.Json.Record
import TokenTables.Settings.ProjectFile

/-!
Project files as layouts of settings. The form of the settings says under which name each field is
given and what stands there: a string, null for an optional text that is absent, a list of strings,
the name of a choice, or an object that lays out the format.
-/

namespace TokenTables

open Json

namespace Json

def GivesText (content : String) (value : Json) : Prop := value = text (some content)

def GivesOptional : Option String → Json → Prop
  | some content => GivesText content
  | none => (· = null)

def GivesTexts (items : List String) (value : Json) : Prop :=
  value = array (items.map fun item => text (some item)) true

theorem decodeString_of_gives {content : String} {value : Json} (gives : GivesText content value) :
    decodeString value = .ok content := by
  rw [gives]
  rfl

theorem decodeOptional_of_gives {content : Option String} {value : Json}
    (gives : GivesOptional content value) : decodeOptional value = .ok content := by
  cases content with
  | none =>
    rw [show value = null from gives]
    rfl
  | some content =>
    rw [show value = text (some content) from gives]
    rfl

theorem mapM_decodeString (items : List String) :
    (items.map fun item => text (some item)).mapM decodeString = .ok items := by
  induction items with
  | nil => rfl
  | cons item rest ih =>
    rw [List.map_cons, List.mapM_cons, ih]
    rfl

theorem decodeStrings_of_gives {items : List String} {value : Json}
    (gives : GivesTexts items value) : decodeStrings value = .ok items := by
  rw [gives, decodeStrings, mapM_decodeString]
  rfl

theorem decodeChoice_of_gives {α : Type} {variants : List (String × α)} {label : α → String}
    (labelled : ∀ choice, variants.lookup (label choice) = some choice) {choice : α} {value : Json}
    (gives : GivesText (label choice) value) : decodeChoice variants value = .ok choice := by
  rw [gives, decodeChoice, decodeVariant, labelled]

end Json

/-! Every choice is found under its name. -/

theorem Separator.lookup_label (separator : Separator) :
    variants.lookup separator.label = some separator := by
  cases separator <;> rfl

theorem MalformedPolicy.lookup_label (policy : MalformedPolicy) :
    variants.lookup policy.label = some policy := by
  cases policy <;> rfl

theorem OverlapPolicy.lookup_label (policy : OverlapPolicy) :
    variants.lookup policy.label = some policy := by
  cases policy <;> rfl

theorem Target.lookup_label (target : Target) : variants.lookup target.label = some target := by
  cases target <;> rfl

theorem Strategy.lookup_label (strategy : Strategy) :
    variants.lookup strategy.label = some strategy := by
  cases strategy <;> rfl

namespace SpecFormat

def forms : List (MemberForm SpecFormat) := [
  memberForm "separator" separator fun separator => GivesText separator.label,
  memberForm "commentMarker" commentMarker GivesText,
  memberForm "malformed" malformed fun malformed => GivesText malformed.label]

theorem follows : Follows fields forms where
  fits := by
    refine .cons (fits_fieldDecoder (fun _ _ => decodeChoice_of_gives Separator.lookup_label)
        (fun _ _ => rfl) ?_) <|
      .cons (fits_fieldDecoder (fun _ _ => decodeString_of_gives) (fun _ _ => rfl) ?_) <|
      .cons (fits_fieldDecoder (fun _ _ => decodeChoice_of_gives MalformedPolicy.lookup_label)
        (fun _ _ => rfl) ?_) .nil
    all_goals simp [forms, memberForm]
  distinct := by decide
  ext first second agree := by
    cases first
    cases second
    simpa [forms, memberForm] using agree

def LaysOut (format : SpecFormat) (members : List (String × Json)) : Prop :=
  Json.LaysOut forms {} format members

end SpecFormat

namespace Settings

def forms : List (MemberForm Settings) := [
  memberForm "input" input GivesOptional,
  memberForm "format" format fun format value =>
    ∃ members, value = object members .closed ∧ format.LaysOut members,
  memberForm "target" target fun target => GivesText target.label,
  memberForm "strategy" strategy fun strategy => GivesText strategy.label,
  memberForm "outDir" outDir GivesOptional,
  memberForm "tokenListFile" listFile GivesText,
  memberForm "tokenDataFile" dataFile GivesText,
  memberForm "identifierPrefix" identifierLead GivesText,
  memberForm "kindPath" kindPath GivesText,
  memberForm "namespace" enclosing GivesOptional,
  memberForm "includes" includes GivesTexts,
  memberForm "noMatch" noMatch GivesOptional,
  memberForm "prefixOverlap" overlap fun overlap => GivesText overlap.label]

theorem decodeFormat_of_gives {format : SpecFormat} {value : Json}
    (gives : ∃ members, value = object members .closed ∧ format.LaysOut members) :
    SpecFormat.decode value = .ok format := by
  obtain ⟨members, rfl, laysOut⟩ := gives
  exact decodeRecord_of_laysOut SpecFormat.follows laysOut

theorem follows : Follows fields forms where
  fits := by
    refine .cons (fits_fieldDecoder (fun _ _ => decodeOptional_of_gives) (fun _ _ => rfl) ?_) <|
      .cons (fits_fieldDecoder (fun _ _ => decodeFormat_of_gives) (fun _ _ => rfl) ?_) <|
      .cons (fits_fieldDecoder (fun _ _ => decodeChoice_of_gives Target.lookup_label)
        (fun _ _ => rfl) ?_) <|
      .cons (fits_fieldDecoder (fun _ _ => decodeChoice_of_gives Strategy.lookup_label)
        (fun _ _ => rfl) ?_) <|
      .cons (fits_fieldDecoder (fun _ _ => decodeOptional_of_gives) (fun _ _ => rfl) ?_) <|
      .cons (fits_fieldDecoder (fun _ _ => decodeString_of_gives) (fun _ _ => rfl) ?_) <|
      .cons (fits_fieldDecoder (fun _ _ => decodeString_of_gives) (fun _ _ => rfl) ?_) <|
      .cons (fits_fieldDecoder (fun _ _ => decodeString_of_gives) (fun _ _ => rfl) ?_) <|
      .cons (fits_fieldDecoder (fun _ _ => decodeString_of_gives) (fun _ _ => rfl) ?_) <|
      .cons (fits_fieldDecoder (fun _ _ => decodeOptional_of_gives) (fun _ _ => rfl) ?_) <|
      .cons (fits_fieldDecoder (fun _ _ => decodeStrings_of_gives) (fun _ _ => rfl) ?_) <|
      .cons (fits_fieldDecoder (fun _ _ => decodeOptional_of_gives) (fun _ _ => rfl) ?_) <|
      .cons (fits_fieldDecoder (fun _ _ => decodeChoice_of_gives OverlapPolicy.lookup_label)
        (fun _ _ => rfl) ?_) .nil
    all_goals simp [forms, memberForm]
  distinct := by decide
  ext first second agree := by
    cases first
    cases second
    simpa [forms, memberForm] using agree

def LaysOut (settings : Settings) (members : List (String × Json)) : Prop :=
  Json.LaysOut forms {} settings members

/-- A known name stands twice among the members, or twice in an object that they give for the
format. -/
def Repeats (members : List (String × Json)) : Prop :=
  ¬ (knownNames forms members).Nodup ∨ ∃ inside, ("format", object inside .closed) ∈ members ∧
    ¬ (knownNames SpecFormat.forms inside).Nodup

theorem parse_of_written {members : List (String × Json)} {content : String}
    (written : Written (object members .closed) content) :
    parse content = decode (object members .closed) := by
  rw [parse, read_of_written written, decodeDocument]
  cases decode (object members .closed) <;> rfl

theorem exists_ok_of_map {ε α β : Type} {f : α → β} {result : Except ε α} {value : β}
    (mapped : result.map f = .ok value) : ∃ content, result = .ok content := by
  cases result with
  | error _ => contradiction
  | ok content => exact ⟨content, rfl⟩

theorem not_repeats_of_decode {members : List (String × Json)} {settings : Settings}
    (decoded : decode (object members .closed) = .ok settings) : ¬ Repeats members := by
  have each := decodeMembers_of_decodeRecord decoded
  rintro (again | ⟨inside, member, again⟩)
  · exact again (once_of_decodeMembers follows each).1
  · obtain ⟨before, after, changed⟩ := decode_of_decodeMembers each member rfl
    obtain ⟨format, inner⟩ := exists_ok_of_map changed
    exact again (once_of_decodeMembers SpecFormat.follows (decodeMembers_of_decodeRecord inner)).1

end Settings

end TokenTables
