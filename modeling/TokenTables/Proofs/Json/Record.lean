import Mathlib.Data.List.Nodup
import TokenTables.Json.Decode

/-!
Records as objects. The form of a record says which names its fields have as members, and which
values give what a field holds. Members lay a record out in any order: each known name is given at
most once, a field whose name is not given has its default, and what stands under unknown names does
not matter. A record is decoded from all of its layouts, and no object that gives a known name twice
is decoded.
-/

namespace TokenTables

namespace Json

/-- A field as a member: its name, when two records hold the same in it, and which values give what
a record holds in it. -/
structure MemberForm (ρ : Type) where
  name : String
  Agree : ρ → ρ → Prop
  Gives : ρ → Json → Prop

def memberForm {ρ α : Type} (name : String) (get : ρ → α) (gives : α → Json → Prop) :
    MemberForm ρ where
  name := name
  Agree first second := get first = get second
  Gives record value := gives (get record) value

variable {ρ : Type} {forms : List (MemberForm ρ)} {fields : List (FieldDecoder ρ)}

def knownNames (forms : List (MemberForm ρ)) (members : List (String × Json)) : List String :=
  (members.map Prod.fst).filter (· ∈ forms.map MemberForm.name)

structure LaysOut (forms : List (MemberForm ρ)) (default record : ρ)
    (members : List (String × Json)) : Prop where
  given : ∀ form ∈ forms, ∀ value, (form.name, value) ∈ members → form.Gives record value
  once : (knownNames forms members).Nodup
  omitted : ∀ form ∈ forms, form.name ∉ members.map Prod.fst → form.Agree default record

theorem knownNames_cons_of_known {name : String} (known : name ∈ forms.map MemberForm.name)
    (value : Json) (rest : List (String × Json)) :
    knownNames forms ((name, value) :: rest) = name :: knownNames forms rest :=
  List.filter_cons_of_pos (decide_eq_true known)

theorem knownNames_cons_of_unknown {name : String} (unknown : name ∉ forms.map MemberForm.name)
    (value : Json) (rest : List (String × Json)) :
    knownNames forms ((name, value) :: rest) = knownNames forms rest :=
  List.filter_cons_of_neg (by rwa [decide_eq_true_eq])

theorem laysOut_of_forall₂ {default record : ρ} {members : List (String × Json)}
    (distinct : (forms.map MemberForm.name).Nodup)
    (each : List.Forall₂ (fun form member => member.1 = form.name ∧ form.Gives record member.2)
      forms members) : LaysOut forms default record members := by
  have names : members.map Prod.fst = forms.map MemberForm.name := by
    clear distinct
    induction each with
    | nil => rfl
    | cons first _ ih => rw [List.map_cons, List.map_cons, first.1, ih]
  have owner : ∀ member ∈ members, ∃ form ∈ forms, member.1 = form.name ∧
      form.Gives record member.2 := by
    clear distinct names
    induction each with
    | nil => exact List.forall_mem_nil _
    | @cons form _ _ _ first _ ih =>
      refine List.forall_mem_cons.2 ⟨⟨form, List.mem_cons_self, first⟩, fun member within => ?_⟩
      obtain ⟨found, later, gives⟩ := ih member within
      exact ⟨found, List.mem_cons_of_mem _ later, gives⟩
  refine ⟨fun form member value within => ?_, ?_, fun form member absent => ?_⟩
  · obtain ⟨found, among, same, gives⟩ := owner _ within
    exact List.inj_on_of_nodup_map distinct member among same ▸ gives
  · rw [knownNames, names]
    exact distinct.filter _
  · rw [names] at absent
    exact absurd (List.mem_map_of_mem member) absent

/-! Decoders that follow a form. -/

/-- The decoder of a field puts there what a value gives, and spoils no field of the form. -/
structure Fits (forms : List (MemberForm ρ)) (form : MemberForm ρ) (field : FieldDecoder ρ) :
    Prop where
  name_eq : field.name = form.name
  decode_given : ∀ {record value} current, form.Gives record value →
    ∃ changed, field.decode current value = .ok changed ∧ form.Agree changed record ∧
      ∀ other ∈ forms, other.Agree current record → other.Agree changed record

theorem fits_fieldDecoder {α : Type} {name : String} {get : ρ → α} {gives : α → Json → Prop}
    {decode : Decoder α} {set : ρ → α → ρ}
    (decode_given : ∀ content value, gives content value → decode value = .ok content)
    (get_set : ∀ record content, get (set record content) = content)
    (keeps : ∀ current record, ∀ other ∈ forms, other.Agree current record →
      other.Agree (set current (get record)) record) :
    Fits forms (memberForm name get gives) (fieldDecoder name decode set) where
  name_eq := rfl
  decode_given {record value} current given := by
    refine ⟨set current (get record), ?_, get_set _ _, keeps current record⟩
    show (decode value).map (set current) = _
    rw [decode_given _ _ given]
    rfl

/-- The decoders follow the form field by field, and the form describes the record fully. -/
structure Follows (fields : List (FieldDecoder ρ)) (forms : List (MemberForm ρ)) : Prop where
  fits : List.Forall₂ (Fits forms) forms fields
  distinct : (forms.map MemberForm.name).Nodup
  ext : ∀ first second, (∀ form ∈ forms, form.Agree first second) → first = second

def field? (fields : List (FieldDecoder ρ)) (name : String) : Option (FieldDecoder ρ) :=
  fields.find? fun field => field.name == name

theorem field?_of_fits {among : List (MemberForm ρ)}
    (fits : List.Forall₂ (Fits forms) among fields) (name : String) :
    (field? fields name = none ∧ name ∉ among.map MemberForm.name) ∨
      ∃ form ∈ among, ∃ field, form.name = name ∧ field? fields name = some field ∧
        Fits forms form field := by
  induction fits with
  | nil => exact .inl ⟨rfl, List.not_mem_nil⟩
  | @cons form field _ _ fit _ ih =>
    by_cases here : form.name = name
    · have found : (field.name == name) = true := beq_iff_eq.2 (fit.name_eq.trans here)
      exact .inr ⟨form, List.mem_cons_self, field, here, List.find?_cons_of_pos found, fit⟩
    · have skipped : ¬ (field.name == name) = true := by
        rwa [beq_iff_eq, fit.name_eq]
      rw [field?, List.find?_cons, eq_false_of_ne_true skipped]
      rcases ih with ⟨none, unknown⟩ | ⟨found, member, rest⟩
      · refine .inl ⟨none, ?_⟩
        rw [List.map_cons, List.mem_cons]
        exact fun either => either.elim (fun same => here same.symm) unknown
      · exact .inr ⟨found, List.mem_cons_of_mem _ member, rest⟩

/-! What members are decoded to. -/

section

variable {seen : List String} {current : ρ} {name : String} {value : Json}
  {rest : List (String × Json)}

theorem decodeMembers_cons_unknown (unknown : field? fields name = none) :
    decodeMembers fields seen current ((name, value) :: rest) =
      decodeMembers fields seen current rest := by
  rw [decodeMembers, ← field?, unknown]

theorem decodeMembers_cons_known {field : FieldDecoder ρ}
    (known : field? fields name = some field) :
    decodeMembers fields seen current ((name, value) :: rest) =
      if name ∈ seen then .error (.duplicateField name)
      else field.decode current value >>= fun changed =>
        decodeMembers fields (name :: seen) changed rest := by
  rw [decodeMembers, ← field?, known]
  by_cases again : name ∈ seen
  · simp only [List.contains_eq_mem, again, decide_true, if_true]
    rfl
  · simp only [List.contains_eq_mem, again, decide_false, Bool.false_eq_true, if_false]

theorem decodeMembers_cons_eq_ok {result : ρ}
    (decoded : decodeMembers fields seen current ((name, value) :: rest) = .ok result) :
    (field? fields name = none ∧ decodeMembers fields seen current rest = .ok result) ∨
      ∃ field changed, field? fields name = some field ∧ name ∉ seen ∧
        field.decode current value = .ok changed ∧
        decodeMembers fields (name :: seen) changed rest = .ok result := by
  cases found : field? fields name with
  | none =>
    rw [decodeMembers_cons_unknown found] at decoded
    exact .inl ⟨rfl, decoded⟩
  | some field =>
    rw [decodeMembers_cons_known found] at decoded
    split at decoded
    next => contradiction
    next new =>
      cases first : field.decode current value with
      | error error =>
        rw [first] at decoded
        contradiction
      | ok changed =>
        rw [first] at decoded
        exact .inr ⟨field, changed, rfl, new, first, decoded⟩

end

/-- Members that give a record, no field twice, are decoded. Fields that agree with the record
already still do so in the end, and those that are given agree with it then. -/
theorem decodeMembers_given (follows : Follows fields forms) {record : ρ}
    {members : List (String × Json)}
    (given : ∀ form ∈ forms, ∀ value, (form.name, value) ∈ members → form.Gives record value)
    (once : (knownNames forms members).Nodup) {seen : List String}
    (new : ∀ name ∈ knownNames forms members, name ∉ seen) (current : ρ) :
    ∃ result, decodeMembers fields seen current members = .ok result ∧ ∀ form ∈ forms,
      form.Agree current record ∨ form.name ∈ members.map Prod.fst → form.Agree result record := by
  -- Agreement is only gained, so that a field that is omitted keeps that of its default.
  induction members generalizing seen current with
  | nil =>
    exact ⟨current, rfl, fun form _ either => either.resolve_right List.not_mem_nil⟩
  | cons member rest ih =>
    obtain ⟨name, value⟩ := member
    have later := fun form member value within =>
      given form member value (List.mem_cons_of_mem _ within)
    rcases field?_of_fits follows.fits name with
      ⟨none, unknown⟩ | ⟨form, isForm, field, rfl, known, fit⟩
    · rw [knownNames_cons_of_unknown unknown] at once new
      obtain ⟨result, decoded, agree⟩ := ih later once new current
      refine ⟨result, (decodeMembers_cons_unknown none).trans decoded, fun form member either => ?_⟩
      refine agree form member (either.imp_right fun within => ?_)
      refine (List.mem_cons.1 within).resolve_left fun same => unknown ?_
      exact List.mem_map.2 ⟨form, member, same⟩
    · rw [knownNames_cons_of_known (List.mem_map_of_mem isForm)] at once new
      obtain ⟨notLater, onceLater⟩ := List.nodup_cons.1 once
      obtain ⟨changed, first, gained, kept⟩ :=
        fit.decode_given current (given form isForm value List.mem_cons_self)
      have newLater : ∀ name ∈ knownNames forms rest, name ∉ form.name :: seen := by
        intro name within
        rw [List.mem_cons, not_or]
        exact ⟨fun same => notLater (same ▸ within), new name (List.mem_cons_of_mem _ within)⟩
      obtain ⟨result, decoded, agree⟩ := ih later onceLater newLater changed
      refine ⟨result, ?_, fun other member either => agree other member ?_⟩
      · rw [decodeMembers_cons_known known, if_neg (new _ List.mem_cons_self), first]
        exact decoded
      · rcases either with agreed | within
        · exact .inl (kept other member agreed)
        · refine (List.mem_cons.1 within).imp_left fun same => ?_
          have isSame : other = form :=
            List.inj_on_of_nodup_map follows.distinct member isForm same
          exact isSame ▸ gained

/-- A record is decoded from each of its layouts. -/
theorem decodeRecord_of_laysOut (follows : Follows fields forms) {title : String}
    {default record : ρ} {members : List (String × Json)}
    (laysOut : LaysOut forms default record members) :
    decodeRecord title fields default (object members .closed) = .ok record := by
  obtain ⟨result, decoded, agree⟩ :=
    decodeMembers_given follows laysOut.given laysOut.once (fun _ _ => List.not_mem_nil) default
  have whole : result = record := by
    refine follows.ext _ _ fun form member => agree form member ?_
    by_cases named : form.name ∈ members.map Prod.fst
    · exact .inr named
    · exact .inl (laysOut.omitted form member named)
  rw [decodeRecord, decoded, whole]
  rfl

/-! What has been decoded. -/

theorem once_of_decodeMembers (follows : Follows fields forms) {members : List (String × Json)}
    {seen : List String} {current result : ρ}
    (decoded : decodeMembers fields seen current members = .ok result) :
    (knownNames forms members).Nodup ∧ ∀ name ∈ knownNames forms members, name ∉ seen := by
  induction members generalizing seen current with
  | nil => exact ⟨.nil, List.forall_mem_nil _⟩
  | cons member rest ih =>
    obtain ⟨name, value⟩ := member
    rcases decodeMembers_cons_eq_ok decoded with
      ⟨none, later⟩ | ⟨field, changed, some, new, _, later⟩
    · rcases field?_of_fits follows.fits name with ⟨-, unknown⟩ | ⟨_, _, _, _, known, _⟩
      · rw [knownNames_cons_of_unknown unknown]
        exact ih later
      · exact absurd (none.symm.trans known) (by simp)
    · rcases field?_of_fits follows.fits name with ⟨none, -⟩ | ⟨form, member, _, same, -⟩
      · exact absurd (none.symm.trans some) (by simp)
      · obtain ⟨once, apart⟩ := ih later
        rw [knownNames_cons_of_known (List.mem_map.2 ⟨form, member, same⟩)]
        refine ⟨List.nodup_cons.2 ⟨fun within => ?_, once⟩, ?_⟩
        · exact apart name within List.mem_cons_self
        · refine List.forall_mem_cons.2 ⟨new, fun other within before => ?_⟩
          exact apart other within (List.mem_cons_of_mem _ before)

theorem decode_of_decodeMembers {members : List (String × Json)} {seen : List String}
    {current result : ρ} (decoded : decodeMembers fields seen current members = .ok result)
    {name : String} {value : Json} (member : (name, value) ∈ members) {field : FieldDecoder ρ}
    (known : field? fields name = some field) :
    ∃ before after, field.decode before value = .ok after := by
  induction members generalizing seen current with
  | nil => contradiction
  | cons first rest ih =>
    rcases decodeMembers_cons_eq_ok decoded with
      ⟨none, later⟩ | ⟨found, changed, some, _, here, later⟩
    · rcases List.mem_cons.1 member with rfl | within
      · exact absurd (none.symm.trans known) (by simp)
      · exact ih later within
    · rcases List.mem_cons.1 member with rfl | within
      · exact ⟨current, changed, Option.some.inj (some.symm.trans known) ▸ here⟩
      · exact ih later within

theorem decodeMembers_of_decodeRecord {title : String} {default record : ρ}
    {members : List (String × Json)}
    (decoded : decodeRecord title fields default (object members .closed) = .ok record) :
    decodeMembers fields [] default members = .ok record := by
  cases found : decodeMembers fields [] default members with
  | error error =>
    rw [decodeRecord, found] at decoded
    contradiction
  | ok result =>
    rw [decodeRecord, found] at decoded
    exact decoded

end Json

end TokenTables
