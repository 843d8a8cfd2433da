import Mathlib
import TokenTables.Proofs.Spec.LineContent
import TokenTables.Proofs.Token.Declaring
import TokenTables.Proofs.Token.Spelled

/-!
Every line is accounted for. A line that is neither blank nor a comment comes to exactly one thing:
a declaration, or a diagnostic that it has no name, that a quote in it is not closed, or that its
name is declared already. Only a warning of further fields can come beside the first and the last of
these. What has been read is the sum of what the lines come to, so the first line that names a token
declares it.
-/

namespace TokenTables

def numberedLines (source : String) : List (Nat × String) :=
  (textLines source).zipIdx.map fun (text, position) => (position + 1, text)

structure Diagnostic.Tells (diagnostic : Diagnostic) (file : Option String) (line code : Nat) :
    Prop where
  file : diagnostic.file = file
  line : diagnostic.line = some line
  code : diagnostic.code = code

/-- What one line adds to the vocabulary and to the report. -/
structure LineAccount where
  line : Nat
  text : String
  declared : List Declaration
  told : List Diagnostic

structure NamedFields (format : SpecFormat) (text : String) (first : Field)
    (others : List Field) : Prop where
  content : ¬PassedOver format text
  split : Field.split format.separator.character text.toList = .ok (first :: others)
  named : CanName first.text

def NamesToken (format : SpecFormat) (text name : String) : Prop :=
  ∃ first others, NamedFields format text first others ∧ first.text = name

def ToldExtraFields (file : Option String) (line : Nat) (others : List Field)
    (warnings : List Diagnostic) : Prop :=
  if 2 ≤ others.length then
    ∃ warning, warnings = [warning] ∧ warning.Tells file line 1003 ∧ warning.category = .warning
  else warnings = []

/-- What a line may come to. The vocabulary is the one that is read in the end. -/
inductive Accounted (format : SpecFormat) (file : Option String) (vocabulary : Vocabulary) :
    LineAccount → Prop
  | passedOver {line : Nat} {text : String} (passed : PassedOver format text) :
      Accounted format file vocabulary ⟨line, text, [], []⟩
  | nameless {line : Nat} {text : String} {fields : List Field} {told : Diagnostic}
      (content : ¬PassedOver format text)
      (split : Field.split format.separator.character text.toList = .ok fields)
      (noName : ∀ first ∈ fields.head?, ¬CanName first.text)
      (tells : told.Tells file line 1001) :
      Accounted format file vocabulary ⟨line, text, [], [told]⟩
  | unterminated {line : Nat} {text : String} {fields : List Field} {told : Diagnostic}
      (content : ¬PassedOver format text)
      (split : Field.split format.separator.character text.toList = .error ⟨fields⟩)
      (tells : told.Tells file line 1004) :
      Accounted format file vocabulary ⟨line, text, [], [told]⟩
  | recorded {line : Nat} {text : String} {first : Field} {others : List Field}
      {warnings : List Diagnostic} (named : NamedFields format text first others)
      (extra : ToldExtraFields file line others warnings) :
      Accounted format file vocabulary
        ⟨line, text, [.make first.text (others.head?.map Field.spelling) line], warnings⟩
  | repeated {line : Nat} {text : String} {first : Field} {others : List Field}
      {warnings : List Diagnostic} {holder : Declaration} {told note : Diagnostic}
      (named : NamedFields format text first others)
      (extra : ToldExtraFields file line others warnings)
      (held : holder ∈ vocabulary.declarations) (sameName : holder.name = first.text)
      (earlier : holder.line < line) (tells : told.Tells file line 2001)
      (related : told.related = [note]) (notes : note.Tells file holder.line 2002) :
      Accounted format file vocabulary ⟨line, text, [], warnings ++ [told]⟩

/-- The accounts of all lines of a source, and what they come to together. -/
structure Accounts (format : SpecFormat) (file : Option String) (source : String)
    (reading : Reading) (accounts : List LineAccount) : Prop where
  lines : (accounts.map fun account => (account.line, account.text)) = numberedLines source
  accounted : ∀ account ∈ accounts, Accounted format file reading.vocabulary account
  declarations : reading.vocabulary.declarations = accounts.flatMap LineAccount.declared
  report : reading.report = accounts.flatMap LineAccount.told
  declaredInOrder : reading.vocabulary.declarations.Pairwise fun first second =>
    first.line < second.line
  toldInOrder : reading.report.Pairwise fun first second =>
    first.line.getD 0 ≤ second.line.getD 0
  distinct : reading.vocabulary.names.Nodup
  settled : ∀ declaration ∈ reading.vocabulary.declarations,
    CanName declaration.name ∧ declaration.spelling ≠ some ""
  named : ∀ name, name ∈ reading.vocabulary.names ↔
    ∃ account ∈ accounts, NamesToken format account.text name
  first : ∀ declaration ∈ reading.vocabulary.declarations,
    IsLeast {line | ∃ account ∈ accounts, account.line = line ∧
      NamesToken format account.text declaration.name} declaration.line

variable {format : SpecFormat} {file : Option String}

/-! One line. -/

namespace Reading

theorem exists_extraFields (reading : Reading) (file : Option String) (line : Nat)
    (others : List Field) (name : String) :
    ∃ warnings, reading.noteExtraFields file line (others.length + 1) name =
        ⟨reading.vocabulary, reading.report ++ warnings⟩ ∧
      ToldExtraFields file line others warnings := by
  by_cases more : 2 ≤ others.length
  · have many : 2 < others.length + 1 := by omega
    rw [noteExtraFields, if_pos many]
    refine ⟨_, rfl, ?_⟩
    rw [ToldExtraFields, if_pos more]
    exact ⟨_, rfl, ⟨rfl, rfl, rfl⟩, rfl⟩
  · have few : ¬2 < others.length + 1 := by omega
    rw [noteExtraFields, if_neg few]
    refine ⟨[], by rw [List.append_nil], ?_⟩
    rw [ToldExtraFields, if_neg more]

theorem lineOf_ofNat {vocabulary : Vocabulary} (few : vocabulary.size ≤ UInt32.size)
    {position : Nat} {first : Declaration}
    (held : vocabulary.declarations[position]? = some first) :
    lineOf vocabulary (TokenId.ofNat position) = first.line := by
  rw [lineOf, Vocabulary.get?_ofNat few held]
  rfl

/-- A line adds what its account says, and its account is one of those that there are. -/
theorem accounted_readLine (format : SpecFormat) (file : Option String) {reading : Reading}
    {line : Nat} (text : String)
    (few : reading.vocabulary.size ≤ UInt32.size)
    (earlier : ∀ declaration ∈ reading.vocabulary.declarations, declaration.line < line) :
    ∃ account : LineAccount, account.line = line ∧ account.text = text ∧
      Accounted format file (reading.readLine format file line text).vocabulary account ∧
      (reading.readLine format file line text).vocabulary.declarations =
        reading.vocabulary.declarations ++ account.declared ∧
      (reading.readLine format file line text).report = reading.report ++ account.told := by
  unfold readLine
  by_cases passed : PassedOver format text
  · rw [LineContent.ofLine_passedOver passed]
    exact ⟨_, rfl, rfl, .passedOver passed, (List.append_nil _).symm, (List.append_nil _).symm⟩
  cases split : Field.split format.separator.character text.toList with
  | error unterminated =>
    rw [LineContent.ofLine_unterminated passed split]
    exact ⟨_, rfl, rfl, .unterminated passed split ⟨rfl, rfl, rfl⟩, (List.append_nil _).symm, rfl⟩
  | ok fields =>
    by_cases noName : ∀ first ∈ fields.head?, ¬CanName first.text
    · rw [LineContent.ofLine_nameless passed split noName]
      refine ⟨_, rfl, rfl, .nameless passed split noName ⟨rfl, rfl, ?_⟩,
        (List.append_nil _).symm, rfl⟩
      cases format.malformed <;> rfl
    · simp only [not_forall, not_not] at noName
      rcases noName with ⟨first, head, name⟩
      cases fields with
      | nil => contradiction
      | cons _ others =>
        cases head
        have named : NamedFields format text first others := ⟨passed, split, name⟩
        rcases reading.exists_extraFields file line others first.text with ⟨warnings, noted, extra⟩
        rw [LineContent.ofLine_token passed split name, addContent, noted, declare]
        generalize made : Declaration.make first.text (others.head?.map Field.spelling) line =
          declaration
        have madeName : declaration.name = first.text := made ▸ rfl
        by_cases taken : declaration.name ∈ reading.vocabulary.names
        · rcases Vocabulary.declare_taken taken with ⟨position, holder, refused, held, sameName⟩
          have member := List.mem_of_getElem? held
          have firstLine := lineOf_ofNat few held
          simp only [refused]
          exact ⟨_, rfl, rfl, .repeated named extra member (sameName.trans madeName)
            (earlier holder member) ⟨rfl, made ▸ rfl, rfl⟩ rfl ⟨rfl, congrArg some firstLine, rfl⟩,
            (List.append_nil _).symm, List.append_assoc ..⟩
        · rcases Vocabulary.declare_fresh taken with ⟨grown, declared, grownBy⟩
          simp only [declared]
          subst made
          exact ⟨_, rfl, rfl, .recorded named extra, grownBy, rfl⟩

end Reading

/-! All lines. -/

theorem Accounted.grow {vocabulary grown : Vocabulary} {account : LineAccount}
    (accounted : Accounted format file vocabulary account)
    (larger : vocabulary.declarations ⊆ grown.declarations) :
    Accounted format file grown account := by
  cases accounted with
  | passedOver passed => exact .passedOver passed
  | nameless content split noName tells => exact .nameless content split noName tells
  | unterminated content split tells => exact .unterminated content split tells
  | recorded named extra => exact .recorded named extra
  | repeated named extra held sameName earlier tells related notes =>
    exact .repeated named extra (larger held) sameName earlier tells related notes

theorem Accounted.declared_line {vocabulary : Vocabulary} {account : LineAccount}
    (accounted : Accounted format file vocabulary account) :
    ∀ declaration ∈ account.declared, declaration.line = account.line := by
  cases accounted with
  | recorded => exact List.forall_mem_singleton.2 rfl
  | _ => exact fun _ nothing => absurd nothing List.not_mem_nil

theorem Accounted.declared_length {vocabulary : Vocabulary} {account : LineAccount}
    (accounted : Accounted format file vocabulary account) : account.declared.length ≤ 1 := by
  cases accounted with
  | recorded => exact Nat.le_refl 1
  | _ => exact Nat.zero_le 1

theorem Accounted.declared_pairwise {vocabulary : Vocabulary} {account : LineAccount}
    (accounted : Accounted format file vocabulary account)
    (relation : Declaration → Declaration → Prop) : account.declared.Pairwise relation := by
  cases accounted with
  | recorded => exact List.pairwise_singleton ..
  | _ => exact List.Pairwise.nil

theorem ToldExtraFields.line {line : Nat} {others : List Field} {warnings : List Diagnostic}
    (extra : ToldExtraFields file line others warnings) :
    ∀ warning ∈ warnings, warning.line = some line := by
  unfold ToldExtraFields at extra
  split at extra
  next =>
    rcases extra with ⟨warning, rfl, tells, _⟩
    exact List.forall_mem_singleton.2 tells.line
  next =>
    subst extra
    exact fun _ nothing => absurd nothing List.not_mem_nil

theorem Accounted.told_line {vocabulary : Vocabulary} {account : LineAccount}
    (accounted : Accounted format file vocabulary account) :
    ∀ diagnostic ∈ account.told, diagnostic.line = some account.line := by
  cases accounted with
  | passedOver => exact fun _ nothing => absurd nothing List.not_mem_nil
  | nameless _ _ _ tells => exact List.forall_mem_singleton.2 tells.line
  | unterminated _ _ tells => exact List.forall_mem_singleton.2 tells.line
  | recorded _ extra => exact extra.line
  | repeated _ extra _ _ _ tells =>
    exact List.forall_mem_append.2 ⟨extra.line, List.forall_mem_singleton.2 tells.line⟩

/-- Reading lines from `start` on, with everything declared so far on earlier lines. Accounts are
given for the vocabulary in the end, so those of earlier lines grow with it. -/
theorem Reading.exists_accounts (format : SpecFormat) (file : Option String)
    (lines : List String) (start : Nat) (reading : Reading)
    (few : start + lines.length ≤ UInt32.size) (size : reading.vocabulary.size ≤ start)
    (earlier : ∀ declaration ∈ reading.vocabulary.declarations, declaration.line ≤ start) :
    ∃ accounts : List LineAccount, ∃ result, (lines.zipIdx start).foldl
        (fun reading (text, position) => reading.readLine format file (position + 1) text)
        reading = result ∧
      (accounts.map fun account => (account.line, account.text)) =
        ((lines.zipIdx start).map fun (text, position) => (position + 1, text)) ∧
      (∀ account ∈ accounts, Accounted format file result.vocabulary account) ∧
      result.vocabulary.declarations =
        reading.vocabulary.declarations ++ accounts.flatMap LineAccount.declared ∧
      result.report = reading.report ++ accounts.flatMap LineAccount.told := by
  induction lines generalizing start reading with
  | nil => exact ⟨[], reading, rfl, rfl, by simp, by simp, by simp⟩
  | cons text lines ih =>
    rw [List.length_cons] at few
    have before : ∀ declaration ∈ reading.vocabulary.declarations, declaration.line < start + 1 :=
      fun declaration held => Nat.lt_succ_of_le (earlier declaration held)
    rcases accounted_readLine format file text (by omega) before with
      ⟨account, line, sameText, accounted, declared, told⟩
    generalize read : reading.readLine format file (start + 1) text = next
      at accounted declared told
    have own := accounted.declared_length
    have nextSize : next.vocabulary.size ≤ start + 1 := by
      have grown := congrArg List.length declared
      rw [List.length_append] at grown
      simp only [Vocabulary.size] at size ⊢
      omega
    have nextEarlier : ∀ declaration ∈ next.vocabulary.declarations,
        declaration.line ≤ start + 1 := by
      rw [declared, List.forall_mem_append]
      exact ⟨fun declaration held => Nat.le_of_lt (before declaration held),
        fun declaration new =>
          Nat.le_of_eq ((accounted.declared_line declaration new).trans line)⟩
    rcases ih (start + 1) next (by omega) nextSize nextEarlier with
      ⟨accounts, result, run, sameLines, later, wholeDeclared, wholeTold⟩
    refine ⟨account :: accounts, result, ?_, ?_, ?_, ?_, ?_⟩
    · rw [List.zipIdx_cons, List.foldl_cons]
      simp only [read]
      exact run
    · rw [List.map_cons, List.zipIdx_cons, List.map_cons, sameLines, line, sameText]
    · rw [List.forall_mem_cons]
      refine ⟨accounted.grow ?_, later⟩
      rw [wholeDeclared]
      exact List.subset_append_left ..
    · rw [wholeDeclared, declared, List.flatMap_cons, List.append_assoc]
    · rw [wholeTold, told, List.flatMap_cons, List.append_assoc]

theorem numberedLines_ascending (source : String) :
    (numberedLines source).Pairwise fun first second => first.1 < second.1 := by
  have positions := List.pairwise_lt_range' (s := 0) (n := (textLines source).length)
  rw [← List.zipIdx_map_snd, List.pairwise_map] at positions
  rw [numberedLines, List.pairwise_map]
  exact positions.imp Nat.succ_lt_succ

/-- A line that names a token records it, or comes after the line that did. -/
theorem Accounted.of_namesToken {vocabulary : Vocabulary} {account : LineAccount} {name : String}
    (accounted : Accounted format file vocabulary account)
    (names : NamesToken format account.text name) :
    (∃ declaration ∈ account.declared, declaration.name = name) ∨
      ∃ holder ∈ vocabulary.declarations, holder.name = name ∧ holder.line < account.line := by
  rcases names with ⟨first, others, fields, rfl⟩
  cases accounted with
  | passedOver passed => exact absurd passed fields.content
  | nameless content split noName tells =>
    cases split.symm.trans fields.split
    exact absurd fields.named (noName first rfl)
  | unterminated content split tells => cases split.symm.trans fields.split
  | recorded named extra =>
    cases named.split.symm.trans fields.split
    exact .inl ⟨_, List.mem_singleton_self _, rfl⟩
  | repeated named extra held sameName earlier tells related notes =>
    cases named.split.symm.trans fields.split
    exact .inr ⟨_, held, sameName, earlier⟩

theorem Accounted.of_declared {vocabulary : Vocabulary} {account : LineAccount}
    {declaration : Declaration} (accounted : Accounted format file vocabulary account)
    (declared : declaration ∈ account.declared) :
    NamesToken format account.text declaration.name := by
  cases accounted with
  | recorded named extra =>
    rw [List.mem_singleton.1 declared]
    exact ⟨_, _, named, rfl⟩
  | _ => exact absurd declared List.not_mem_nil

/-! What the accounts come to. -/

section Sum

variable {reading : Reading} {accounts : List LineAccount}
  (accounted : ∀ account ∈ accounts, Accounted format file reading.vocabulary account)
  (whole : reading.vocabulary.declarations = accounts.flatMap LineAccount.declared)
  (report : reading.report = accounts.flatMap LineAccount.told)
  (ascending : accounts.Pairwise fun first second => first.line < second.line)

include accounted whole

theorem exists_account {declaration : Declaration}
    (held : declaration ∈ reading.vocabulary.declarations) :
    ∃ account ∈ accounts, account.line = declaration.line ∧
      NamesToken format account.text declaration.name := by
  rw [whole] at held
  rcases List.mem_flatMap.1 held with ⟨account, member, own⟩
  exact ⟨account, member, ((accounted account member).declared_line declaration own).symm,
    (accounted account member).of_declared own⟩

theorem exists_holder {account : LineAccount} (member : account ∈ accounts) {name : String}
    (names : NamesToken format account.text name) :
    ∃ holder ∈ reading.vocabulary.declarations, holder.name = name ∧
      holder.line ≤ account.line := by
  rcases (accounted account member).of_namesToken names with own | older
  · rcases own with ⟨declaration, new, same⟩
    refine ⟨declaration, ?_, same, ?_⟩
    · rw [whole]
      exact List.mem_flatMap.2 ⟨account, member, new⟩
    · exact Nat.le_of_eq ((accounted account member).declared_line declaration new)
  · rcases older with ⟨holder, held, same, earlier⟩
    exact ⟨holder, held, same, Nat.le_of_lt earlier⟩

include ascending in
theorem declared_ascending : reading.vocabulary.declarations.Pairwise fun first second =>
    first.line < second.line := by
  rw [whole, List.pairwise_flatMap]
  refine ⟨fun account member => (accounted account member).declared_pairwise _,
    ascending.imp_of_mem ?_⟩
  intro first second heldFirst heldSecond before earlier own later other
  rw [(accounted first heldFirst).declared_line earlier own,
    (accounted second heldSecond).declared_line later other]
  exact before

omit whole in
include report ascending in
theorem told_ascending : reading.report.Pairwise fun first second =>
    first.line.getD 0 ≤ second.line.getD 0 := by
  rw [report, List.pairwise_flatMap]
  refine ⟨fun account member => ?_, ascending.imp_of_mem ?_⟩
  · refine List.pairwise_of_forall_mem_list fun first own second other => ?_
    rw [(accounted account member).told_line first own,
      (accounted account member).told_line second other]
  · intro first second heldFirst heldSecond before earlier own later other
    rw [(accounted first heldFirst).told_line earlier own,
      (accounted second heldSecond).told_line later other]
    exact Nat.le_of_lt before

theorem mem_names_iff_exists_line (name : String) : name ∈ reading.vocabulary.names ↔
    ∃ account ∈ accounts, NamesToken format account.text name := by
  rw [Vocabulary.names, List.mem_map]
  apply Iff.intro
  · intro declared
    rcases declared with ⟨declaration, held, same⟩
    rcases exists_account accounted whole held with ⟨account, member, _, names⟩
    exact ⟨account, member, same ▸ names⟩
  · intro line
    rcases line with ⟨account, member, names⟩
    rcases exists_holder accounted whole member names with ⟨holder, held, same, _⟩
    exact ⟨holder, held, same⟩

theorem isLeast_line {declaration : Declaration}
    (held : declaration ∈ reading.vocabulary.declarations) :
    IsLeast {line | ∃ account ∈ accounts, account.line = line ∧
      NamesToken format account.text declaration.name} declaration.line := by
  refine ⟨exists_account accounted whole held, ?_⟩
  intro line named
  rcases named with ⟨account, member, sameLine, names⟩
  rcases exists_holder accounted whole member names with ⟨holder, older, same, earlier⟩
  rw [← sameLine, List.inj_on_of_nodup_map reading.vocabulary.distinct held older same.symm]
  exact earlier

end Sum

/-- Every line of a source is accounted for, and what is read is what the lines come to. -/
theorem readSpec_accounts (format : SpecFormat) (file : Option String) (source : String)
    (few : (textLines source).length < UInt32.size) :
    ∃ accounts, Accounts format file source (readSpec format file source) accounts := by
  rcases Reading.exists_accounts format file (textLines source) 0 Reading.start (by omega)
    (Nat.le_refl 0) (fun _ nothing => absurd nothing List.not_mem_nil) with
    ⟨accounts, reading, run, lines, accounted, whole, report⟩
  have result : readSpec format file source = reading := run
  rw [result]
  have ascending : accounts.Pairwise fun first second => first.line < second.line := by
    have numbers := numberedLines_ascending source
    rw [numberedLines, ← lines, List.pairwise_map] at numbers
    exact numbers
  refine ⟨accounts, ?_⟩
  exact {
    lines := lines
    accounted := accounted
    declarations := whole
    report := report
    declaredInOrder := declared_ascending accounted whole ascending
    toldInOrder := told_ascending accounted report ascending
    distinct := reading.vocabulary.distinct
    settled := by
      intro declaration held
      rcases exists_account accounted whole held with ⟨_, _, _, first, _, fields, same⟩
      exact ⟨same ▸ fields.named, declaration.spelling_ne_empty⟩
    named := mem_names_iff_exists_line accounted whole
    first := fun _ held => isLeast_line accounted whole held }

def repeatingSource : String := "//\nA\n\nA,b,c\n,\n\"x"

theorem repeatingSource_accounts : (textLines repeatingSource).length < UInt32.size ∧
    (readSpec ⟨.comma, "//", .abort⟩ none repeatingSource).vocabulary.declarations =
      [.make "A" none 2] ∧
    (readSpec ⟨.comma, "//", .abort⟩ none repeatingSource).report.map (fun told =>
      (told.line, told.code, told.related.map Diagnostic.line)) =
      [(some 4, 1003, []), (some 4, 2001, [some 2]), (some 5, 1001, []), (some 6, 1004, [])] ∧
    ∃ accounts, Accounts ⟨.comma, "//", .abort⟩ none repeatingSource
      (readSpec ⟨.comma, "//", .abort⟩ none repeatingSource) accounts := by
  have read : (fun reading : Reading => (reading.vocabulary.declarations,
      reading.report.map fun told => (told.line, told.code, told.related.map Diagnostic.line)))
        (readSpec ⟨.comma, "//", .abort⟩ none repeatingSource) =
      ([.make "A" none 2],
        [(some 4, 1003, []), (some 4, 2001, [some 2]), (some 5, 1001, []), (some 6, 1004, [])]) := by
    cbv
  exact ⟨by decide, congrArg Prod.fst read, congrArg Prod.snd read,
    readSpec_accounts ⟨.comma, "//", .abort⟩ none repeatingSource (by decide)⟩

end TokenTables
