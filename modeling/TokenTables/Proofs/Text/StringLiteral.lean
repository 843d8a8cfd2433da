import Mathlib
import TokenTables.Proofs.Text.Ascii
import TokenTables.Proofs.Text.LiteralReading

/-!
String literals read by the rules of C. A literal that was written for a text is read to its closing
quote and no further. What it is read as are the bytes of the text, but for one case: a zero byte is
written as the escape of one digit, and a reader draws up to two octal digits that follow it into
that escape. So the texts that are read back are those where no octal digit follows a zero byte, and
two such texts have different literals.
-/

namespace TokenTables

namespace Literal

theorem readOctal_length_le (more value : Nat) (input : List Char) :
    (readOctal more value input).2.length ≤ input.length := by
  fun_induction readOctal more value input with
  | case1 more value c rest digit _ ih =>
    simp only [List.length_cons]
    omega
  | case2 => exact Nat.le_refl _
  | case3 => exact Nat.le_refl _

theorem readByte_shorter {quote : Char} {input rest : List Char} {byte : UInt8}
    (found : readByte quote input = some (byte, rest)) : rest.length < input.length := by
  fun_cases readByte quote input with
  | case1 => simp [readByte] at found
  | case2 => simp [readByte] at found
  | case3 escaped after named named_eq =>
    simp only [readByte, if_true, named_eq, Option.some.injEq, Prod.mk.injEq] at found
    simp only [← found.2, List.length_cons]
    omega
  | case4 escaped after unnamed =>
    simp only [readByte, if_true, unnamed, readOctalEscape] at found
    obtain ⟨digit, _, value⟩ := Option.bind_eq_some_iff.1 found
    have bound := readOctal_length_le 2 digit after
    split at value
    next =>
      simp only [Option.some.injEq, Prod.mk.injEq] at value
      rw [← value.2]
      simp only [List.length_cons]
      omega
    next => contradiction
  | case5 c after notEscape plain =>
    simp only [readByte, if_neg notEscape, if_pos plain, Option.some.injEq, Prod.mk.injEq] at found
    simp [← found.2]
  | case6 c after notEscape special =>
    simp [readByte, if_neg notEscape, if_neg special] at found

def readBytes : List Char → Option (List UInt8 × List Char)
  | '"' :: after => some ([], after)
  | input =>
    match _next : readByte '"' input with
    | some (byte, rest) => (readBytes rest).map fun (bytes, after) => (byte :: bytes, after)
    | none => none
termination_by input => input.length
decreasing_by exact readByte_shorter _next

def readString : List Char → Option (List UInt8 × List Char)
  | '"' :: rest => readBytes rest
  | _ => none

theorem readBytes_quote (after : List Char) : readBytes ('"' :: after) = some ([], after) := by
  rw [readBytes]

theorem readBytes_of_readByte {input rest : List Char} {byte : UInt8}
    (next : readByte '"' input = some (byte, rest)) :
    readBytes input = (readBytes rest).map fun (bytes, after) => (byte :: bytes, after) := by
  conv_lhs => unfold readBytes
  split
  next after => simp [readByte] at next
  next =>
    split
    next other remaining found =>
      obtain ⟨rfl, rfl⟩ := Prod.mk.inj (Option.some.inj (found.symm.trans next))
      rfl
    next missing => simp [missing] at next

/-! What a zero byte draws in. -/

def octalDigit? (byte : UInt8) : Option Nat := octalValue? (Char.ofUInt8 byte)

def drawOctal : Nat → Nat → List UInt8 → Nat × List UInt8
  | more + 1, value, byte :: rest =>
    match octalDigit? byte with
    | some digit => drawOctal more (8 * value + digit) rest
    | none => (value, byte :: rest)
  | _, value, rest => (value, rest)

theorem drawOctal_length_le (more value : Nat) (bytes : List UInt8) :
    (drawOctal more value bytes).2.length ≤ bytes.length := by
  fun_induction drawOctal more value bytes with
  | case1 more value byte rest digit _ ih =>
    simp only [List.length_cons]
    omega
  | case2 => exact Nat.le_refl _
  | case3 => exact Nat.le_refl _

theorem octalDigit?_lt {byte : UInt8} {digit : Nat} (found : octalDigit? byte = some digit) :
    digit < 8 := by
  unfold octalDigit? octalValue? at found
  split at found
  next bounds =>
    have value := Option.some.inj found
    have zero : '0'.toNat = 48 := by decide
    have seven : '7'.toNat = 55 := by decide
    omega
  next => contradiction

theorem drawOctal_lt (more value : Nat) (bytes : List UInt8) :
    (drawOctal more value bytes).1 < 8 ^ more * (value + 1) := by
  have start : ∀ more value : Nat, value < 8 ^ more * (value + 1) := fun more value =>
    Nat.lt_of_lt_of_le (Nat.lt_succ_self value)
      (Nat.le_mul_of_pos_left _ (Nat.pow_pos (by decide)))
  fun_induction drawOctal more value bytes with
  | case1 more value byte rest digit found ih =>
    have small := octalDigit?_lt found
    calc (drawOctal more (8 * value + digit) rest).1
        < 8 ^ more * (8 * value + digit + 1) := ih
      _ ≤ 8 ^ more * (8 * (value + 1)) := Nat.mul_le_mul_left _ (by omega)
      _ = 8 ^ (more + 1) * (value + 1) := by rw [Nat.pow_succ, Nat.mul_assoc]
  | case2 => exact start ..
  | case3 => exact start ..

/-- What the bytes of a text are read as from its literal: a zero byte draws in the octal digits
that follow it, two at most, and any other byte is read as itself. -/
def asRead : List UInt8 → List UInt8
  | [] => []
  | byte :: rest =>
    if byte = 0 then UInt8.ofNat (drawOctal 2 0 rest).1 :: asRead (drawOctal 2 0 rest).2
    else byte :: asRead rest
termination_by bytes => bytes.length
decreasing_by
  · have shorter := drawOctal_length_le 2 0 rest
    simp only [List.length_cons]
    omega
  · simp only [List.length_cons]
    omega

def ZeroApart (bytes : List UInt8) : Prop :=
  bytes.IsChain fun byte next => byte = 0 → octalDigit? next = none

instance : DecidablePred ZeroApart := fun bytes =>
  inferInstanceAs (Decidable (bytes.IsChain _))

/-- A byte is written as the digit that it is the code of, or else starts with no digit. -/
theorem escape_digit (byte : UInt8) :
    (∃ digit, octalDigit? byte = some digit ∧ escape '"' byte = [Char.ofUInt8 byte]) ∨
      octalDigit? byte = none ∧
        ∃ first more, escape '"' byte = first :: more ∧ octalValue? first = none := by
  have backslash : octalValue? '\\' = none := by decide
  unfold octalDigit? escape
  split
  next same => exact .inr ⟨by rw [same]; decide, _, _, rfl, backslash⟩
  next same => exact .inr ⟨by rw [same]; decide, _, _, rfl, backslash⟩
  next same => exact .inr ⟨by rw [same]; decide, _, _, rfl, backslash⟩
  next same => exact .inr ⟨by rw [same]; decide, _, _, rfl, backslash⟩
  next same => exact .inr ⟨by rw [same]; decide, _, _, rfl, backslash⟩
  next =>
    split
    next same => exact .inr ⟨by rw [same]; decide, _, _, rfl, backslash⟩
    next =>
      split
      next unprintable =>
        have noDigit : octalValue? (Char.ofUInt8 byte) = none := by
          have zero : '0'.toNat = 48 := by decide
          have seven : '7'.toNat = 55 := by decide
          rw [octalValue?, ofUInt8_toNat, if_neg (by omega)]
        exact .inr ⟨noDigit, _, _, rfl, backslash⟩
      next =>
        cases value : octalValue? (Char.ofUInt8 byte) with
        | some digit => exact .inl ⟨digit, rfl, rfl⟩
        | none => exact .inr ⟨rfl, _, _, rfl, value⟩

theorem readOctal_escaped (more value : Nat) (bytes : List UInt8) (after : List Char) :
    readOctal more value (bytes.flatMap (escape '"') ++ '"' :: after) =
      ((drawOctal more value bytes).1,
        (drawOctal more value bytes).2.flatMap (escape '"') ++ '"' :: after) := by
  induction more generalizing value bytes with
  | zero => simp [readOctal, drawOctal]
  | succ more ih =>
    cases bytes with
    | nil =>
      have quote : octalValue? '"' = none := by decide
      simp [readOctal, drawOctal, quote]
    | cons byte rest =>
      rcases escape_digit byte with ⟨digit, found, written⟩ | ⟨noDigit, first, more, written, stop⟩
      · have read : octalValue? (Char.ofUInt8 byte) = some digit := found
        simp only [List.flatMap_cons, written, List.cons_append, List.nil_append, readOctal, read,
          drawOctal, found, ih]
      · simp only [drawOctal, noDigit, List.flatMap_cons, written, List.cons_append, readOctal,
          stop]

theorem readByte_zero (bytes : List UInt8) (after : List Char) :
    readByte '"' (escape '"' 0 ++ (bytes.flatMap (escape '"') ++ '"' :: after)) =
      some (UInt8.ofNat (drawOctal 2 0 bytes).1,
        (drawOctal 2 0 bytes).2.flatMap (escape '"') ++ '"' :: after) := by
  have zero : octalValue? '0' = some 0 := by decide
  have fits : (drawOctal 2 0 bytes).1 < UInt8.size :=
    Nat.lt_trans (drawOctal_lt 2 0 bytes) (by decide)
  change readOctalEscape '0' (bytes.flatMap (escape '"') ++ '"' :: after) = _
  rw [readOctalEscape, zero, Option.bind_some, readOctal_escaped]
  exact if_pos fits

theorem readBytes_escaped (bytes : List UInt8) (after : List Char) :
    readBytes (bytes.flatMap (escape '"') ++ '"' :: after) = some (asRead bytes, after) := by
  fun_induction asRead bytes with
  | case1 => exact readBytes_quote after
  | case2 rest ih =>
    rw [List.flatMap_cons, List.append_assoc, readBytes_of_readByte (readByte_zero rest after), ih]
    rfl
  | case3 byte rest notZero ih =>
    have next : readByte '"' (escape '"' byte ++ (rest.flatMap (escape '"') ++ '"' :: after)) =
        some (byte, rest.flatMap (escape '"') ++ '"' :: after) :=
      readByte_escape (by decide) byte fun zero => absurd zero notZero
    rw [List.flatMap_cons, List.append_assoc, readBytes_of_readByte next, ih]
    rfl

theorem readString_string (text : String) (after : List Char) :
    readString ((string text).toList ++ after) = some (asRead (utf8Bytes text), after) := by
  have contents : (string text).toList ++ after =
      '"' :: ((utf8Bytes text).flatMap (escape '"') ++ '"' :: after) := by
    simp only [string, String.toList_ofList, List.cons_append, List.append_assoc, List.nil_append]
  rw [contents, readString, readBytes_escaped]

/-! When the bytes are read as themselves. -/

theorem asRead_length_le (bytes : List UInt8) : (asRead bytes).length ≤ bytes.length := by
  fun_induction asRead bytes with
  | case1 => exact Nat.le_refl _
  | case2 rest ih =>
    have shorter := drawOctal_length_le 2 0 rest
    simp only [List.length_cons]
    omega
  | case3 byte rest _ ih =>
    simp only [List.length_cons]
    omega

/-- What is drawn into another byte is lost from the bytes that are read. -/
theorem asRead_zero_digit {next : UInt8} {digit : Nat} (drawn : octalDigit? next = some digit)
    (rest : List UInt8) : asRead (0 :: next :: rest) ≠ 0 :: next :: rest := by
  intro same
  have lengths := congrArg List.length same
  have read := asRead_length_le (drawOctal 1 digit rest).2
  have taken := drawOctal_length_le 1 digit rest
  simp only [asRead, if_true, drawOctal, drawn, Nat.mul_zero, Nat.zero_add, List.length_cons]
    at lengths
  omega

theorem asRead_eq_self_iff (bytes : List UInt8) : asRead bytes = bytes ↔ ZeroApart bytes := by
  unfold ZeroApart
  induction bytes with
  | nil => simp [asRead]
  | cons byte rest ih =>
    cases rest with
    | nil =>
      have single : asRead [byte] = [byte] := by
        by_cases zero : byte = 0
        · subst zero
          simp [asRead, drawOctal]
        · simp [asRead, zero]
      simp [single]
    | cons next rest =>
      rw [List.isChain_cons_cons, ← ih]
      by_cases zero : byte = 0
      · subst zero
        cases drawn : octalDigit? next with
        | some digit => simp [asRead_zero_digit drawn]
        | none =>
          rw [asRead, if_pos rfl]
          simp [drawOctal, drawn]
      · rw [asRead, if_neg zero]
        simp [zero]

theorem asRead_of_zero_notMem {bytes : List UInt8} (zeroFree : 0 ∉ bytes) :
    asRead bytes = bytes := by
  induction bytes with
  | nil => rw [asRead]
  | cons byte rest ih =>
    rw [List.mem_cons, not_or] at zeroFree
    rw [asRead, if_neg (Ne.symm zeroFree.1), ih zeroFree.2]

/-- The literal of every text is read to its closing quote, and it is read as the bytes of the text
just if no octal digit follows a zero byte there. So literals tell such texts apart. -/
theorem readString_string_iff (text : String) :
    (∀ after, readString ((string text).toList ++ after) = some (asRead (utf8Bytes text), after)) ∧
      (asRead (utf8Bytes text) = utf8Bytes text ↔ ZeroApart (utf8Bytes text)) ∧
      ∀ other, ZeroApart (utf8Bytes text) → ZeroApart (utf8Bytes other) →
        string text = string other → text = other := by
  refine ⟨readString_string text, asRead_eq_self_iff _, fun other apart otherApart same => ?_⟩
  have read := readString_string text []
  rw [same, readString_string other [], (asRead_eq_self_iff _).2 apart,
    (asRead_eq_self_iff _).2 otherApart] at read
  exact (utf8Bytes_injective (Prod.mk.inj (Option.some.inj read)).1).symm

theorem readString_string_zero_letter :
    ZeroApart (utf8Bytes "é\x00a") ∧
      readString (string "é\x00a").toList = some ([195, 169, 0, 97], []) := by
  have apart : ZeroApart (utf8Bytes "é\x00a") := by decide
  have read := (readString_string_iff "é\x00a").1 []
  rw [List.append_nil, (readString_string_iff "é\x00a").2.1.2 apart] at read
  exact ⟨apart, read⟩

/-- A zero byte and two digits are read as one byte, and their literal is that of this byte. -/
theorem readString_string_zero_digits :
    utf8Bytes "\x0001" = [0, 48, 49] ∧
      readString (string "\x0001").toList = some ([1], []) ∧
      string "\x0001" = string "\x01" ∧ "\x0001" ≠ "\x01" := by
  have read := readString_string "\x0001" []
  refine ⟨by decide, ?_, by decide, by decide⟩
  rw [List.append_nil] at read
  rw [read]
  cbv

end Literal

end TokenTables
