import Mathlib.Tactic.Common
import TokenTables.Text.Literal

/-!
ASCII texts and their bytes. A text is told by its UTF-8 bytes, and the two tests for ASCII, of
characters and of bytes, accept the same texts: a character beyond ASCII starts with a byte
beyond ASCII.
-/

namespace TokenTables

def IsAsciiText (text : String) : Prop := ∀ c ∈ text.toList, c.toNat < asciiCount

instance : DecidablePred IsAsciiText := fun text =>
  inferInstanceAs (Decidable (∀ c ∈ text.toList, c.toNat < asciiCount))

theorem firstNonAscii_eq_none_iff (text : String) :
    firstNonAscii text = none ↔ IsAsciiText text := by
  simp [firstNonAscii, IsAsciiText, List.find?_eq_none]

theorem utf8Bytes_injective : Function.Injective utf8Bytes := by
  intro first second same
  have bytes : first.toList.utf8Encode = second.toList.utf8Encode :=
    congrArg List.toByteArray same
  have texts : String.ofList first.toList = String.ofList second.toList :=
    String.toByteArray_inj.1 bytes
  rwa [String.ofList_toList, String.ofList_toList] at texts

theorem isAscii_ofNat {code : Nat} (byte : code < 256) :
    isAscii (UInt8.ofNat code) = decide (code < asciiCount) := by
  rw [isAscii, UInt8.toNat_ofNat_of_lt' byte]

theorem utf8EncodeChar_ascii_iff (c : Char) :
    (∀ byte ∈ String.utf8EncodeChar c, isAscii byte = true) ↔ c.toNat < asciiCount := by
  have beyond : ∀ lead, 0xC0 ≤ lead → lead < 256 → ¬ isAscii (UInt8.ofNat lead) = true := by
    intro lead low high
    rw [isAscii_ofNat high, asciiCount, decide_eq_true_iff]
    omega
  simp only [String.utf8EncodeChar, Char.toNat]
  split
  next one =>
    rw [List.forall_mem_singleton, isAscii_ofNat (by omega), decide_eq_true_iff]
  next more =>
    have large : ¬ c.val.toNat < asciiCount := by rw [asciiCount]; omega
    refine iff_of_false (fun ascii => ?_) large
    split at ascii
    next => exact beyond _ (by omega) (by omega) (ascii _ List.mem_cons_self)
    next =>
      split at ascii
      next => exact beyond _ (by omega) (by omega) (ascii _ List.mem_cons_self)
      next => exact beyond _ (by omega) (by omega) (ascii _ List.mem_cons_self)

theorem utf8Bytes_ascii_iff (text : String) :
    (∀ byte ∈ utf8Bytes text, isAscii byte = true) ↔ IsAsciiText text := by
  simp only [utf8Bytes, List.forall_mem_flatMap]
  exact forall₂_congr fun c _ => utf8EncodeChar_ascii_iff c

theorem utf8Bytes_eq_nil_iff (text : String) : utf8Bytes text = [] ↔ text = "" := by
  constructor
  · intro nothing
    exact utf8Bytes_injective (nothing.trans rfl)
  · rintro rfl
    rfl

theorem zero_ne_ofNat {code : Nat} (byte : code < 256) (positive : 0 < code) :
    0 ≠ UInt8.ofNat code := by
  intro same
  have numbers := congrArg UInt8.toNat same
  rw [UInt8.toNat_ofNat_of_lt' byte] at numbers
  exact absurd numbers (Nat.ne_of_lt positive)

/-- Only the zero character has a zero byte: the bytes of the longer forms are 0x80 at least. -/
theorem zero_notMem_utf8EncodeChar {c : Char} (other : c ≠ '\x00') :
    0 ∉ String.utf8EncodeChar c := by
  have positive : 0 < c.val.toNat := by
    apply Nat.pos_of_ne_zero
    intro zero
    exact other (Char.toNat_inj.1 zero)
  simp only [String.utf8EncodeChar]
  split
  next => simp (disch := omega) only [List.mem_singleton, zero_ne_ofNat, not_false_eq_true]
  next =>
    split
    next =>
      simp (disch := omega) only [List.mem_cons, zero_ne_ofNat, List.not_mem_nil, or_self,
        not_false_eq_true]
    next =>
      split
      next =>
        simp (disch := omega) only [List.mem_cons, zero_ne_ofNat, List.not_mem_nil, or_self,
          not_false_eq_true]
      next =>
        simp (disch := omega) only [List.mem_cons, zero_ne_ofNat, List.not_mem_nil, or_self,
          not_false_eq_true]

theorem zero_notMem_utf8Bytes {text : String} (zeroFree : '\x00' ∉ text.toList) :
    0 ∉ utf8Bytes text := by
  intro member
  obtain ⟨c, inside, here⟩ := List.mem_flatMap.1 member
  have other : c ≠ '\x00' := fun same => zeroFree (same ▸ inside)
  exact zero_notMem_utf8EncodeChar other here

end TokenTables
