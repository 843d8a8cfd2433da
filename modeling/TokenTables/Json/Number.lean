import TokenTables.Decimal.Shortest

/-!
Numbers as JSON writes them. A number without fraction and exponent is an integer if it fits in 64
bits, signed where it is negative; any other number, and minus zero, is a floating-point number.

The digits of a floating-point number are taken into a 64-bit word as long as they fit, and the
other digits only count as powers of ten. The word is then multiplied or divided once by a power
of ten, so the result can differ in its last place from the nearest number. A result beyond the
finite numbers is refused.
-/

namespace TokenTables

namespace Json

structure Number where
  negative : Bool
  whole : List Char
  fraction : Option (List Char)
  exponent : Option (Bool × List Char)
  deriving DecidableEq, Repr

namespace Number

def digitValue (digit : Char) : Nat := digit.toNat - '0'.toNat

def digitsValue (digits : List Char) : Nat :=
  digits.foldl (fun value digit => 10 * value + digitValue digit) 0

def wordCount : Nat := 0x10000000000000000

def exponentBound : Nat := 0x80000000

def takeDigits (word : Nat) : List Char → Nat × List Char
  | [] => (word, [])
  | digit :: rest =>
    let next := 10 * word + digitValue digit
    if next < wordCount then takeDigits next rest else (word, digit :: rest)

/-- The word that the digits give, and the power of ten that goes with it before the exponent. -/
def parts (number : Number) : Nat × Int :=
  let (word, skipped) := takeDigits 0 number.whole
  let fraction := number.fraction.getD []
  let (word, unused) := takeDigits word fraction
  (word, (skipped.length : Int) - (fraction.length - unused.length))

def integer? (number : Number) : Option Int :=
  if number.fraction.isSome || number.exponent.isSome then none
  else
    let value := digitsValue number.whole
    if number.negative then
      if 0 < value ∧ 2 * value ≤ wordCount then some (-(value : Int)) else none
    else if value < wordCount then some value
    else none

def powerOfTen (power : Nat) : Float := Float.ofScientific 1 false power

/-- Divides by a power of ten, at most by 10^308 at a time. -/
def scaleDown (value : Float) (power : Nat) : Float :=
  if power ≤ 308 then value / powerOfTen power
  else if value == 0 then value
  else scaleDown (value / powerOfTen 308) (power - 308)
termination_by power

def scale? (word : Nat) (power : Int) : Option Float :=
  let value := (UInt64.ofNat word).toFloat
  if power < 0 then some (scaleDown value (-power).toNat)
  else if word = 0 then some 0
  else if 308 < power then none
  else
    let scaled := value * powerOfTen power.toNat
    if scaled.isInf then none else some scaled

/-- The floating-point number. An exponent that does not fit in 31 bits makes it zero or too large
at once. -/
def float? (number : Number) : Option Float :=
  let (word, power) := number.parts
  let size : Option Float :=
    match number.exponent with
    | none => scale? word power
    | some (negative, digits) =>
      let exponent := digitsValue digits
      if exponent < exponentBound then
        scale? word (if negative then power - exponent else power + exponent)
      else if word = 0 || negative then some 0
      else none
  size.map fun value => if number.negative then -value else value

def described? (number : Number) : Option String :=
  match number.integer? with
  | some value => some ("integer `" ++ toString value ++ "`")
  | none => number.float?.map fun value =>
    "floating point `" ++ Decimal.textOfFloat value ++ "`"

end Number

end Json

end TokenTables
