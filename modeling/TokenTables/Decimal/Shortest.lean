/-!
Shortest decimal text of a binary floating-point number. A positive finite number is m · 2^q, and
the reals that round to it form an interval around it, whose ends belong to it if m is even. Of
the decimal numbers in that interval the one with the fewest digits is written, and of two such
the nearer one; a tie goes to the even digit. For each count of digits it is enough to look at the
two neighbours of the number on the grid of decimals with that many digits: if any point of the
grid lies in the interval, one of the two does.
-/

namespace TokenTables

namespace Decimal

structure Scaled where
  digits : Nat
  exponent : Int
  deriving DecidableEq, Repr

structure Ratio where
  numerator : Nat
  denominator : Nat

namespace Ratio

def scaled (count base : Nat) (exponent : Int) : Ratio :=
  if 0 ≤ exponent then ⟨count * Nat.pow base exponent.toNat, 1⟩
  else ⟨count, Nat.pow base (-exponent).toNat⟩

def le (first second : Ratio) : Bool :=
  first.numerator * second.denominator ≤ second.numerator * first.denominator

def lt (first second : Ratio) : Bool :=
  first.numerator * second.denominator < second.numerator * first.denominator

def distance (first second : Ratio) : Ratio :=
  let here := first.numerator * second.denominator
  let there := second.numerator * first.denominator
  ⟨(here - there) + (there - here), first.denominator * second.denominator⟩

end Ratio

/-- The number m · 2^q with the bounds of the reals that round to it. All three are counted in
quarters of the last binary place, since below a power of two the lower neighbour is nearer. -/
structure Binary where
  significand : Nat
  exponent : Int
  tight : Bool

namespace Binary

def fractionBound : Nat := 0x10000000000000

def signBound : Nat := 0x8000000000000000

def ofBits (bits : Nat) : Binary :=
  let fraction := bits % fractionBound
  let biased := bits / fractionBound
  if biased = 0 then ⟨fraction, -1074, false⟩
  else ⟨fractionBound + fraction, (biased : Int) - 1075, fraction = 0 && 1 < biased⟩

def quarters (number : Binary) (count : Nat) : Ratio :=
  Ratio.scaled count 2 (number.exponent - 2)

def value (number : Binary) : Ratio := number.quarters (4 * number.significand)

def lower (number : Binary) : Ratio :=
  number.quarters (4 * number.significand - if number.tight then 1 else 2)

def upper (number : Binary) : Ratio := number.quarters (4 * number.significand + 2)

def admits (number : Binary) (decimal : Ratio) : Bool :=
  if number.significand % 2 = 0 then number.lower.le decimal && decimal.le number.upper
  else number.lower.lt decimal && decimal.lt number.upper

def magnitude (number : Binary) : Int :=
  let candidates := (List.range 640).map fun (shift : Nat) => (shift : Int) - 325
  (candidates.find? fun candidate => number.value.lt (Ratio.scaled 1 10 candidate)).getD 315

/-- The better of the neighbours of the number among the decimals of `count` digits, if one of
them rounds to it. -/
def onGrid? (number : Binary) (count : Nat) : Option Scaled :=
  let exponent := number.magnitude - count
  let unit := Ratio.scaled 1 10 exponent
  let below := (number.value.numerator * unit.denominator) /
    (number.value.denominator * unit.numerator)
  let offset (digits : Nat) : Ratio := number.value.distance (Ratio.scaled digits 10 exponent)
  let admitted (digits : Nat) : Bool := number.admits (Ratio.scaled digits 10 exponent)
  let above := below + 1
  match admitted below, admitted above with
  | false, false => none
  | true, false => some ⟨below, exponent⟩
  | false, true => some ⟨above, exponent⟩
  | true, true =>
    if (offset below).lt (offset above) then some ⟨below, exponent⟩
    else if (offset above).lt (offset below) then some ⟨above, exponent⟩
    else if below % 2 = 0 then some ⟨below, exponent⟩
    else some ⟨above, exponent⟩

/-- Seventeen digits always identify a number. -/
def shortest (number : Binary) : Scaled :=
  (((List.range 17).findSome? fun count => number.onGrid? (count + 1))).getD ⟨0, 0⟩

end Binary

def Scaled.trimmed (decimal : Scaled) : List Char × Int :=
  let digits := decimal.digits.repr.toList
  let zeros := (digits.reverse.takeWhile (· == '0')).length
  (digits.take (digits.length - zeros), decimal.exponent + zeros)

/-- Positional from 10^-5 up to 10^16, with a point and at least one digit on both sides of it;
outside with one digit before the point and an exponent. -/
def Scaled.text (decimal : Scaled) : String :=
  let (digits, exponent) := decimal.trimmed
  let point := digits.length + exponent
  String.ofList <|
    if 0 ≤ exponent && point ≤ 16 then
      digits ++ List.replicate exponent.toNat '0' ++ ['.', '0']
    else if 0 < point && point ≤ 16 then
      digits.take point.toNat ++ '.' :: digits.drop point.toNat
    else if -5 < point && point ≤ 0 then
      '0' :: '.' :: List.replicate (-point).toNat '0' ++ digits
    else
      let power := 'e' :: (toString (point - 1)).toList
      match digits with
      | [digit] => digit :: power
      | digit :: others => digit :: '.' :: others ++ power
      | [] => power

def textOfFloat (number : Float) : String :=
  let bits := number.toBits.toNat
  let sign := if bits < Binary.signBound then "" else "-"
  let magnitude := bits % Binary.signBound
  if magnitude = 0 then sign ++ "0.0"
  else sign ++ (Binary.ofBits magnitude).shortest.text

end Decimal

end TokenTables
