import PostfixCalculator.Decimal.Shortest

/-!
# Written floating-point numbers

How the digits of a number are laid out. A layout says which numbers are
written with all their places and which with an exponent, and whether a whole
number keeps a point. Two layouts are in use: `plain` for results and messages,
`precise` for listings of the operand stack.
-/

namespace PostfixCalculator
namespace Decimal

/-- The choices that turn digits into text. -/
structure Layout where
  /-- What follows the digits of a whole number. -/
  wholeEnding : String
  /-- The least and the greatest power of ten of a first digit for which the
  number is written with all its places; without bounds every number is. -/
  positional : Option (Int × Int)

/-- Results have all their places and no superfluous point. -/
def plain : Layout := ⟨"", none⟩

/-- Listings keep a point in whole numbers and have an exponent below `0.0001`
and from `10 ^ 16` on. -/
def precise : Layout := ⟨".0", some (-4, 15)⟩

/-- The digits of a natural number in base ten. -/
def digitsOf (count : Nat) : List Char :=
  Nat.toDigits 10 count

/-- A decimal with all its places: zeros fill the places between its digits and
the point. -/
def Layout.writePlaces (layout : Layout) (decimal : Scaled) : String :=
  let digits := digitsOf decimal.count
  if 0 ≤ decimal.scale then
    String.ofList (digits ++ List.replicate decimal.scale.toNat '0') ++ layout.wholeEnding
  else
    let places := (-decimal.scale).toNat
    if places < digits.length then
      String.ofList (digits.take (digits.length - places)) ++ "." ++
        String.ofList (digits.drop (digits.length - places))
    else
      "0." ++ String.ofList (List.replicate (places - digits.length) '0' ++ digits)

/-- A decimal as one digit, the remaining digits after a point, and the power
of ten of the first digit. -/
def writeExponent (decimal : Scaled) : String :=
  let digits := digitsOf decimal.count
  let power := decimal.scale + digits.length - 1
  let fraction := digits.drop 1
  let point := if fraction.isEmpty then "" else "."
  String.ofList (digits.take 1) ++ point ++ String.ofList fraction ++ "e" ++ toString power

/-- A positive decimal in the form that the layout asks for. -/
def Layout.writeScaled (layout : Layout) (decimal : Scaled) : String :=
  let power := decimal.scale + (digitsOf decimal.count).length - 1
  match layout.positional with
  | none => layout.writePlaces decimal
  | some (least, greatest) =>
      if least ≤ power && power ≤ greatest then
        layout.writePlaces decimal
      else
        writeExponent decimal

/-- A floating-point number as text: its sign and its shortest digits. The
undefined value has no sign. -/
def Layout.write (layout : Layout) (number : Float) : String :=
  let sign := if isNegative number then "-" else ""
  match magnitude number with
  | .undefined => "NaN"
  | .infinite => sign ++ "inf"
  | .zero => sign ++ "0" ++ layout.wholeEnding
  | .finite size => sign ++ layout.writeScaled size.shortest

end Decimal
end PostfixCalculator
