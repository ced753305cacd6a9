/-!
# Reading floating-point literals

A literal is an optional sign followed by `inf`, `infinity` or `nan` in any
letter case, or by decimal digits with an optional point and an optional
exponent. At least one digit stands before or after the point, and at least one
in an exponent. Nothing else may surround it, blanks included.

Reading goes through `Literal`, so that what is accepted and what value it has
stay apart. The value is the nearest floating-point number, the even one of two
equally near, and infinity beyond the largest.
-/

namespace PostfixCalculator
namespace Decimal

/-- What a literal says apart from its sign. A number is the natural number
that its `digits` denote times `10 ^ scale`. -/
inductive LiteralBody
  | infinity
  | undefined
  | number (digits : List Char) (scale : Int)
  deriving DecidableEq, Repr

/-- A literal that has been read. -/
structure Literal where
  negative : Bool
  body : LiteralBody
  deriving DecidableEq, Repr

/-- Why a text is no literal. -/
inductive LiteralFault
  | empty
  | malformed
  deriving DecidableEq, Repr

/-- The wording of a fault. -/
def LiteralFault.message : LiteralFault -> String
  | .empty => "cannot parse float from empty string"
  | .malformed => "invalid float literal"

/-- The natural number that a list of decimal digits denotes. -/
def digitsValue (digits : List Char) : Nat :=
  digits.foldl (fun value digit => 10 * value + (digit.toNat - '0'.toNat)) 0

/-- An optional sign at the start, and what follows it. -/
def splitSign : List Char -> Bool × List Char
  | '-' :: rest => (true, rest)
  | '+' :: rest => (false, rest)
  | rest => (false, rest)

/-- A whole number of at least one digit with an optional sign. -/
def wholeNumber? (characters : List Char) : Option Int :=
  let (negative, digits) := splitSign characters
  if digits.isEmpty || !digits.all Char.isDigit then
    none
  else if negative then
    some (-(digitsValue digits : Int))
  else
    some (digitsValue digits)

/-- The power of ten that the end of a literal asks for: none at all, or `e`
or `E` with a whole number. -/
def exponentPart? : List Char -> Option Int
  | [] => some 0
  | 'e' :: rest | 'E' :: rest => wholeNumber? rest
  | _ => none

/-- The digits after a point at the start, and what follows them. -/
def splitFraction : List Char -> List Char × List Char
  | '.' :: rest => (rest.takeWhile Char.isDigit, rest.dropWhile Char.isDigit)
  | rest => ([], rest)

/-- Digits with an optional point and an optional exponent. -/
def numberBody? (characters : List Char) : Option LiteralBody :=
  let whole := characters.takeWhile Char.isDigit
  let (fraction, rest) := splitFraction (characters.dropWhile Char.isDigit)
  if (whole ++ fraction).isEmpty then
    none
  else
    (exponentPart? rest).map fun exponent =>
      .number (whole ++ fraction) (exponent - fraction.length)

/-- One of the words for an infinite or undefined value, in any letter case. -/
def wordBody? (characters : List Char) : Option LiteralBody :=
  let word := characters.map Char.toLower
  if word = "inf".toList || word = "infinity".toList then
    some .infinity
  else if word = "nan".toList then
    some .undefined
  else
    none

/-- Read a literal. -/
def Literal.ofText (text : String) : Except LiteralFault Literal :=
  if text.toList.isEmpty then
    .error .empty
  else
    let (negative, rest) := splitSign text.toList
    match numberBody? rest <|> wordBody? rest with
    | some body => .ok ⟨negative, body⟩
    | none => .error .malformed

/-- The floating-point number nearest to what a literal says, its sign aside. -/
def LiteralBody.value : LiteralBody -> Float
  | .infinity => 1.0 / 0.0
  | .undefined => 0.0 / 0.0
  | .number digits scale =>
      Float.ofScientific (digitsValue digits) (scale < 0) scale.natAbs

/-- The floating-point number that a literal stands for. -/
def Literal.value (literal : Literal) : Float :=
  if literal.negative then
    -literal.body.value
  else
    literal.body.value

/-- The floating-point number that a text stands for. -/
def read (text : String) : Except LiteralFault Float :=
  (Literal.ofText text).map Literal.value

end Decimal
end PostfixCalculator
