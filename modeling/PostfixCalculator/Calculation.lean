import PostfixCalculator.Conversion
import PostfixCalculator.Evaluation
import PostfixCalculator.Token.Lexing

/-!
# Calculating with text

The stages joined: text to tokens, infix to postfix order, postfix to value.
-/

namespace PostfixCalculator

/-- Bring an infix text into postfix order. -/
def convertText (text : String) : Except Fault (List Token) :=
  convert (Token.ofText text)

/-- The value of a text in postfix order. -/
def evaluateText (context : Context) (text : String) : Except Fault Number :=
  evaluate context (Token.ofText text)

/-- The value of an infix text. -/
def calculate (context : Context) (text : String) : Except Fault Number := do
  evaluate context (← convertText text)

/-- The log of a calculation: that of the conversion, and after a successful
one that of the evaluation. -/
def calculationLog (context : Context) (text : String) : List LogLine :=
  let tokens := Token.ofText text
  let evaluated :=
    match convert tokens with
    | .ok converted => evaluationLog context converted
    | .error _ => []
  conversionLog tokens ++ evaluated

/-- Calculate a number of times, up to the first failure. -/
def calculateRepeatedly (context : Context) (text : String) : Nat -> Except Fault Unit
  | 0 => .ok ()
  | count + 1 => do
      let _ ← calculate context text
      calculateRepeatedly context text count

/-- The log of repeated calculations, up to and with the first that fails. -/
def repeatedCalculationLog (context : Context) (text : String) : Nat -> List LogLine
  | 0 => []
  | count + 1 =>
      calculationLog context text ++
        match calculate context text with
        | .ok _ => repeatedCalculationLog context text count
        | .error _ => []

/-- The rank of the operator that a text stands for. -/
def rankOfText (text : String) : Except Fault Nat :=
  match Operator.ofText? text with
  | some operator => .ok operator.rank
  | none => .error (.invalidOperator text)

end PostfixCalculator
