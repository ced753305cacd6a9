import PostfixCalculator.Decimal.Literal

/-!
# Bindings on the command line

A binding is written `name=value`. The first `=` separates the two, the name
has small letters only and at least one, and the value is a floating-point
literal. The checks are made in this order, and the first that fails is told.
-/

namespace PostfixCalculator
namespace CommandLine

/-- A name and the value that it gets. -/
structure Binding where
  name : String
  value : Float
  deriving DecidableEq

/-- Why an argument is no binding. -/
inductive BindingFault
  | missingSeparator (argument : String)
  | badName (name : String)
  | badValue (name : String) (fault : Decimal.LiteralFault)
  deriving DecidableEq

/-- The wording of a fault. -/
def BindingFault.message : BindingFault -> String
  | .missingSeparator argument => "expected NAME=VALUE, got '" ++ argument ++ "'"
  | .badName name => "variable names are lowercase letters only: '" ++ name ++ "'"
  | .badValue name fault => "bad value for '" ++ name ++ "': " ++ fault.message

/-- What stands before and after the first `=`, if there is one. -/
def splitAtEquals? (characters : List Char) : Option (List Char × List Char) :=
  match characters.dropWhile (· != '=') with
  | _ :: rest => some (characters.takeWhile (· != '='), rest)
  | [] => none

/-- Whether a name can be bound: it has small letters only and at least one. -/
def isVariableName (name : List Char) : Bool :=
  !name.isEmpty && name.all Char.isLower

/-- Read a binding. -/
def Binding.ofArgument (argument : String) : Except BindingFault Binding :=
  match splitAtEquals? argument.toList with
  | none => .error (.missingSeparator argument)
  | some (name, value) =>
      if isVariableName name then
        match Decimal.read (String.ofList value) with
        | .ok number => .ok ⟨String.ofList name, number⟩
        | .error fault => .error (.badValue (String.ofList name) fault)
      else
        .error (.badName (String.ofList name))

end CommandLine
end PostfixCalculator
