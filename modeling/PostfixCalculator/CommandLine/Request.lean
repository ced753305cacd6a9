import PostfixCalculator.Calculation
import PostfixCalculator.CommandLine.Binding

/-!
# Requests

What a command line asks for, and the answer. A request holds the bindings to
make before anything is evaluated, how much of the log is to be shown, and one
command.
-/

namespace PostfixCalculator
namespace CommandLine

/-- What is to be done, and with which text. -/
inductive Command
  | reorder (text : String)
  | evaluate (text : String)
  | calculate (text : String)
  | benchmark (runs : Nat) (text : String)
  deriving DecidableEq, Repr

/-- A command, the bindings that hold for it, and how often more detail is asked
for. -/
structure Request where
  bindings : List Binding
  verbosity : Nat
  command : Command

/-- The answer to a request that succeeded. -/
inductive Report
  | line (text : String)
  | runs (count : Nat)
  deriving DecidableEq, Repr

/-- An answer as it is printed. Of a benchmark only the number of runs is told
here, because the time it took is not a function of the request. -/
def Report.text : Report -> String
  | .line text => text ++ "\n"
  | .runs count => "Runs: " ++ toString count

/-- The context that holds the constants and then the bindings in order. -/
def contextOf (bindings : List Binding) : Context :=
  Context.standard.bindAll
    (bindings.map fun binding => (binding.name, .ordinary binding.value))

/-- A value as the answer to a request. -/
def Report.ofValue (value : Number) : Report :=
  .line (value.write Decimal.plain)

/-- Answer a command in a context. -/
def Command.answer (context : Context) : Command -> Except Fault Report
  | .reorder text =>
      (convertText text).map fun tokens => .line (Token.textOfList tokens)
  | .evaluate text => (evaluateText context text).map Report.ofValue
  | .calculate text => (PostfixCalculator.calculate context text).map Report.ofValue
  | .benchmark runs text =>
      (calculateRepeatedly context text runs).map fun _ => .runs runs

/-- The log of answering a command. -/
def Command.log (context : Context) : Command -> List LogLine
  | .reorder text => conversionLog (Token.ofText text)
  | .evaluate text => evaluationLog context (Token.ofText text)
  | .calculate text => calculationLog context text
  | .benchmark runs text => repeatedCalculationLog context text runs

/-- Answer a request. -/
def Request.answer (request : Request) : Except Fault Report :=
  request.command.answer (contextOf request.bindings)

/-- The log of answering a request. -/
def Request.log (request : Request) : List LogLine :=
  request.command.log (contextOf request.bindings)

/-- A binding in a listing: its quoted name and its value. -/
def Binding.inspect (binding : Binding) : String :=
  "(" ++ Text.quote binding.name ++ ", " ++ Decimal.precise.write binding.value ++ ")"

/-- A command in a listing: its name and its parts. -/
def Command.inspect : Command -> String
  | .reorder text => "Postfix \x7b expr: " ++ Text.quote text ++ " \x7d"
  | .evaluate text => "Eval \x7b postfix: " ++ Text.quote text ++ " \x7d"
  | .calculate text => "Calc \x7b expr: " ++ Text.quote text ++ " \x7d"
  | .benchmark runs text =>
      "Bench \x7b runs: " ++ toString runs ++ ", expr: " ++ Text.quote text ++ " \x7d"

/-- A request in a listing. -/
def Request.inspect (request : Request) : String :=
  "Args \x7b vars: [" ++ ", ".intercalate (request.bindings.map Binding.inspect) ++
    "], verbose: " ++ toString request.verbosity ++
    ", command: " ++ request.command.inspect ++ " \x7d"

/-- What is shown of a log if more detail is asked for so often. -/
def shownOf (verbosity : Nat) (log : List LogLine) : List LogLine :=
  match verbosity with
  | 0 => []
  | 1 => []
  | 2 => log.filter (·.level = .debug)
  | _ => log

/-- What is shown of the log: the request itself comes first. -/
def Request.shownLog (request : Request) : List LogLine :=
  shownOf request.verbosity (⟨.debug, request.inspect⟩ :: request.log)

end CommandLine
end PostfixCalculator
