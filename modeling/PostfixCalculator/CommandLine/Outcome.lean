import PostfixCalculator.CommandLine.Request

/-!
# What a run of the program comes to

Arguments either make a request that is answered, or make a request that fails, or
are refused. Reading them is left to a library, so it is a parameter here, and so is
what is shown of a refusal. An answer is printed and the exit code is 0. A fault is told
apart from it and the exit code is 1.
-/

namespace PostfixCalculator
namespace CommandLine

variable {Refusal : Type}

/-- What arguments come to. -/
inductive Outcome (Refusal : Type)
  /-- The arguments make no request. -/
  | refused (refusal : Refusal)
  /-- The request fails. -/
  | failed (fault : Fault)
  /-- The request is answered. -/
  | answered (report : Report)

/-- What is seen of a run from outside, apart from its log. -/
structure Display where
  exitCode : UInt32
  output : String
  complaint : String
  deriving DecidableEq

/-- What is printed of an outcome, and its exit code. Of a benchmark the time is
printed apart. -/
def Outcome.display (refuse : Refusal -> Display) : Outcome Refusal -> Display
  | .refused refusal => refuse refusal
  | .failed fault => ⟨1, "", fault.message ++ "\n"⟩
  | .answered report => ⟨0, report.text, ""⟩

/-- The outcome of answering a request. -/
def Request.outcome (request : Request) : Outcome Refusal :=
  match request.answer with
  | .ok report => .answered report
  | .error fault => .failed fault

/-- The outcome of some arguments. -/
def Outcome.ofArguments
    (read : List String -> Except Refusal Request)
    (arguments : List String) : Outcome Refusal :=
  match read arguments with
  | .ok request => request.outcome
  | .error refusal => .refused refusal

end CommandLine
end PostfixCalculator
