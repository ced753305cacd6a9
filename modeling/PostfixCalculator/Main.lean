import PostfixCalculator.CommandLine.Arguments

/-!
# The program

Prints what the arguments come to, what is to be shown of the log, and for a benchmark
the time that it took.
-/

namespace PostfixCalculator
namespace CommandLine

/-- A span of time in nanoseconds as a number of seconds. -/
def secondsOf (nanoseconds : Nat) : Float :=
  Float.ofNat nanoseconds / 1000000000.0

/-- The time that a benchmark took, in all and for each run. -/
def timing (count nanoseconds : Nat) : String :=
  let seconds := secondsOf nanoseconds
  let average := seconds * 1000.0 / Float.ofNat (max count 1)
  ", Time: " ++ Decimal.plain.write seconds ++ "s, Average Time per run: " ++
    Decimal.plain.write average ++ "ms\n"

/-- Print what is to be shown of the log. -/
def showLog (arguments : List String) : IO Unit :=
  match Request.ofArguments arguments with
  | .ok request => request.shownLog.forM fun line => IO.eprintln line.render
  | .error _ => pure ()

/-- Print what the arguments come to. -/
def run (arguments : List String) : IO UInt32 := do
  showLog arguments
  let begun ← IO.monoNanosNow
  let outcome := Outcome.ofArguments Request.ofArguments arguments
  let display := outcome.display UsageFault.display
  IO.eprint display.complaint
  IO.print display.output
  match outcome with
  | .answered (.runs count) =>
      let ended ← IO.monoNanosNow
      IO.print (timing count (ended - begun))
  | _ => pure ()
  return display.exitCode

end CommandLine
end PostfixCalculator

def main (arguments : List String) : IO UInt32 :=
  PostfixCalculator.CommandLine.run arguments
