/-!
# Log lines

A log line has a level and a text. Each step of a run is told at the level
`trace`, each finished result at the level `debug`.
-/

namespace PostfixCalculator

/-- How detailed a log line is. -/
inductive LogLevel
  | debug
  | trace
  deriving DecidableEq, Repr

/-- The word for a level in front of a line. -/
def LogLevel.name : LogLevel -> String
  | .debug => "DEBUG"
  | .trace => "TRACE"

/-- One line of a log. -/
structure LogLine where
  level : LogLevel
  text : String
  deriving DecidableEq, Repr

/-- A line as it is shown: its level, a blank and its text. -/
def LogLine.render (line : LogLine) : String :=
  line.level.name ++ " " ++ line.text

end PostfixCalculator
