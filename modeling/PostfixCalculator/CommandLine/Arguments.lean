import PostfixCalculator.CommandLine.Outcome

/-!
# Reading command-line arguments

What reads the arguments is a parameter of `Outcome.ofArguments`, and what is
said of a command line is said of any reader that follows the rules. This is the
reader that the program is run with.

The arguments name a subcommand. Bindings and the verbosity flag may stand
before or after it; the text that the subcommand works on stands after it. If
there are bindings on both sides, only those after the subcommand count, and
likewise the flags. A flag or the subcommand `help` asks for help instead.

Arguments are read from left to right. An argument that still waits for its
value, or whose value has not been checked, is pending, and it is settled when
the next option or text begins or the arguments end. So the order in which
faults are found is that of the settling, not that of the arguments: what
follows an option may be found wrong before the value of that option is. What
is pending when the subcommand begins is settled after all that follows it.
-/

namespace PostfixCalculator
namespace CommandLine

/-- Why arguments make no request. -/
inductive UsageFault
  /-- Help is asked for. -/
  | helpWanted
  /-- The version is asked for. -/
  | versionWanted
  /-- There are no arguments that ask for anything. -/
  | nothingGiven
  /-- There are options and no subcommand. -/
  | missingSubcommand
  /-- A subcommand is expected, and the argument names none. -/
  | unknownSubcommand
  /-- An option does not exist here, or there is one text too many. -/
  | unknownArgument
  /-- The subcommand has no text to work on. -/
  | missingText
  /-- An option has no value. -/
  | missingValue
  /-- The value of an option is not of its form. -/
  | rejectedValue
  /-- A flag has a value. -/
  | unexpectedValue
  /-- An option stands twice that can stand once. -/
  | repeatedOption
  deriving DecidableEq, Repr

/-- The wording of a fault in the arguments. -/
def UsageFault.message : UsageFault -> String
  | .helpWanted => "usage: [--var NAME=VALUE] [-v] postfix|eval|calc|bench [-r RUNS] TEXT"
  | .versionWanted => "version 0.1.0"
  | .nothingGiven => "a subcommand is needed: postfix, eval, calc or bench"
  | .missingSubcommand => "the options need a subcommand: postfix, eval, calc or bench"
  | .unknownSubcommand => "there is no such subcommand"
  | .unknownArgument => "there is an argument that has no place here"
  | .missingText => "the subcommand needs an expression"
  | .missingValue => "an option needs a value"
  | .rejectedValue => "the value of an option has a wrong form"
  | .unexpectedValue => "a flag takes no value"
  | .repeatedOption => "an option is given twice"

/-- What is shown of a fault in the arguments. Help is printed with exit code 0, and
the exit code of any other is 2. -/
def UsageFault.display : UsageFault -> Display
  | .helpWanted => ⟨0, UsageFault.helpWanted.message ++ "\n", ""⟩
  | .versionWanted => ⟨0, UsageFault.versionWanted.message ++ "\n", ""⟩
  | fault => ⟨2, "", "error: " ++ fault.message ++ "\n"⟩

/-- The subcommands. -/
inductive Subcommand
  | reorder
  | evaluate
  | calculate
  | benchmark
  deriving DecidableEq, Repr

/-- The subcommand of a name. -/
def Subcommand.ofName? : String -> Option Subcommand
  | "postfix" => some .reorder
  | "eval" => some .evaluate
  | "calc" => some .calculate
  | "bench" => some .benchmark
  | _ => none

/-- Whether an argument could begin a command: it names a subcommand or asks
for help. -/
def beginsCommand (argument : String) : Bool :=
  argument == "help" || (Subcommand.ofName? argument).isSome

/-- What the arguments after `help` come to: at most one of them, the name of
what help is wanted for. -/
def helpOn : List String -> UsageFault
  | [] => .helpWanted
  | [argument] => if beginsCommand argument then .helpWanted else .unknownSubcommand
  | _ => .unknownSubcommand

/-- The options that have no value. -/
inductive Flag
  | verbose
  | help
  | version
  deriving DecidableEq, Repr

/-- The options that have a value. -/
inductive ValueOption
  | binding
  | runs
  deriving DecidableEq, Repr

/-- What the name of an option can mean. -/
inductive Switch
  | flag (flag : Flag)
  | value (option : ValueOption)
  deriving DecidableEq, Repr

/-- Where arguments are read: before the subcommand, or after it. -/
abbrev Scope := Option Subcommand

/-- The option of a long name. -/
def Switch.ofLong? (scope : Scope) (name : String) : Option Switch :=
  if name = "var" then
    some (.value .binding)
  else if name = "verbose" then
    some (.flag .verbose)
  else if name = "help" then
    some (.flag .help)
  else if name = "version" ∧ scope = none then
    some (.flag .version)
  else if name = "runs" ∧ scope = some .benchmark then
    some (.value .runs)
  else
    none

/-- The option of a one-letter name. -/
def Switch.ofShort? (scope : Scope) (letter : Char) : Option Switch :=
  if letter = 'v' then
    some (.flag .verbose)
  else if letter = 'h' then
    some (.flag .help)
  else if letter = 'V' ∧ scope = none then
    some (.flag .version)
  else if letter = 'r' ∧ scope = some .benchmark then
    some (.value .runs)
  else
    none

/-- An argument that has been read and not been checked. An option without a
value waits for it. -/
inductive Pending
  | option (option : ValueOption) (value : Option String)
  | text (text : String)
  deriving DecidableEq, Repr

/-- What has been read. -/
structure Reading where
  /-- The bindings settled, in order. -/
  bindings : List Binding
  /-- The number of runs, if it is settled. -/
  runs : Option Nat
  /-- The text to work on, if it is settled. -/
  text : Option String
  /-- The argument to settle next. -/
  pending : Option Pending
  /-- Whether the options have been ended by `--`. -/
  ended : Bool
  /-- Whether an option has been settled. -/
  anyOption : Bool
  /-- How many verbosity flags have been read, to the greatest number of 8 bits. -/
  verbosity : Nat

namespace Reading

/-- Nothing has been read. -/
def start : Reading :=
  ⟨[], none, none, none, false, false, 0⟩

/-- Whether an option waits for its value. -/
def awaitsValue (reading : Reading) : Bool :=
  match reading.pending with
  | some (.option _ none) => true
  | _ => false

/-- Whether a text has been read, settled or not. -/
def hasText (reading : Reading) : Bool :=
  match reading.pending with
  | some (.text _) => true
  | _ => reading.text.isSome

/-- A number of runs: a whole number with an optional sign, from 0 to the
greatest of 32 bits. -/
def runCount? (text : String) : Option Nat :=
  match Decimal.wholeNumber? text.toList with
  | some count => if 0 ≤ count ∧ count < Int.pow 2 32 then some count.toNat else none
  | none => none

/-- Record the value of an option. Bindings may be repeated, a number of runs
may not. -/
def supply (reading : Reading) (value : String) : ValueOption -> Except UsageFault Reading
  | .binding =>
      match Binding.ofArgument value with
      | .ok binding =>
          .ok { reading with bindings := reading.bindings ++ [binding], anyOption := true }
      | .error _ => .error .rejectedValue
  | .runs =>
      if reading.runs.isSome then
        .error .repeatedOption
      else
        match runCount? value with
        | some count => .ok { reading with runs := some count, anyOption := true }
        | none => .error .rejectedValue

/-- Check the pending argument. -/
def settle (reading : Reading) : Except UsageFault Reading :=
  let settled := { reading with pending := none }
  match reading.pending with
  | none => .ok settled
  | some (.option _ none) => .error .missingValue
  | some (.option option (some value)) => settled.supply value option
  | some (.text text) => .ok { settled with text := some text }

/-- Record a flag. Reading stops where help or the version is asked for. -/
def raiseFlag (reading : Reading) (flag : Flag) : Except UsageFault Reading := do
  let settled ← reading.settle
  match flag with
  | .verbose =>
      let verbosity := min (settled.verbosity + 1) 255
      return { settled with anyOption := true, verbosity := verbosity }
  | .help => throw .helpWanted
  | .version => throw .versionWanted

/-- Begin an option whose value is the next argument. -/
def beginOption (reading : Reading) (option : ValueOption) : Except UsageFault Reading := do
  return { ← reading.settle with pending := some (.option option none) }

/-- Record an option with its value. -/
def recordOption
    (reading : Reading)
    (option : ValueOption)
    (value : List Char) : Except UsageFault Reading := do
  (← reading.settle).supply (String.ofList value) option

/-- Read what follows `--`: the name of an option, perhaps with a value after
an equals sign. -/
def readLong (scope : Scope) (reading : Reading) (body : List Char) :
    Except UsageFault Reading :=
  let (name, value) :=
    match splitAtEquals? body with
    | some (name, value) => (name, some value)
    | none => (body, none)
  match Switch.ofLong? scope (String.ofList name), value with
  | none, _ => .error .unknownArgument
  | some (.flag flag), none => reading.raiseFlag flag
  | some (.flag _), some _ => .error .unexpectedValue
  | some (.value option), none => reading.beginOption option
  | some (.value option), some value => reading.recordOption option value

/-- Read what follows a single `-`: letters of flags, and perhaps an option
whose value is the rest, an equals sign in front of it left out. -/
def readShort (scope : Scope) (reading : Reading) : List Char -> Except UsageFault Reading
  | [] => .ok reading
  | letter :: rest =>
      match Switch.ofShort? scope letter with
      | none => .error .unknownArgument
      | some (.flag flag) => do readShort scope (← reading.raiseFlag flag) rest
      | some (.value option) =>
          match rest with
          | [] => reading.beginOption option
          | '=' :: value => reading.recordOption option value
          | value => reading.recordOption option value

/-- Read an argument that is no option. Before the subcommand there is no place
for it, after it for one. -/
def readText (scope : Scope) (reading : Reading) (argument : String) :
    Except UsageFault Reading :=
  match scope with
  | none =>
      if reading.ended && beginsCommand argument then
        .error .unknownArgument
      else
        .error .unknownSubcommand
  | some _ =>
      if reading.hasText then
        .error .unknownArgument
      else do
        return { ← reading.settle with pending := some (.text argument) }

/-- Read the next argument. -/
def readArgument (scope : Scope) (reading : Reading) (argument : String) :
    Except UsageFault Reading :=
  if reading.ended then
    reading.readText scope argument
  else
    match argument.toList with
    | ['-', '-'] => .ok { reading with ended := true }
    | '-' :: '-' :: body => reading.readLong scope body
    | '-' :: letter :: rest => reading.readShort scope (letter :: rest)
    | _ =>
        match reading.pending with
        | some (.option option none) =>
            .ok { reading with pending := some (.option option (some argument)) }
        | _ => reading.readText scope argument

end Reading

/-- The expression that is run if a benchmark names none. -/
def benchmarkText : String := "100+2/10+1+1+1+1+1+1+1+1+1+1+1+2+2^1"

/-- The number of runs if a benchmark names none. -/
def benchmarkRuns : Nat := 100000

/-- The command that has been read after a subcommand. -/
def Subcommand.command (subcommand : Subcommand) (reading : Reading) :
    Except UsageFault Command :=
  match subcommand, reading.text with
  | .reorder, some text => .ok (.reorder text)
  | .evaluate, some text => .ok (.evaluate text)
  | .calculate, some text => .ok (.calculate text)
  | .benchmark, text =>
      .ok (.benchmark (reading.runs.getD benchmarkRuns) (text.getD benchmarkText))
  | _, none => .error .missingText

/-- Read the arguments after a subcommand. -/
def readCommand
    (outer : Reading)
    (subcommand : Subcommand)
    (arguments : List String) : Except UsageFault Request := do
  let read ← arguments.foldlM (Reading.readArgument (some subcommand)) Reading.start
  let inner ← read.settle
  let command ← subcommand.command inner
  let settled ← outer.settle
  let bindings := if inner.bindings.isEmpty then settled.bindings else inner.bindings
  let verbosity := if inner.verbosity = 0 then settled.verbosity else inner.verbosity
  return ⟨bindings, verbosity, command⟩

/-- Read the arguments from the start or from within the options that stand
before the subcommand. -/
def readFrom (reading : Reading) : List String -> Except UsageFault Request
  | [] => do
      if (← reading.settle).anyOption then
        throw .missingSubcommand
      else
        throw .nothingGiven
  | argument :: rest =>
      if reading.ended || reading.awaitsValue || !beginsCommand argument then do
        readFrom (← reading.readArgument none argument) rest
      else
        match Subcommand.ofName? argument with
        | some subcommand => readCommand reading subcommand rest
        | none => throw (helpOn rest)

/-- The request that the arguments make. -/
def Request.ofArguments (arguments : List String) : Except UsageFault Request :=
  readFrom .start arguments

end CommandLine
end PostfixCalculator
