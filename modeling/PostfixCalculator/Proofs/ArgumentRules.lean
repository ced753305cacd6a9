import PostfixCalculator.CommandLine.Outcome
import PostfixCalculator.Proofs.Binding

/-!
# Rules for reading arguments

The options that may stand on either side of a subcommand are bindings, in two
spellings, and the flag for more detail, in two spellings. Behind a subcommand that works
on a text they may stand on either side of the text.

Arguments are read by a library. `FollowsRules` says what its documentation tells of such
options: how one more of them, or one in another place, changes what is read. These are
rules about one option, whatever else there is. What all the options of a command line
come to follows from them by going through the options one by one.
-/

namespace PostfixCalculator
namespace CommandLine

/-- A binding as it is written, and what it is read as. -/
structure WrittenBinding where
  text : String
  binding : Binding
  accepted : Binding.ofArgument text = .ok binding

/-- An option that may stand on either side of a subcommand. -/
inductive GlobalOption
  /-- A binding as an argument of its own. -/
  | bindingApart (written : WrittenBinding)
  /-- A binding that is joined to the name of the option. -/
  | bindingJoined (written : WrittenBinding)
  | verboseShort
  | verboseLong

namespace GlobalOption

/-- The arguments that make up an option. -/
def words : GlobalOption -> List String
  | .bindingApart written => ["--var", written.text]
  | .bindingJoined written => ["--var=" ++ written.text]
  | .verboseShort => ["-v"]
  | .verboseLong => ["--verbose"]

/-- The binding that an option makes, if it makes one. -/
def bindings : GlobalOption -> List Binding
  | .bindingApart written => [written.binding]
  | .bindingJoined written => [written.binding]
  | .verboseShort => []
  | .verboseLong => []

end GlobalOption

/-- A text that is not taken for an option: it does not begin with `-`, or it is `-`
alone. -/
def IsPlain (text : String) : Prop :=
  text = "-" ∨ ∀ first ∈ text.toList.head?, first ≠ '-'

/-- What stands after a subcommand that works on a text. -/
inductive Remainder
  /-- The text stands among the options. -/
  | among
      (options : List GlobalOption)
      (text : String)
      (plain : IsPlain text)
      (others : List GlobalOption)
  /-- The options are ended, and the text may be any. -/
  | separated (options : List GlobalOption) (text : String)

namespace Remainder

/-- The arguments after the subcommand. -/
def words : Remainder -> List String
  | .among options text _ others =>
      options.flatMap GlobalOption.words ++ text :: others.flatMap GlobalOption.words
  | .separated options text => options.flatMap GlobalOption.words ++ ["--", text]

/-- The bindings after the subcommand, in order. -/
def bindings : Remainder -> List Binding
  | .among options _ _ others => (options ++ others).flatMap GlobalOption.bindings
  | .separated options _ => options.flatMap GlobalOption.bindings

/-- The text to work on. -/
def text : Remainder -> String
  | .among _ text _ _ => text
  | .separated _ text => text

end Remainder

/-- The options before a subcommand and what stands after it. -/
structure Invocation where
  options : List GlobalOption
  remainder : Remainder

namespace Invocation

/-- The arguments with the name of a subcommand. -/
def words (invocation : Invocation) (name : String) : List String :=
  invocation.options.flatMap GlobalOption.words ++ name :: invocation.remainder.words

/-- The bindings that count: those before the subcommand if there are none after it, and
else those after it. -/
def bindings (invocation : Invocation) : List Binding :=
  match invocation.remainder.bindings with
  | [] => invocation.options.flatMap GlobalOption.bindings
  | binding :: others => binding :: others

/-- The text to work on. -/
def text (invocation : Invocation) : String :=
  invocation.remainder.text

variable {option : GlobalOption} {options : List GlobalOption} {remainder : Remainder}

theorem words_cons (name : String) :
    (mk (option :: options) remainder).words name =
      option.words ++ (mk options remainder).words name := by
  rw [words, words, List.flatMap_cons, List.append_assoc]

theorem bindings_nil : (mk [] remainder).bindings = remainder.bindings := by
  rw [bindings]
  cases remainder.bindings <;> rfl

theorem bindings_cons_of_eq_nil (noneBehind : remainder.bindings = []) :
    (mk (option :: options) remainder).bindings =
      option.bindings ++ (mk options remainder).bindings := by
  simp only [bindings, noneBehind, List.flatMap_cons]

theorem bindings_cons_of_ne_nil (someBehind : remainder.bindings ≠ []) :
    (mk (option :: options) remainder).bindings = (mk options remainder).bindings := by
  obtain ⟨binding, others, behind⟩ := List.exists_cons_of_ne_nil someBehind
  simp only [bindings, behind]

end Invocation

/-- The subcommands that work on a text, by their names. -/
inductive IsNamed : String -> (String -> Command) -> Prop
  | reorder : IsNamed "postfix" .reorder
  | evaluate : IsNamed "eval" .evaluate
  | calculate : IsNamed "calc" .calculate

variable {Refusal : Type}

/-- Arguments are read as a command under some bindings. How often more detail is asked
for is left open, because nothing but what is shown of the log depends on it. -/
def Reads
    (read : List String -> Except Refusal Request)
    (arguments : List String)
    (bindings : List Binding)
    (command : Command) : Prop :=
  ∃ verbosity, read arguments = .ok ⟨bindings, verbosity, command⟩

/-- Arguments are read in one way. -/
theorem Reads.unique
    {read : List String -> Except Refusal Request}
    {arguments : List String}
    {bindings others : List Binding}
    {command asked : Command}
    (reads : Reads read arguments bindings command)
    (also : Reads read arguments others asked) :
    bindings = others ∧ command = asked := by
  obtain ⟨verbosity, isRead⟩ := reads
  obtain ⟨other, isAlsoRead⟩ := also
  cases isRead.symm.trans isAlsoRead
  exact ⟨rfl, rfl⟩

/-- What is documented of reading the arguments of a subcommand that works on a text. -/
structure FollowsRules
    (read : List String -> Except Refusal Request)
    (name : String)
    (command : String -> Command) : Prop where
  /-- A subcommand has a text of its own, and without an option nothing is bound. -/
  plainText {text : String} (plain : IsPlain text) :
    Reads read [name, text] [] (command text)
  /-- What stands behind `--` is no option, whatever it begins with. -/
  separatedText (text : String) :
    Reads read [name, "--", text] [] (command text)
  /-- An option has the same effect behind a text as in front of it. -/
  interleaved
    {options others : List GlobalOption}
    {option : GlobalOption}
    {text : String}
    {plain : IsPlain text}
    {bindings : List Binding}
    {asked : Command}
    (inFront : Reads read
      (name :: (Remainder.among (options ++ [option]) text plain others).words) bindings asked) :
    Reads read (name :: (Remainder.among options text plain (option :: others)).words)
      bindings asked
  /-- An option may be repeated. Its values are collected in the order of the arguments. -/
  repeated
    {remainder : Remainder}
    {bindings : List Binding}
    {asked : Command}
    (option : GlobalOption)
    (isRead : Reads read (name :: remainder.words) bindings asked) :
    Reads read (name :: (option.words ++ remainder.words)) (option.bindings ++ bindings) asked
  /-- An option in front of a subcommand has effect if it is not given behind it. -/
  propagated
    {invocation : Invocation}
    {bindings : List Binding}
    {asked : Command}
    (option : GlobalOption)
    (noneBehind : invocation.remainder.bindings = [])
    (isRead : Reads read (invocation.words name) bindings asked) :
    Reads read (option.words ++ invocation.words name) (option.bindings ++ bindings) asked
  /-- An option that is given behind a subcommand overrides what is given in front. -/
  overridden
    {invocation : Invocation}
    {bindings : List Binding}
    {asked : Command}
    (option : GlobalOption)
    (someBehind : invocation.remainder.bindings ≠ [])
    (isRead : Reads read (invocation.words name) bindings asked) :
    Reads read (option.words ++ invocation.words name) bindings asked

namespace FollowsRules

variable {read : List String -> Except Refusal Request} {name text : String}
  {command : String -> Command}

/-- If all options stand in front of a text, then their bindings are collected. -/
theorem reads_inFront
    (rules : FollowsRules read name command)
    (plain : IsPlain text)
    (options : List GlobalOption) :
    Reads read (name :: (Remainder.among options text plain []).words)
      (options.flatMap GlobalOption.bindings) (command text) := by
  induction options with
  | nil => exact rules.plainText plain
  | cons option options inductionHypothesis =>
      have collected := rules.repeated option inductionHypothesis
      rwa [Remainder.words, ← List.append_assoc] at collected

/-- Those behind the text follow those in front of it. -/
theorem reads_among
    (rules : FollowsRules read name command)
    (plain : IsPlain text)
    (options others : List GlobalOption) :
    Reads read (name :: (Remainder.among options text plain others).words)
      ((options ++ others).flatMap GlobalOption.bindings) (command text) := by
  induction others generalizing options with
  | nil =>
      rw [List.append_nil]
      exact rules.reads_inFront plain options
  | cons option others fromNext =>
      have moved := fromNext (options ++ [option])
      rw [List.append_assoc, List.singleton_append] at moved
      exact rules.interleaved moved

/-- In front of `--` the bindings of options are collected likewise. -/
theorem reads_separated
    (rules : FollowsRules read name command)
    (options : List GlobalOption)
    (text : String) :
    Reads read (name :: (Remainder.separated options text).words)
      (options.flatMap GlobalOption.bindings) (command text) := by
  induction options with
  | nil => exact rules.separatedText text
  | cons option options inductionHypothesis =>
      have collected := rules.repeated option inductionHypothesis
      rwa [Remainder.words, ← List.append_assoc] at collected

/-- What stands after a subcommand is read as its bindings and its text. -/
theorem reads_remainder
    (rules : FollowsRules read name command)
    (remainder : Remainder) :
    Reads read (name :: remainder.words) remainder.bindings (command remainder.text) := by
  cases remainder with
  | among options text plain others => exact rules.reads_among plain options others
  | separated options text => exact rules.reads_separated options text

/-- A command line asks for what its subcommand does with its text, under the bindings
that count. -/
theorem reads_words
    (rules : FollowsRules read name command)
    (invocation : Invocation) :
    Reads read (invocation.words name) invocation.bindings (command invocation.text) := by
  obtain ⟨options, remainder⟩ := invocation
  -- What stands after the subcommand decides which bindings count, so it stays as it is.
  induction options with
  | nil =>
      rw [Invocation.bindings_nil]
      exact rules.reads_remainder remainder
  | cons option options isRead =>
      rw [Invocation.words_cons]
      by_cases noneBehind : remainder.bindings = []
      · rw [Invocation.bindings_cons_of_eq_nil noneBehind]
        exact rules.propagated option noneBehind isRead
      · rw [Invocation.bindings_cons_of_ne_nil noneBehind]
        exact rules.overridden option noneBehind isRead

end FollowsRules
end CommandLine
end PostfixCalculator
