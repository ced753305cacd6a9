import PostfixCalculator.Proofs.OptionReading

/-!
# The reader of the program

The reader that the program runs with follows the rules for reading arguments. Whatever
stands on either side of a subcommand is read first, and then all that the rules tell can
be read off.
-/

namespace PostfixCalculator
namespace CommandLine

/-- What begins a command has small letters only. -/
theorem all_isLower_of_beginsCommand
    {argument : String}
    (begins : beginsCommand argument = true) :
    argument.toList.all Char.isLower = true := by
  rw [beginsCommand, Bool.or_eq_true, beq_iff_eq] at begins
  rcases begins with rfl | isName
  · rfl
  · unfold Subcommand.ofName? at isName
    split at isName
    · rfl
    · rfl
    · rfl
    · rfl
    · cases isName

/-- No argument of an option begins a command: it has a hyphen or an equals sign. -/
theorem GlobalOption.not_beginsCommand
    (option : GlobalOption) :
    ∀ word ∈ option.words, beginsCommand word = false := by
  intro word present
  suffices other : '-' ∈ word.toList ∨ '=' ∈ word.toList by
    rw [← Bool.not_eq_true]
    intro begins
    have isLower := List.all_eq_true.mp (all_isLower_of_beginsCommand begins)
    rcases other with hyphen | equals
    · exact absurd (isLower _ hyphen) (by decide)
    · exact absurd (isLower _ equals) (by decide)
  cases option with
  | bindingApart written =>
      rcases List.mem_pair.mp present with rfl | rfl
      · exact Or.inl (by decide)
      · obtain ⟨literal, whole, -⟩ := Binding.ofArgument_eq_ok_iff.mp written.accepted
        rw [whole]
        exact Or.inr (by simp)
  | bindingJoined written =>
      rw [List.mem_singleton.mp present]
      exact Or.inl (by simp)
  | verboseShort =>
      rw [List.mem_singleton.mp present]
      exact Or.inl (by decide)
  | verboseLong =>
      rw [List.mem_singleton.mp present]
      exact Or.inl (by decide)

/-- Arguments that begin no command are read one after the other. -/
theorem readFrom_append
    {reading next : Reading}
    {words rest : List String}
    (options : ∀ word ∈ words, beginsCommand word = false)
    (isRead : words.foldlM (Reading.readArgument none) reading = .ok next) :
    readFrom reading (words ++ rest) = readFrom next rest := by
  induction words generalizing reading with
  | nil =>
      cases isRead
      rfl
  | cons word words fromMiddle =>
      obtain ⟨first, others⟩ := List.forall_mem_cons.mp options
      rw [List.foldlM_cons, Run.bind_eq_ok_iff] at isRead
      obtain ⟨middle, readFirst, readOthers⟩ := isRead
      rw [List.cons_append, readFrom, first, Bool.not_false, Bool.or_true, if_pos rfl, readFirst]
      exact fromMiddle others readOthers

/-- After options a subcommand is read with what follows it. -/
theorem readFrom_options
    (options : List GlobalOption)
    {name : String}
    {subcommand : Subcommand}
    (named : Subcommand.ofName? name = some subcommand)
    (rest : List String) :
    ∃ outer, outer.Settles (options.flatMap GlobalOption.bindings) none false ∧
      readFrom .start (options.flatMap GlobalOption.words ++ name :: rest) =
        readCommand outer subcommand rest := by
  obtain ⟨outer, isRead, settles⟩ := Reading.settles_start.read_options none options
  refine ⟨outer, settles, ?_⟩
  have noCommand : ∀ word ∈ options.flatMap GlobalOption.words, beginsCommand word = false := by
    intro word present
    obtain ⟨option, -, inOption⟩ := List.mem_flatMap.mp present
    exact option.not_beginsCommand word inOption
  obtain ⟨complete, notEnded, -⟩ := settles.state
  rw [readFrom_append noCommand isRead, readFrom, notEnded, complete, beginsCommand, named]
  simp

/-- What stands after a subcommand is read as its bindings and its text. -/
theorem Remainder.exists_read (remainder : Remainder) (subcommand : Subcommand) :
    ∃ inner ended,
      remainder.words.foldlM (Reading.readArgument (some subcommand)) .start = .ok inner ∧
        inner.Settles remainder.bindings (some remainder.text) ended := by
  cases remainder with
  | among options text plain others =>
      obtain ⟨first, readOptions, settles⟩ :=
        Reading.settles_start.read_options (some subcommand) options
      obtain ⟨second, readText, settles⟩ := settles.read_isPlain subcommand plain
      obtain ⟨inner, readOthers, settles⟩ := settles.read_options (some subcommand) others
      refine ⟨inner, false, ?_, ?_⟩
      · rw [words, List.foldlM_append, readOptions, Run.ok_bind, List.foldlM_cons, readText,
          Run.ok_bind, readOthers]
      · rw [bindings, List.flatMap_append]
        exact settles
  | separated options text =>
      obtain ⟨first, readOptions, settles⟩ :=
        Reading.settles_start.read_options (some subcommand) options
      obtain ⟨inner, readText, settles⟩ := settles.read_separated subcommand text
      refine ⟨inner, true, ?_, settles⟩
      rw [words, List.foldlM_append, readOptions, Run.ok_bind, readText]

namespace IsNamed

variable {name : String} {command : String -> Command}

/-- The reader knows the subcommands that work on a text. -/
theorem exists_subcommand (named : IsNamed name command) :
    ∃ subcommand, Subcommand.ofName? name = some subcommand ∧
      ∀ reading : Reading, ∀ text ∈ reading.text,
        subcommand.command reading = .ok (command text) := by
  cases named with
  | reorder =>
      refine ⟨.reorder, rfl, fun reading text isText => ?_⟩
      simp only [Subcommand.command, Option.mem_def.mp isText]
  | evaluate =>
      refine ⟨.evaluate, rfl, fun reading text isText => ?_⟩
      simp only [Subcommand.command, Option.mem_def.mp isText]
  | calculate =>
      refine ⟨.calculate, rfl, fun reading text isText => ?_⟩
      simp only [Subcommand.command, Option.mem_def.mp isText]

/-- A command line is read as what its subcommand does with its text, under the bindings
that count. -/
theorem reads_words (named : IsNamed name command) (invocation : Invocation) :
    Reads Request.ofArguments (invocation.words name) invocation.bindings
      (command invocation.text) := by
  obtain ⟨subcommand, isName, commands⟩ := named.exists_subcommand
  obtain ⟨outer, ⟨outerOption, outerVerbosity, outerSettled⟩, isRead⟩ :=
    readFrom_options invocation.options isName invocation.remainder.words
  obtain ⟨inner, ended, readInner, ⟨innerOption, innerVerbosity, innerSettled⟩⟩ :=
    invocation.remainder.exists_read subcommand
  refine ⟨if innerVerbosity = 0 then outerVerbosity else innerVerbosity, ?_⟩
  -- What is pending before the subcommand is settled last, and it settles all the same.
  rw [Request.ofArguments, Invocation.words, isRead, readCommand, readInner, Run.ok_bind,
    innerSettled, Run.ok_bind, commands _ _ rfl, Run.ok_bind, outerSettled, Run.ok_bind,
    Invocation.bindings]
  cases invocation.remainder.bindings <;> rfl

/-- Without options before the subcommand the bindings after it count. -/
theorem reads_remainder (named : IsNamed name command) (remainder : Remainder) :
    Reads Request.ofArguments (name :: remainder.words) remainder.bindings
      (command remainder.text) := by
  rw [← Invocation.bindings_nil]
  exact named.reads_words ⟨[], remainder⟩

/-- The reader follows the rules. -/
theorem followsRules (named : IsNamed name command) :
    FollowsRules Request.ofArguments name command where
  plainText plain := named.reads_remainder (.among [] _ plain [])
  separatedText text := named.reads_remainder (.separated [] text)
  interleaved {options others option text plain bindings asked} inFront := by
    obtain ⟨rfl, rfl⟩ := inFront.unique
      (named.reads_remainder (.among (options ++ [option]) text plain others))
    have behind := named.reads_remainder (.among options text plain (option :: others))
    rwa [Remainder.bindings, List.append_assoc, List.singleton_append]
  repeated {remainder bindings asked} option isRead := by
    obtain ⟨rfl, rfl⟩ := isRead.unique (named.reads_remainder remainder)
    cases remainder with
    | among options text plain others =>
        have added := named.reads_remainder (.among (option :: options) text plain others)
        rwa [Remainder.words, List.flatMap_cons, List.append_assoc] at added
    | separated options text =>
        have added := named.reads_remainder (.separated (option :: options) text)
        rwa [Remainder.words, List.flatMap_cons, List.append_assoc] at added
  propagated {invocation bindings asked} option noneBehind isRead := by
    obtain ⟨rfl, rfl⟩ := isRead.unique (named.reads_words invocation)
    rw [← Invocation.words_cons, ← Invocation.bindings_cons_of_eq_nil noneBehind]
    exact named.reads_words ⟨option :: invocation.options, invocation.remainder⟩
  overridden {invocation bindings asked} option someBehind isRead := by
    obtain ⟨rfl, rfl⟩ := isRead.unique (named.reads_words invocation)
    rw [← Invocation.words_cons, ← Invocation.bindings_cons_of_ne_nil someBehind]
    exact named.reads_words ⟨option :: invocation.options, invocation.remainder⟩

end IsNamed
end CommandLine
end PostfixCalculator
