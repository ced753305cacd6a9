import PostfixCalculator.CommandLine.Arguments
import PostfixCalculator.Proofs.ArgumentRules
import PostfixCalculator.Proofs.Run

/-!
# Reading options

What matters of a reading is what it settles to: whether an argument is still pending
makes no difference for what is read next. Reading an option adds its binding, if it has
one, to those that the reading settles to, and changes nothing else but how often more
detail is asked for.
-/

namespace PostfixCalculator
namespace CommandLine

/-- A binding that can be read is not taken for an option. -/
theorem WrittenBinding.isPlain (written : WrittenBinding) : IsPlain written.text := by
  obtain ⟨literal, whole, isRun, -⟩ := Binding.ofArgument_eq_ok_iff.mp written.accepted
  obtain ⟨letter, others, split, isLower⟩ := isRun.exists_cons
  refine Or.inr fun first isFirst => ?_
  rw [whole, String.toList_append, String.toList_append, split] at isFirst
  cases isFirst
  rintro rfl
  contradiction

namespace Reading

variable {reading next : Reading} {scope : Scope} {bindings : List Binding}
  {text : Option String} {ended : Bool}

/-- What a reading settles to, apart from whether there was an option and how often more
detail is asked for. -/
def Settles
    (reading : Reading)
    (bindings : List Binding)
    (text : Option String)
    (ended : Bool) : Prop :=
  ∃ anyOption verbosity,
    reading.settle = .ok ⟨bindings, none, text, none, ended, anyOption, verbosity⟩

theorem settles_start : start.Settles [] none false :=
  ⟨false, 0, rfl⟩

/-- The value of an option changes neither the text nor whether options are ended. -/
theorem ended_text_of_supply
    {value : String}
    {option : ValueOption}
    (supplied : reading.supply value option = .ok next) :
    next.ended = reading.ended ∧ next.text = reading.text := by
  cases option with
  | binding =>
      rw [supply] at supplied
      split at supplied
      · cases supplied
        exact ⟨rfl, rfl⟩
      · cases supplied
  | runs =>
      rw [supply] at supplied
      split at supplied
      · cases supplied
      · split at supplied
        · cases supplied
          exact ⟨rfl, rfl⟩
        · cases supplied

/-- A reading that settles does not wait for a value, and what it settles to tells
whether its options are ended and whether it has a text. -/
theorem Settles.state (settles : reading.Settles bindings text ended) :
    reading.awaitsValue = false ∧ reading.ended = ended ∧ reading.hasText = text.isSome := by
  obtain ⟨anyOption, verbosity, settled⟩ := settles
  obtain ⟨soFar, runs, settledText, pending, isEnded, anySoFar, flagsSoFar⟩ := reading
  match pending with
  | none =>
      cases settled
      exact ⟨rfl, rfl, rfl⟩
  | some (.text text) =>
      cases settled
      exact ⟨rfl, rfl, rfl⟩
  | some (.option _ none) => cases settled
  | some (.option _ (some value)) =>
      obtain ⟨sameEnded, sameText⟩ := ended_text_of_supply settled
      exact ⟨rfl, sameEnded.symm, congrArg Option.isSome sameText.symm⟩

/-- A plain argument is the value that an option waits for, or else the text. -/
theorem readArgument_of_isPlain
    {argument : String}
    (notEnded : reading.ended = false)
    (plain : IsPlain argument) :
    reading.readArgument scope argument =
      match reading.pending with
      | some (.option option none) =>
          .ok { reading with pending := some (.option option (some argument)) }
      | _ => reading.readText scope argument := by
  unfold readArgument
  rw [notEnded, if_neg Bool.false_ne_true]
  rcases plain with rfl | notOption
  · rfl
  · cases split : argument.toList with
    | nil => rfl
    | cons first rest =>
        rw [split] at notOption
        have different : first ≠ '-' := notOption first rfl
        split
        · next same => exact absurd (List.cons.inj same).1 different
        · next same => exact absurd (List.cons.inj same).1 different
        · next same => exact absurd (List.cons.inj same).1 different
        · rfl

/-- A binding in an argument of its own is waited for, and then it is pending. -/
theorem Settles.read_bindingApart
    (settles : reading.Settles bindings text false)
    (written : WrittenBinding) :
    ∃ next, ["--var", written.text].foldlM (readArgument scope) reading = .ok next ∧
      next.Settles (bindings ++ [written.binding]) text false := by
  obtain ⟨-, notEnded, -⟩ := settles.state
  obtain ⟨anyOption, verbosity, settled⟩ := settles
  have begun : reading.readArgument scope "--var" =
      .ok ⟨bindings, none, text, some (.option .binding none), false, anyOption, verbosity⟩ := by
    rw [readArgument, notEnded]
    change reading.beginOption .binding = _
    rw [beginOption, settled]
    rfl
  let pending : Pending := .option .binding (some written.text)
  refine ⟨⟨bindings, none, text, some pending, false, anyOption, verbosity⟩, ?_,
    true, verbosity, ?_⟩
  · rw [List.foldlM_cons, begun, Run.ok_bind, List.foldlM_cons,
      readArgument_of_isPlain rfl written.isPlain]
    rfl
  · -- The value is checked when the reading is settled, which is what `Settles` looks at.
    change supply _ written.text .binding = _
    rw [supply, written.accepted]

/-- A binding that is joined to the name of the option is settled with it. -/
theorem Settles.read_bindingJoined
    (settles : reading.Settles bindings text false)
    (written : WrittenBinding) :
    ∃ next, reading.readArgument scope ("--var=" ++ written.text) = .ok next ∧
      next.Settles (bindings ++ [written.binding]) text false := by
  obtain ⟨-, notEnded, -⟩ := settles.state
  obtain ⟨anyOption, verbosity, settled⟩ := settles
  have characters : ("--var=" ++ written.text).toList =
      '-' :: '-' :: 'v' :: ("ar=".toList ++ written.text.toList) := by
    simp
  -- The first equals sign ends the name of the option, so that of the binding is left to it.
  have isSplit : splitAtEquals? ('v' :: ("ar=".toList ++ written.text.toList)) =
      some ("var".toList, written.text.toList) := by
    rw [splitAtEquals?_eq_some_iff]
    exact ⟨by simp, by decide⟩
  refine ⟨⟨bindings ++ [written.binding], none, text, none, false, true, verbosity⟩, ?_,
    true, verbosity, rfl⟩
  rw [readArgument, notEnded, characters]
  change readLong scope reading ('v' :: ("ar=".toList ++ written.text.toList)) = _
  rw [readLong, isSplit]
  change reading.recordOption .binding written.text.toList = _
  rw [recordOption, settled, Run.ok_bind, String.ofList_toList, supply, written.accepted]

/-- The flag for more detail leaves what the reading settles to. -/
theorem Settles.raiseFlag_verbose (settles : reading.Settles bindings text ended) :
    ∃ next, reading.raiseFlag .verbose = .ok next ∧ next.Settles bindings text ended := by
  obtain ⟨anyOption, verbosity, settled⟩ := settles
  refine ⟨⟨bindings, none, text, none, ended, true, min (verbosity + 1) 255⟩, ?_,
    true, min (verbosity + 1) 255, rfl⟩
  rw [raiseFlag, settled]
  rfl

/-- The flag has a short spelling. -/
theorem Settles.read_verboseShort (settles : reading.Settles bindings text false) :
    ∃ next, reading.readArgument scope "-v" = .ok next ∧ next.Settles bindings text false := by
  obtain ⟨-, notEnded, -⟩ := settles.state
  obtain ⟨next, raised, settlesNext⟩ := settles.raiseFlag_verbose
  refine ⟨next, ?_, settlesNext⟩
  rw [readArgument, notEnded]
  change (do readShort scope (← reading.raiseFlag .verbose) []) = _
  rw [raised]
  rfl

/-- The flag has a long spelling. -/
theorem Settles.read_verboseLong (settles : reading.Settles bindings text false) :
    ∃ next, reading.readArgument scope "--verbose" = .ok next ∧
      next.Settles bindings text false := by
  obtain ⟨-, notEnded, -⟩ := settles.state
  rw [readArgument, notEnded]
  change ∃ next, reading.raiseFlag .verbose = .ok next ∧ next.Settles bindings text false
  exact settles.raiseFlag_verbose

/-- An option of one argument is read with that argument. -/
theorem exists_settles_of_readArgument
    {word : String}
    (isRead : ∃ next, reading.readArgument scope word = .ok next ∧
      next.Settles bindings text ended) :
    ∃ next, [word].foldlM (readArgument scope) reading = .ok next ∧
      next.Settles bindings text ended := by
  obtain ⟨next, isRead, settles⟩ := isRead
  refine ⟨next, ?_, settles⟩
  rw [List.foldlM_cons, isRead]
  rfl

/-- Reading an option adds its bindings to those that the reading settles to. -/
theorem Settles.read_option
    (settles : reading.Settles bindings text false)
    (scope : Scope)
    (option : GlobalOption) :
    ∃ next, option.words.foldlM (readArgument scope) reading = .ok next ∧
      next.Settles (bindings ++ option.bindings) text false := by
  cases option with
  | bindingApart written => exact settles.read_bindingApart written
  | bindingJoined written =>
      exact exists_settles_of_readArgument (settles.read_bindingJoined written)
  | verboseShort =>
      rw [GlobalOption.bindings, List.append_nil]
      exact exists_settles_of_readArgument settles.read_verboseShort
  | verboseLong =>
      rw [GlobalOption.bindings, List.append_nil]
      exact exists_settles_of_readArgument settles.read_verboseLong

/-- Reading options in a row adds the bindings of each in turn. -/
theorem Settles.read_options
    (settles : reading.Settles bindings text false)
    (scope : Scope)
    (options : List GlobalOption) :
    ∃ next, (options.flatMap GlobalOption.words).foldlM (readArgument scope) reading = .ok next ∧
      next.Settles (bindings ++ options.flatMap GlobalOption.bindings) text false := by
  induction options generalizing reading bindings with
  | nil =>
      refine ⟨reading, rfl, ?_⟩
      rw [List.flatMap_nil, List.append_nil]
      exact settles
  | cons option options fromNext =>
      obtain ⟨middle, readOption, settlesMiddle⟩ := settles.read_option scope option
      obtain ⟨next, readOptions, settlesNext⟩ := fromNext settlesMiddle
      refine ⟨next, ?_, ?_⟩
      · rw [List.flatMap_cons, List.foldlM_append, readOption, Run.ok_bind, readOptions]
      · rw [List.flatMap_cons, ← List.append_assoc]
        exact settlesNext

/-- After a subcommand the first text has its place. -/
theorem Settles.readText
    (settles : reading.Settles bindings none ended)
    (subcommand : Subcommand)
    (argument : String) :
    ∃ next, reading.readText (some subcommand) argument = .ok next ∧
      next.Settles bindings (some argument) ended := by
  obtain ⟨-, -, noText⟩ := settles.state
  obtain ⟨anyOption, verbosity, settled⟩ := settles
  refine ⟨⟨bindings, none, none, some (.text argument), ended, anyOption, verbosity⟩, ?_,
    anyOption, verbosity, rfl⟩
  rw [Reading.readText, noText, settled]
  rfl

/-- After a subcommand the first plain argument is the text. -/
theorem Settles.read_isPlain
    {argument : String}
    (settles : reading.Settles bindings none false)
    (subcommand : Subcommand)
    (plain : IsPlain argument) :
    ∃ next, reading.readArgument (some subcommand) argument = .ok next ∧
      next.Settles bindings (some argument) false := by
  obtain ⟨complete, notEnded, -⟩ := settles.state
  rw [readArgument_of_isPlain notEnded plain]
  split
  · next isPending =>
    rw [awaitsValue, isPending] at complete
    cases complete
  · exact settles.readText subcommand argument

/-- The value of an option is checked alike before and after the options are ended. -/
theorem supply_end_options (reading : Reading) (value : String) (option : ValueOption) :
    supply { reading with ended := true } value option =
      (reading.supply value option).map ({ · with ended := true }) := by
  unfold supply
  cases option with
  | binding => cases Binding.ofArgument value <;> rfl
  | runs =>
      dsimp only
      split
      · rfl
      · cases runCount? value <;> rfl

/-- What is pending is checked alike before and after the options are ended. -/
theorem settle_end_options (reading : Reading) :
    settle { reading with ended := true } = reading.settle.map ({ · with ended := true }) := by
  obtain ⟨soFar, runs, settledText, pending, isEnded, anySoFar, flagsSoFar⟩ := reading
  match pending with
  | none => rfl
  | some (.text _) => rfl
  | some (.option _ none) => rfl
  | some (.option option (some value)) =>
      exact supply_end_options ⟨soFar, runs, settledText, none, isEnded, anySoFar, flagsSoFar⟩ value
        option

/-- Ending the options changes nothing else of what a reading settles to. -/
theorem Settles.end_options (settles : reading.Settles bindings text ended) :
    Settles { reading with ended := true } bindings text true := by
  obtain ⟨anyOption, verbosity, settled⟩ := settles
  refine ⟨anyOption, verbosity, ?_⟩
  rw [settle_end_options, settled]
  rfl

/-- Once the options are ended, whatever comes first is the text. -/
theorem Settles.read_separated
    (settles : reading.Settles bindings none false)
    (subcommand : Subcommand)
    (argument : String) :
    ∃ next, ["--", argument].foldlM (readArgument (some subcommand)) reading = .ok next ∧
      next.Settles bindings (some argument) true := by
  obtain ⟨-, notEnded, -⟩ := settles.state
  have separated : reading.readArgument (some subcommand) "--" =
      .ok { reading with ended := true } := by
    rw [readArgument, notEnded]
    rfl
  obtain ⟨next, isRead, settlesNext⟩ := settles.end_options.readText subcommand argument
  refine ⟨next, ?_, settlesNext⟩
  rw [List.foldlM_cons, separated, Run.ok_bind, List.foldlM_cons, readArgument, if_pos rfl,
    isRead]
  rfl

end Reading
end CommandLine
end PostfixCalculator
