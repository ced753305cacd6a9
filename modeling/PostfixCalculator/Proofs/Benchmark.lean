import PostfixCalculator.CommandLine.Outcome
import PostfixCalculator.Proofs.Run

/-!
# Calculating many times

A calculation leaves nothing behind that the next one could find: each of a benchmark is
made of the same text in the same context. So one calculation decides about all of them.
If it succeeds, then so does every one that follows, and if it fails, then it is the
first and the last.
-/

namespace PostfixCalculator

variable {context : Context} {text : String} {value : Number} {fault : Fault} {runs : Nat}

/-- A calculation that succeeds can be made any number of times. -/
theorem calculateRepeatedly_of_ok
    (succeeds : calculate context text = .ok value)
    (runs : Nat) :
    calculateRepeatedly context text runs = .ok () := by
  induction runs with
  | zero => rfl
  | succ count inductionHypothesis =>
      rw [calculateRepeatedly, succeeds, Run.ok_bind, inductionHypothesis]

/-- A calculation that fails is the last one. -/
theorem calculateRepeatedly_of_error
    (fails : calculate context text = .error fault)
    (positive : 0 < runs) :
    calculateRepeatedly context text runs = .error fault := by
  obtain ⟨count, rfl⟩ := Nat.exists_eq_add_one.mpr positive
  rw [calculateRepeatedly, fails, Run.error_bind]

/-- Calculating once or more often comes to what calculating once comes to, apart from
the value. -/
theorem calculateRepeatedly_eq_map (positive : 0 < runs) :
    calculateRepeatedly context text runs = (calculate context text).map fun _ => () := by
  cases once : calculate context text with
  | ok value => exact calculateRepeatedly_of_ok once runs
  | error fault => exact calculateRepeatedly_of_error once positive

/-- Calculating repeatedly succeeds exactly if calculating once does and fails exactly as
it does, whatever the number of times is, unless it is zero. -/
theorem calculateRepeatedly_outcome (context : Context) (text : String) :
    calculateRepeatedly context text 0 = .ok () ∧
      ∀ runs, 0 < runs ->
        (calculateRepeatedly context text runs = .ok () ↔
          ∃ value, calculate context text = .ok value) ∧
        (∀ fault, calculateRepeatedly context text runs = .error fault ↔
          calculate context text = .error fault) ∧
        ∀ others, 0 < others ->
          calculateRepeatedly context text others = calculateRepeatedly context text runs := by
  refine ⟨rfl, fun runs positive => ?_⟩
  rw [calculateRepeatedly_eq_map positive]
  refine ⟨?_, fun fault => Run.map_eq_error_iff, fun others => calculateRepeatedly_eq_map⟩
  simp [Run.map_eq_ok_iff]

/-- A constant can be asked for seven times, an unbound variable not even once. -/
theorem calculateRepeatedly_outcome_constantAndUnbound :
    calculateRepeatedly .standard "pi" 7 = .ok () ∧
      calculateRepeatedly .standard "pi^(y" 100000 = .error (.unknownVariable "y") ∧
      calculateRepeatedly .standard "pi^(y" 0 = .ok () := by
  have constantRead : Token.ofText "pi" = [.operand "pi"] := by decide +kernel
  have unboundRead : Token.ofText "pi^(y" =
      [.operand "pi", .operator (.binary .pow), .operator .opening, .operand "y"] := by
    decide +kernel
  have constantFound : ∃ value, calculate .standard "pi" = .ok value := by
    rw [calculate, convertText, constantRead]
    exact ⟨_, rfl⟩
  have unboundMissed : calculate .standard "pi^(y" = .error (.unknownVariable "y") := by
    rw [calculate, convertText, unboundRead]
    rfl
  obtain ⟨-, constant⟩ := calculateRepeatedly_outcome .standard "pi"
  obtain ⟨never, unbound⟩ := calculateRepeatedly_outcome .standard "pi^(y"
  obtain ⟨succeeds, -, -⟩ := constant 7 (by decide)
  obtain ⟨-, fails, -⟩ := unbound 100000 (by decide)
  exact ⟨succeeds.mpr constantFound, (fails _).mpr unboundMissed, never⟩

/-! ## What is told of them -/

/-- Calculations that succeed are all told. -/
theorem repeatedCalculationLog_of_ok
    (succeeds : calculate context text = .ok value)
    (runs : Nat) :
    repeatedCalculationLog context text runs =
      (List.replicate runs (calculationLog context text)).flatten := by
  induction runs with
  | zero => rfl
  | succ count inductionHypothesis =>
      rw [repeatedCalculationLog, succeeds, List.replicate_succ, List.flatten_cons]
      exact congrArg _ inductionHypothesis

/-- Of calculations that fail the first is told. -/
theorem repeatedCalculationLog_of_error
    (fails : calculate context text = .error fault)
    (positive : 0 < runs) :
    repeatedCalculationLog context text runs = calculationLog context text := by
  obtain ⟨count, rfl⟩ := Nat.exists_eq_add_one.mpr positive
  rw [repeatedCalculationLog, fails]
  exact List.append_nil _

namespace CommandLine

/-- A benchmark is answered exactly if a calculation is, and with the same fault if it is
not. -/
theorem Command.answer_benchmark (positive : 0 < runs) :
    (Command.benchmark runs text).answer context =
      ((Command.calculate text).answer context).map fun _ => .runs runs := by
  rw [Command.answer, Command.answer, calculateRepeatedly_eq_map positive]
  cases PostfixCalculator.calculate context text <;> rfl

/-- A benchmark ends with the exit code and the complaint that a calculation ends with. -/
theorem Request.display_benchmark
    {Refusal : Type}
    (refuse : Refusal -> Display)
    (bindings : List Binding)
    (verbosity : Nat)
    (positive : 0 < runs) :
    let shown (command : Command) :=
      (Request.mk bindings verbosity command).outcome.display refuse
    let benchmark := shown (.benchmark runs text)
    let calculation := shown (.calculate text)
    benchmark.exitCode = calculation.exitCode ∧ benchmark.complaint = calculation.complaint := by
  simp only [Request.outcome, Request.answer, Command.answer_benchmark positive]
  cases (Command.calculate text).answer (contextOf bindings) <;> exact ⟨rfl, rfl⟩

end CommandLine
end PostfixCalculator
