import Mathlib.Data.List.Forall2
import PostfixCalculator.Calculation
import PostfixCalculator.Proofs.EvaluationOutcome
import PostfixCalculator.Proofs.ListedNumber
import PostfixCalculator.Proofs.Parentheses

/-!
# How far a run got, as its log tells

The logs of a conversion and of an evaluation are built alike: a line for each token that
is accepted, and a line for the result if there is one. `TellsProgress` says what can be
read off such a log: how many tokens come before the first that fails, what the state was
after each of them, and what the result is.

The lines are said by their words. The operands that a line of an evaluation lists are
numbers as they are written in listings, without commas and brackets, so the line tells how
many there are.

Which token is the first to fail is told from the tokens alone. In infix order it closes
a parenthesis that is not open; in postfix order it is the first with one of the causes
that an evaluation can fail for. Operands that are left over are no failure of a token,
so that a log can have a line for every token and still none for a result.
-/

namespace PostfixCalculator

namespace LogLine

/-- The lines of a level. -/
def atLevel (level : LogLevel) (log : List LogLine) : List LogLine :=
  log.filter (·.level = level)

/-- A log that tells some steps and then a result if there is one. -/
def logOf (steps : List String) (result : Except Fault String) : List LogLine :=
  steps.map (LogLine.mk .trace) ++
    match result with
    | .ok text => [⟨.debug, text⟩]
    | .error _ => []

/-- A line of a level has that level. -/
theorem eq_mk_of_mem_atLevel
    {level : LogLevel}
    {log : List LogLine}
    {line : LogLine}
    (present : line ∈ atLevel level log) :
    line = ⟨level, line.text⟩ := by
  have isOfLevel := (List.mem_filter.mp present).2
  rw [← of_decide_eq_true isOfLevel]

variable {Value : Type} {steps : List String} {result : Except Fault String}

@[simp] theorem atLevel_trace_logOf :
    atLevel .trace (logOf steps result) = steps.map (LogLine.mk .trace) := by
  cases result <;> simp [atLevel, logOf]

/-- The lines that are no steps tell the result. -/
theorem atLevel_debug_logOf :
    atLevel .debug (logOf steps result) = logOf [] result := by
  cases result <;> simp [atLevel, logOf]

/-- What is told of the way through some tokens, of which those at certain positions fail,
and of what comes of them. A step shows what the tokens up to it have come to. -/
structure TellsProgress
    (tokens : List Token)
    (fails : Nat -> Prop)
    (shows : List Token -> String -> Prop)
    (result : Except Fault Value)
    (tells : Value -> String -> Prop)
    (log : List LogLine) : Prop where
  /-- The steps are told before the result. -/
  inOrder : log = atLevel .trace log ++ atLevel .debug log
  /-- There is a step for each token before the first that fails. -/
  reach : Run.StopsAt fails tokens.length (atLevel .trace log).length
  /-- Each step shows what the tokens so far have come to. -/
  step : ∀ position text, (atLevel .trace log)[position]? = some ⟨.trace, text⟩ ↔
    position < tokens.length ∧ shows (tokens.take (position + 1)) text
  /-- A result is told once. -/
  success : ∀ value, result = .ok value ->
    ∃ text, tells value text ∧ atLevel .debug log = [⟨.debug, text⟩]
  /-- Without a result none is told. -/
  failure : ∀ fault, result = .error fault -> atLevel .debug log = []

/-- A log tells the progress of a run if its steps are those of the run. -/
theorem tellsProgress_logOf
    {tokens : List Token}
    {fails : Nat -> Prop}
    {shows : List Token -> String -> Prop}
    {result : Except Fault Value}
    {tells : Value -> String -> Prop}
    {write : Value -> String}
    (reach : Run.StopsAt fails tokens.length steps.length)
    (step : ∀ position text, steps[position]? = some text ↔
      position < tokens.length ∧ shows (tokens.take (position + 1)) text)
    (told : ∀ value, tells value (write value)) :
    TellsProgress tokens fails shows result tells (logOf steps (result.map write)) where
  inOrder := by
    rw [atLevel_trace_logOf, atLevel_debug_logOf]
    rfl
  reach := by
    rwa [atLevel_trace_logOf, List.length_map]
  step := by
    intro position text
    rw [atLevel_trace_logOf, List.getElem?_map, ← step]
    simp
  success := by
    rintro value rfl
    exact ⟨write value, told value, atLevel_debug_logOf⟩
  failure := by
    rintro fault rfl
    exact atLevel_debug_logOf

/-- Of the way through more tokens the same is told at first. -/
theorem TellsProgress.isPrefix
    {part tokens : List Token}
    {fails wholeFails : Nat -> Prop}
    {shows : List Token -> String -> Prop}
    {result wholeResult : Except Fault Value}
    {tells : Value -> String -> Prop}
    {log wholeLog : List LogLine}
    (isPart : part <+: tokens)
    (told : TellsProgress part fails shows result tells log)
    (wholeTold : TellsProgress tokens wholeFails shows wholeResult tells wholeLog) :
    atLevel .trace log <+: atLevel .trace wholeLog := by
  rw [List.prefix_iff_getElem?]
  intro position inside
  have isStep := List.getElem?_eq_getElem inside
  rw [eq_mk_of_mem_atLevel (List.getElem_mem inside)] at isStep ⊢
  obtain ⟨within, shown⟩ := (told.step position _).mp isStep
  refine (wholeTold.step position _).mpr ⟨Nat.lt_of_lt_of_le within isPart.length_le, ?_⟩
  obtain ⟨rest, rfl⟩ := isPart
  rwa [List.take_append_of_le_length within]

end LogLine

open LogLine Token

/-! ## Conversions -/

namespace Conversion

/-- The token at a position closes a parenthesis that is not open. -/
def FailsAt (tokens : List Token) (position : Nat) : Prop :=
  tokens[position]? = some (.operator .closing) ∧
    openings (tokens.take position) ≤ closings (tokens.take position)

/-- A line shows the output and the waiting operators that some tokens come to. -/
def Shows (tokens : List Token) (line : String) : Prop :=
  ∃ state, run tokens = .ok state ∧
    line = "shunting: out=" ++ " ".intercalate (state.output.toList.map Token.text) ++ " ops=" ++
      "Bottom -> [" ++ ", ".intercalate (state.waiting.toList.map Operator.name) ++ "] <- Top"

/-- A line tells the output of a conversion. -/
def Tells (output : List Token) (line : String) : Prop :=
  line = "postfix: " ++ " ".intercalate (output.map Token.text)

/-- The state after some tokens is described as it is to be shown. -/
theorem shows_iff {tokens : List Token} {line : String} :
    Shows tokens line ↔ ∃ state, run tokens = .ok state ∧ line = state.describe := by
  have described (state : Conversion) : state.describe =
      "shunting: out=" ++ textOfList state.output.toList ++ " ops=" ++
        state.waiting.listing Operator.name := rfl
  simp only [Shows, described, textOfList, Stack.listing, String.append_assoc]

/-- Where no token has failed before, a token is refused exactly if it fails. -/
theorem failsAt_iff_exists_error
    {tokens : List Token}
    {position : Nat}
    {token : Token}
    {state : Conversion}
    (found : tokens[position]? = some token)
    (ran : run (tokens.take position) = .ok state) :
    FailsAt tokens position ↔ ∃ fault, state.accept token = .error fault := by
  have waits := depth_eq_of_foldlM ran
  rw [depth_start, Nat.zero_add, depth] at waits
  simp only [FailsAt, accept_eq_error_iff, exists_eq_left, found, Option.some.injEq,
    ← List.count_eq_zero]
  refine and_congr_right fun _ => ?_
  omega

/-- A conversion tells the states that it visits, and its output. -/
theorem tellsProgress (tokens : List Token) :
    TellsProgress tokens (FailsAt tokens) Shows (convert tokens) Tells
      (conversionLog tokens) := by
  have built : conversionLog tokens =
      logOf ((Run.visited accept start tokens).map describe)
        ((convert tokens).map fun output => "postfix: " ++ textOfList output) := by
    unfold conversionLog logOf
    rw [List.map_map]
    cases convert tokens <;> rfl
  rw [built]
  apply tellsProgress_logOf
  · rw [List.length_map]
    exact Run.stopsAt_length_visited fun position token state => failsAt_iff_exists_error
  · intro position text
    simp only [List.getElem?_map, Option.map_eq_some_iff, Run.getElem?_visited_eq_some_iff,
      and_assoc, exists_and_left, shows_iff, run, @eq_comm _ text]
  · intro output
    rfl

end Conversion

/-! ## Evaluations -/

namespace Evaluation

variable {context : Context} {tokens : List Token} {fault : Fault}

/-- A line shows the last of some tokens and the operands that they come to, the bottom one
first. There is an entry for each operand, and the tokens have as many operands more than
operators. -/
def Shows (context : Context) (tokens : List Token) (line : String) : Prop :=
  ∃ token operands entries, tokens.getLast? = some token ∧ run context tokens = .ok operands ∧
    List.Forall₂ Number.IsListed operands.toList entries ∧
    (entries.length : Int) = height tokens ∧ (∀ entry ∈ entries, Stack.IsEntry entry) ∧
    line = "eval: " ++ token.text ++ " -> " ++
      "Bottom -> [" ++ ", ".intercalate entries ++ "] <- Top"

/-- A line tells the value of an evaluation. -/
def Tells (value : Number) (line : String) : Prop :=
  ∃ text, value.IsPrinted text ∧ line = "evaluated to " ++ text

/-- Where no token has failed before, a token is refused exactly if it fails. -/
theorem exists_failsAt_iff
    {position : Nat}
    {token : Token}
    {operands : Stack Number}
    (found : tokens[position]? = some token)
    (ran : run context (tokens.take position) = .ok operands) :
    (∃ fault, FailsAt context tokens position fault) ↔
      ∃ fault, accept context operands token = .error fault := by
  simp only [accept_eq_error_iff]
  exact exists_congr fun fault =>
    ⟨fun fails => fails.refusal ran found, fun refusal => refusal.failsAt ran found⟩

/-- Numbers are listed as they are written in listings. -/
theorem forall₂_isListed_iff {numbers : List Number} {entries : List String} :
    List.Forall₂ Number.IsListed numbers entries ↔
      entries = numbers.map (·.write Decimal.precise) := by
  have listed : Number.IsListed = fun number entry => number.write Decimal.precise = entry := by
    funext number entry
    exact propext Number.write_precise_eq_iff.symm
  rw [listed, ← List.forall₂_map_left_iff, List.forall₂_eq_eq_eq]
  exact eq_comm

/-- The operands after some tokens are described as they are to be shown. -/
theorem shows_iff {line : String} :
    Shows context tokens line ↔
      ∃ token operands, tokens.getLast? = some token ∧ run context tokens = .ok operands ∧
        line = describe token operands := by
  constructor
  · rintro ⟨token, operands, entries, isLast, ran, listed, -, -, rfl⟩
    rw [forall₂_isListed_iff] at listed
    refine ⟨token, operands, isLast, ran, ?_⟩
    rw [describe, Stack.listing, listed]
    simp only [String.append_assoc]
  · rintro ⟨token, operands, isLast, ran, rfl⟩
    refine ⟨token, operands, operands.toList.map (·.write Decimal.precise), isLast, ran,
      forall₂_isListed_iff.mpr rfl, ?_, ?_, ?_⟩
    · rw [List.length_map, Stack.toList, List.length_reverse]
      exact size_eq_height ran
    · intro entry present
      obtain ⟨number, -, rfl⟩ := List.mem_map.mp present
      exact (Number.write_precise_eq_iff.mp rfl).isEntry
    · rw [describe, Stack.listing]
      simp only [String.append_assoc]

/-- An evaluation tells its tokens with the operands after each, and its value. -/
theorem tellsProgress (context : Context) (tokens : List Token) :
    TellsProgress tokens (fun position => ∃ fault, FailsAt context tokens position fault)
      (Shows context) (evaluate context tokens) Tells (evaluationLog context tokens) := by
  have built : evaluationLog context tokens =
      logOf (List.zipWith describe tokens (Run.visited (accept context) .empty tokens))
        ((evaluate context tokens).map
          fun value => "evaluated to " ++ value.write Decimal.plain) := by
    unfold evaluationLog logOf
    rw [List.map_zipWith]
    cases evaluate context tokens <;> rfl
  rw [built]
  apply tellsProgress_logOf
  · rw [List.length_zipWith, Nat.min_eq_right (Run.length_visited_le _ _ _)]
    exact Run.stopsAt_length_visited fun position token operands => exists_failsAt_iff
  · intro position text
    simp only [List.getElem?_zipWith_eq_some, Run.getElem?_visited_eq_some_iff, shows_iff]
    constructor
    · rintro ⟨token, operands, found, ⟨within, ran⟩, rfl⟩
      exact ⟨within, token, operands, (Cut.getLast?_take_succ within).trans found, ran, rfl⟩
    · rintro ⟨within, token, operands, isLast, ran, rfl⟩
      have isLast := (Cut.getLast?_take_succ within).symm.trans isLast
      exact ⟨token, operands, isLast, ⟨within, ran⟩, rfl⟩
  · intro value
    exact ⟨_, Number.write_plain_eq_iff.mp rfl, rfl⟩

/-- No token fails because operands are left over. -/
theorem Refusal.ne_leftoverOperands
    {operands : Stack Number}
    {token : Token}
    (refusal : Refusal context operands token fault)
    (count : Nat) :
    fault ≠ .leftoverOperands count := by
  rintro rfl
  cases refusal with
  | operand valueless =>
      rcases Context.fault_of_operandValue valueless with same | same <;> cases same
  | application enough failed =>
      rcases fault_of_apply failed with same | same | same <;> cases same

/-- Operands are left over only if no token fails. -/
theorem not_failsAt_of_leftoverOperands
    {count position : Nat}
    (leftOver : evaluate context tokens = .error (.leftoverOperands count)) :
    ¬FailsAt context tokens position fault := by
  rcases evaluate_eq_error_iff.mp leftOver with ⟨_, _, _, _, _, _, refusal⟩ | ⟨operands, ran, _⟩
  · exact absurd rfl (refusal.ne_leftoverOperands count)
  · exact not_failsAt_of_run ran

end Evaluation

/-! ## Both together -/

/-- The logs tell how far a run got. Where operands are left over, all tokens are told and
no value is. A part of the tokens is told as the whole is at first. A calculation tells its
conversion and then, if that succeeds, its evaluation. -/
theorem log_tellsProgress (context : Context) (tokens : List Token) :
    TellsProgress tokens (Conversion.FailsAt tokens) Conversion.Shows
      (convert tokens) Conversion.Tells (conversionLog tokens) ∧
    TellsProgress tokens (fun position => ∃ fault, Evaluation.FailsAt context tokens position fault)
      (Evaluation.Shows context) (evaluate context tokens) Evaluation.Tells
      (evaluationLog context tokens) ∧
    (∀ count, evaluate context tokens = .error (.leftoverOperands count) ->
      (atLevel .trace (evaluationLog context tokens)).length = tokens.length ∧
        atLevel .debug (evaluationLog context tokens) = []) ∧
    (∀ part, part <+: tokens ->
      atLevel .trace (conversionLog part) <+: atLevel .trace (conversionLog tokens) ∧
        atLevel .trace (evaluationLog context part) <+:
          atLevel .trace (evaluationLog context tokens)) ∧
    ∀ text, ofText text = tokens ->
      (∀ output, convert tokens = .ok output ->
        calculationLog context text = conversionLog tokens ++ evaluationLog context output) ∧
      ∀ fault, convert tokens = .error fault ->
        calculationLog context text = conversionLog tokens := by
  have converting := Conversion.tellsProgress tokens
  have evaluating := Evaluation.tellsProgress context tokens
  refine ⟨converting, evaluating, ?_, ?_, ?_⟩
  · intro count leftOver
    have noneFails : ∀ position, ¬∃ fault, Evaluation.FailsAt context tokens position fault :=
      fun position ⟨fault, fails⟩ => Evaluation.not_failsAt_of_leftoverOperands leftOver fails
    exact ⟨evaluating.reach.eq_length noneFails,
      evaluating.failure (.leftoverOperands count) leftOver⟩
  · intro part isPart
    exact ⟨(Conversion.tellsProgress part).isPrefix isPart converting,
      (Evaluation.tellsProgress context part).isPrefix isPart evaluating⟩
  · rintro text rfl
    constructor
    · intro output converted
      rw [calculationLog, converted]
    · intro fault refused
      rw [calculationLog, refused, List.append_nil]

/-- Both operands of `pi e` are told although they are left over. Of `pi)e` the conversion
tells the first token, and nothing is told of an evaluation. -/
theorem log_tellsProgress_malformedTexts :
    ((atLevel .trace (evaluationLog .standard [.operand "pi", .operand "e"])).length = 2 ∧
      atLevel .debug (evaluationLog .standard [.operand "pi", .operand "e"]) = [] ∧
      atLevel .trace (evaluationLog .standard [.operand "pi"]) <+:
        atLevel .trace (evaluationLog .standard [.operand "pi", .operand "e"]) ∧
      calculationLog .standard "pi e" =
        conversionLog [.operand "pi", .operand "e"] ++
          evaluationLog .standard [.operand "pi", .operand "e"]) ∧
    (atLevel .trace
        (conversionLog [.operand "pi", .operator .closing, .operand "e"])).length = 1 ∧
      calculationLog .standard "pi)e" =
        conversionLog [.operand "pi", .operator .closing, .operand "e"] := by
  have stops : Run.StopsAt
      (Conversion.FailsAt [.operand "pi", .operator .closing, .operand "e"]) 3 1 := by
    refine ⟨by decide, ?_, fun _ => ⟨rfl, by decide⟩⟩
    rintro earlier before ⟨found, -⟩
    obtain rfl := Nat.lt_one_iff.mp before
    cases found
  obtain ⟨-, -, leftOver, parts, calculated⟩ :=
    log_tellsProgress .standard [.operand "pi", .operand "e"]
  obtain ⟨converting, -, -, -, refused⟩ :=
    log_tellsProgress .standard [.operand "pi", .operator .closing, .operand "e"]
  obtain ⟨allTold, noValue⟩ := leftOver 2 rfl
  exact ⟨⟨allTold, noValue, (parts [.operand "pi"] ⟨[.operand "e"], rfl⟩).2,
      (calculated "pi e" (by decide +kernel)).1 _ rfl⟩,
    converting.reach.unique stops,
    (refused "pi)e" (by decide +kernel)).2 .unbalancedParentheses rfl⟩

end PostfixCalculator
