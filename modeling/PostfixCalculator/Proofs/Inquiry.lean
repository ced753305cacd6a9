import PostfixCalculator.Proofs.Evaluation

/-!
# Evaluations as inquiries

What an evaluation looks up is not to be seen from its result. An inquiry is a
computation that has no context, and asks for the value of a name where it needs one.
Answered from a context it has a result, and also a list of the names that it has
asked for, in their order and each as often as it was asked for.

The inquiry of some tokens has the result of their evaluation in every context. It
asks for the operands that are no numerals, one after the other up to the first token
that is refused.
-/

namespace PostfixCalculator

/-- A computation that asks for the values of names. -/
inductive Inquiry (Result : Type)
  | done (result : Result)
  | ask (name : String) (next : Option Number -> Inquiry Result)

namespace Inquiry

variable {Result : Type}

/-- The result of an inquiry that is answered from a context. -/
def answer (context : Context) : Inquiry Result -> Result
  | .done result => result
  | .ask name next => (next (context.lookup? name)).answer context

/-- The names that an inquiry asks for when it is answered from a context. -/
def asked (context : Context) : Inquiry Result -> List String
  | .done _ => []
  | .ask name next => name :: (next (context.lookup? name)).asked context

/-- Go on with the value of an operand. A numeral is read, and any other operand is
asked for. -/
def ofOperand
    (lexeme : String)
    (next : Except Fault Number -> Inquiry Result) : Inquiry Result :=
  if Context.isNumeral lexeme then
    match Decimal.read lexeme with
    | .ok value => next (.ok (.ordinary value))
    | .error _ => next (.error (.badNumber lexeme))
  else
    .ask lexeme fun
      | some value => next (.ok value)
      | none => next (.error (.unknownVariable lexeme))

/-- Go on with what a computation yields, if it does not fail. -/
def ofResult {State : Type}
    (next : State -> Inquiry (Except Fault Result)) :
    Except Fault State -> Inquiry (Except Fault Result)
  | .ok state => next state
  | .error fault => .done (.error fault)

/-- The evaluation of some tokens from a stack of operands on. -/
def ofTokens (operands : Stack Number) : List Token -> Inquiry (Except Fault Number)
  | [] => .done (Evaluation.finish operands)
  | .operand lexeme :: rest =>
      ofOperand lexeme (ofResult fun value => ofTokens (operands.push value) rest)
  | .operator operator :: rest =>
      ofResult (fun next => ofTokens next rest) (Evaluation.applyTop operands operator)

/-- An inquiry goes on with the value that the operand has in the context. -/
@[simp] theorem answer_ofOperand
    (context : Context)
    (lexeme : String)
    (next : Except Fault Number -> Inquiry Result) :
    (ofOperand lexeme next).answer context =
      (next (context.operandValue lexeme)).answer context := by
  unfold ofOperand Context.operandValue
  split
  · cases Decimal.read lexeme <;> rfl
  · rw [answer]
    cases context.lookup? lexeme <;> rfl

/-- What is asked for is the operand, unless it is a numeral, and what is asked for
afterwards. -/
@[simp] theorem asked_ofOperand
    (context : Context)
    (lexeme : String)
    (next : Except Fault Number -> Inquiry Result) :
    (ofOperand lexeme next).asked context =
      (if Context.isNumeral lexeme then [] else [lexeme]) ++
        (next (context.operandValue lexeme)).asked context := by
  unfold ofOperand Context.operandValue
  split
  · cases Decimal.read lexeme <;> rfl
  · rw [asked]
    cases context.lookup? lexeme <;> rfl

/-- The inquiry of some tokens has the result of their evaluation. -/
theorem answer_ofTokens
    (context : Context)
    (operands : Stack Number)
    (tokens : List Token) :
    (ofTokens operands tokens).answer context =
      (tokens.foldlM (Evaluation.accept context) operands >>= Evaluation.finish) := by
  induction tokens generalizing operands with
  | nil => rfl
  | cons token rest inductionHypothesis =>
      rw [List.foldlM_cons]
      cases token with
      | operand lexeme =>
          rw [ofTokens, answer_ofOperand, Evaluation.accept_operand]
          cases context.operandValue lexeme with
          | error fault => rfl
          | ok value => exact inductionHypothesis (operands.push value)
      | operator operator =>
          rw [ofTokens, Evaluation.accept_operator]
          cases Evaluation.applyTop operands operator with
          | error fault => rfl
          | ok next => exact inductionHypothesis next

/-- After a computation that fails nothing is asked for. -/
theorem exists_of_mem_asked_ofResult
    {State : Type}
    {context : Context}
    {next : State -> Inquiry (Except Fault Result)}
    {computation : Except Fault State}
    {name : String}
    (isAsked : name ∈ (ofResult next computation).asked context) :
    ∃ state, name ∈ (next state).asked context := by
  cases computation with
  | error fault => contradiction
  | ok state => exact ⟨state, isAsked⟩

/-- What is asked for is an operand and no numeral. -/
theorem operand_mem_of_mem_asked
    {context : Context}
    {operands : Stack Number}
    {tokens : List Token}
    {name : String}
    (isAsked : name ∈ (ofTokens operands tokens).asked context) :
    .operand name ∈ tokens ∧ Context.isNumeral name = false := by
  induction tokens generalizing operands with
  | nil => contradiction
  | cons token rest inductionHypothesis =>
      cases token with
      | operand lexeme =>
          rw [ofTokens, asked_ofOperand, List.mem_append] at isAsked
          rcases isAsked with isFirst | later
          · split at isFirst
            · contradiction
            · next notNumeral =>
              rw [List.mem_singleton.mp isFirst]
              exact ⟨List.mem_cons_self, Bool.eq_false_iff.mpr notNumeral⟩
          · obtain ⟨value, isAsked⟩ := exists_of_mem_asked_ofResult later
            obtain ⟨present, notNumeral⟩ := inductionHypothesis isAsked
            exact ⟨List.mem_cons_of_mem _ present, notNumeral⟩
      | operator operator =>
          rw [ofTokens] at isAsked
          obtain ⟨next, isAsked⟩ := exists_of_mem_asked_ofResult isAsked
          obtain ⟨present, notNumeral⟩ := inductionHypothesis isAsked
          exact ⟨List.mem_cons_of_mem _ present, notNumeral⟩

end Inquiry

end PostfixCalculator
