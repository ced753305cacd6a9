import PostfixCalculator.Decimal.Literal
import PostfixCalculator.Fault
import PostfixCalculator.Number
import Std.Data.TreeMap

/-!
# Variables and the value of operands

A context gives values to names. Two constants are bound from the start and can
be bound anew. An operand of digits alone is a number whatever the context
binds; any other operand is the name of a variable.
-/

namespace PostfixCalculator

/-- The values of variables by name. -/
structure Context where
  bindings : Std.TreeMap String Number

namespace Context

/-- The circle constant to double precision. -/
def pi : Number := .ordinary (Float.ofBits 0x400921FB54442D18)

/-- The base of natural logarithms to double precision. -/
def e : Number := .ordinary (Float.ofBits 0x4005BF0A8B145769)

/-- Give a name a value, in place of any it had. -/
def bind (context : Context) (name : String) (value : Number) : Context :=
  ⟨context.bindings.insert name value⟩

/-- The value of a name. -/
def lookup? (context : Context) (name : String) : Option Number :=
  context.bindings[name]?

/-- Take the value from a name. -/
def unbind (context : Context) (name : String) : Context :=
  ⟨context.bindings.erase name⟩

/-- The context that binds the two constants. -/
def standard : Context :=
  ((⟨∅⟩ : Context).bind "pi" pi).bind "e" e

instance : Inhabited Context := ⟨standard⟩

/-- Bind several names in order, so that a later value replaces an earlier. -/
def bindAll (context : Context) (pairs : List (String × Number)) : Context :=
  pairs.foldl (fun current pair => current.bind pair.1 pair.2) context

/-- All names with their values, by increasing name. -/
def entries (context : Context) : List (String × Number) :=
  context.bindings.toList

/-- After binding, the name has the value, and every other name keeps its own. -/
theorem lookup?_bind
    (context : Context)
    (name other : String)
    (value : Number) :
    (context.bind name value).lookup? other =
      if name = other then some value else context.lookup? other := by
  simp [lookup?, bind, Std.TreeMap.getElem?_insert]

/-- After unbinding, the name has no value, and every other name keeps its own. -/
theorem lookup?_unbind
    (context : Context)
    (name other : String) :
    (context.unbind name).lookup? other =
      if name = other then none else context.lookup? other := by
  simp [lookup?, unbind, Std.TreeMap.getElem?_erase]

/-- The constants are the only names with a value from the start. -/
theorem lookup?_standard (name : String) :
    standard.lookup? name =
      if name = "e" then some e else if name = "pi" then some pi else none := by
  have nothing : (⟨∅⟩ : Context).lookup? name = none := by simp [lookup?]
  simp only [standard, lookup?_bind, nothing, eq_comm]

/-- Of several values for a name the last counts, and without any the name keeps its
own. -/
theorem lookup?_bindAll
    (context : Context)
    (pairs : List (String × Number))
    (name : String) :
    (context.bindAll pairs).lookup? name =
      ((pairs.reverse.find? (·.1 == name)).map Prod.snd).or (context.lookup? name) := by
  induction pairs generalizing context with
  | nil => rfl
  | cons pair pairs ofRest =>
      change ((context.bind pair.1 pair.2).bindAll pairs).lookup? name = _
      rw [ofRest, lookup?_bind, List.reverse_cons, List.find?_append, List.find?_singleton]
      cases pairs.reverse.find? (·.1 == name) with
      | some later => rfl
      | none =>
          by_cases same : pair.1 = name
          · simp [same]
          · simp [same]

/-- Names are listed in increasing order, each once. -/
theorem entries_ordered (context : Context) :
    context.entries.Pairwise fun first second => compare first.1 second.1 = .lt :=
  Std.TreeMap.ordered_keys_toList

/-- Whether an operand is to be read as a number: it has no character but
digits. -/
def isNumeral (lexeme : String) : Bool :=
  lexeme.toList.all Char.isDigit

/-- The value of an operand. -/
def operandValue (context : Context) (lexeme : String) : Except Fault Number :=
  if isNumeral lexeme then
    match Decimal.read lexeme with
    | .ok value => .ok (.ordinary value)
    | .error _ => .error (.badNumber lexeme)
  else
    match context.lookup? lexeme with
    | some value => .ok value
    | none => .error (.unknownVariable lexeme)

/-- An operand has no value only as a number that cannot be read or as a variable
without one. -/
theorem fault_of_operandValue
    {context : Context}
    {lexeme : String}
    {fault : Fault}
    (failed : context.operandValue lexeme = .error fault) :
    fault = .badNumber lexeme ∨ fault = .unknownVariable lexeme := by
  unfold operandValue at failed
  split at failed
  · split at failed
    · cases failed
    · cases failed
      exact Or.inl rfl
  · split at failed
    · cases failed
    · cases failed
      exact Or.inr rfl

end Context

end PostfixCalculator
