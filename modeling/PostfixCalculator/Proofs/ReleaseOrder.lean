import PostfixCalculator.Proofs.Conversion
import PostfixCalculator.Proofs.Schedule

/-!
# A conversion releases by schedule

The output of a conversion that succeeds is the list of its tokens in the order
of their releases.

The proof accounts for a run by indices of the input. At each position the
output is the part of the schedule before the position, and the operators on the
stack are those that wait there, the latest on top. Moreover the parentheses on
the stack mirror the nesting of the input: the innermost parenthesis around an
operator on the stack is the first one below it. This is why each step releases
exactly the top of the stack down to some operator, and no operator below that
one is freed as well.
-/

namespace PostfixCalculator
namespace Schedule

open Token

/-! ## Indices of operators -/

/-- Some indices hold some operators, in the same order. -/
def Holds
    (tokens : List Token)
    (indices : List Nat)
    (operators : List Operator) : Prop :=
  indices.map (fun index => tokens[index]?) =
    operators.map fun operator => some (.operator operator)

theorem Holds.cons
    {tokens : List Token}
    {index : Nat}
    {indices : List Nat}
    {operator : Operator}
    {operators : List Operator}
    (found : tokens[index]? = some (.operator operator))
    (holds : Holds tokens indices operators) :
    Holds tokens (index :: indices) (operator :: operators) := by
  rw [Holds, List.map_cons, List.map_cons, found, holds]

/-- Operators in two parts are held by indices in two parts. -/
theorem Holds.split
    {tokens : List Token}
    {indices : List Nat}
    {upper lower : List Operator}
    (holds : Holds tokens indices (upper ++ lower)) :
    ∃ above below, indices = above ++ below ∧
      Holds tokens above upper ∧ Holds tokens below lower := by
  rw [Holds, List.map_append] at holds
  exact List.map_eq_append_iff.mp holds

theorem Holds.exists_cons
    {tokens : List Token}
    {indices : List Nat}
    {operator : Operator}
    {operators : List Operator}
    (holds : Holds tokens indices (operator :: operators)) :
    ∃ index below, indices = index :: below ∧
      tokens[index]? = some (.operator operator) ∧ Holds tokens below operators :=
  List.map_eq_cons_iff.mp holds

/-- Each index holds one of the operators. -/
theorem Holds.exists_mem
    {tokens : List Token}
    {indices : List Nat}
    {operators : List Operator}
    (holds : Holds tokens indices operators)
    {index : Nat}
    (present : index ∈ indices) :
    ∃ operator ∈ operators, tokens[index]? = some (.operator operator) := by
  have held : tokens[index]? ∈ operators.map fun operator => some (.operator operator) :=
    holds ▸ List.mem_map_of_mem present
  obtain ⟨operator, isHeld, eq⟩ := List.mem_map.mp held
  exact ⟨operator, isHeld, eq.symm⟩

/-! ## Releases at one position -/

/-- Tokens that are released together. -/
def together (time : Nat) (indices : List Nat) : List Release :=
  indices.map (Release.mk time)

@[simp] theorem mem_together_iff
    {time : Nat}
    {indices : List Nat}
    {release : Release} :
    release ∈ together time indices ↔ release.time = time ∧ release.index ∈ indices := by
  rw [together, List.mem_map]
  constructor
  · rintro ⟨index, present, rfl⟩
    exact ⟨rfl, present⟩
  · rintro ⟨rfl, present⟩
    exact ⟨release.index, present, rfl⟩

/-- Releases together are in order if their indices fall. -/
theorem together_ordered
    {indices : List Nat}
    (falling : indices.Pairwise (· > ·))
    (time : Nat) :
    (together time indices).Pairwise Release.Precedes := by
  rw [together, List.pairwise_map]
  exact falling.imp fun lt => Or.inr ⟨rfl, lt⟩

@[simp] theorem released_append (tokens : List Token) (first second : List Release) :
    released tokens (first ++ second) = released tokens first ++ released tokens second :=
  List.filterMap_append

/-- Releasing indices together releases the operators they hold. -/
theorem released_together
    {tokens : List Token}
    {indices : List Nat}
    {operators : List Operator}
    (holds : Holds tokens indices operators)
    (time : Nat) :
    released tokens (together time indices) = operators.map Token.operator := by
  have released_eq : released tokens (together time indices) =
      (indices.map fun index => tokens[index]?).filterMap id := by
    rw [released, together, List.filterMap_map, List.filterMap_map]
    rfl
  rw [released_eq, holds, List.filterMap_map]
  exact congrFun List.filterMap_eq_map operators

/-- A list holds the releases before a position, in their order. -/
structure IsScheduleBefore
    (tokens : List Token)
    (position : Nat)
    (releases : List Release) : Prop where
  complete : ∀ release, release ∈ releases ↔
    release.time < position ∧ ReleaseTime tokens release.index release.time
  ordered : releases.Pairwise Release.Precedes

/-- The releases at a position follow those before it. -/
theorem IsScheduleBefore.append
    {tokens : List Token}
    {position : Nat}
    {releases : List Release}
    {indices : List Nat}
    (schedule : IsScheduleBefore tokens position releases)
    (current : ∀ index, index ∈ indices ↔ ReleaseTime tokens index position)
    (falling : indices.Pairwise (· > ·)) :
    IsScheduleBefore tokens (position + 1) (releases ++ together position indices) := by
  constructor
  · intro release
    rw [List.mem_append, schedule.complete, mem_together_iff, current]
    constructor
    · rintro (⟨earlier, releaseTime⟩ | ⟨rfl, releaseTime⟩)
      · exact ⟨Nat.lt_succ_of_lt earlier, releaseTime⟩
      · exact ⟨Nat.lt_succ_self _, releaseTime⟩
    · rintro ⟨before, releaseTime⟩
      rcases Nat.lt_succ_iff_lt_or_eq.mp before with earlier | rfl
      · exact Or.inl ⟨earlier, releaseTime⟩
      · exact Or.inr ⟨rfl, releaseTime⟩
  · rw [List.pairwise_append]
    refine ⟨schedule.ordered, together_ordered falling position, ?_⟩
    intro first isFirst second isSecond
    have earlier := ((schedule.complete first).mp isFirst).1
    have now := (mem_together_iff.mp isSecond).1
    exact Or.inl (now ▸ earlier)

/-! ## The nesting of the stack -/

/-- None of some indices holds an opening parenthesis. -/
def WithoutOpening (tokens : List Token) (indices : List Nat) : Prop :=
  ∀ index ∈ indices, tokens[index]? ≠ some (.operator .opening)

/-- Indices of operators that are no opening parentheses hold none. -/
theorem Holds.withoutOpening
    {tokens : List Token}
    {indices : List Nat}
    {operators : List Operator}
    (holds : Holds tokens indices operators)
    (noOpening : .opening ∉ operators) :
    WithoutOpening tokens indices := by
  intro index present opens
  obtain ⟨operator, isHeld, found⟩ := holds.exists_mem present
  rw [opens] at found
  cases found
  exact noOpening isHeld

/-- The first index that holds an opening parenthesis. -/
def innermost? (tokens : List Token) (indices : List Nat) : Option Nat :=
  indices.find? fun index => tokens[index]? = some (.operator .opening)

/-- The innermost parenthesis around each index is the first one after it. -/
def Nested (tokens : List Token) : List Nat -> Prop
  | [] => True
  | index :: below =>
      (∀ opening, Encloses tokens opening index ↔ innermost? tokens below = some opening) ∧
        Nested tokens below

/-- A parenthesis is the innermost one for what is above it. -/
theorem innermost?_cons_of_opening
    {tokens : List Token}
    {index : Nat}
    (opens : tokens[index]? = some (.operator .opening))
    (below : List Nat) :
    innermost? tokens (index :: below) = some index := by
  simp [innermost?, opens]

/-- An operator that is no parenthesis does not matter for the innermost one. -/
theorem innermost?_cons_of_binary
    {tokens : List Token}
    {index : Nat}
    {operator : BinaryOperator}
    (isBinary : tokens[index]? = some (.operator (.binary operator)))
    (below : List Nat) :
    innermost? tokens (index :: below) = innermost? tokens below := by
  simp [innermost?, isBinary]

/-- Operators that are no parentheses do not matter for the innermost one. -/
theorem innermost?_append
    {tokens : List Token}
    {above : List Nat}
    (noneOpens : WithoutOpening tokens above)
    (below : List Nat) :
    innermost? tokens (above ++ below) = innermost? tokens below := by
  have noneAbove : innermost? tokens above = none := by
    simpa [innermost?, WithoutOpening] using noneOpens
  rw [innermost?, List.find?_append]
  rw [innermost?] at noneAbove
  rw [noneAbove, Option.none_or]
  rfl

theorem Nested.of_append
    {tokens : List Token}
    {above below : List Nat}
    (nested : Nested tokens (above ++ below)) :
    Nested tokens below := by
  induction above with
  | nil => exact nested
  | cons index rest inductionHypothesis => exact inductionHypothesis nested.2

/-- Operators with no parenthesis between them are in the same group. -/
theorem Nested.encloses_iff
    {tokens : List Token}
    {above below : List Nat}
    (nested : Nested tokens (above ++ below))
    (noneOpens : WithoutOpening tokens above)
    {index : Nat}
    (present : index ∈ above)
    (opening : Nat) :
    Encloses tokens opening index ↔ innermost? tokens below = some opening := by
  induction above with
  | nil => contradiction
  | cons first rest inductionHypothesis =>
      rw [List.cons_append] at nested
      obtain ⟨around, nestedRest⟩ := nested
      have noneInRest : WithoutOpening tokens rest :=
        fun other inRest => noneOpens other (List.mem_cons_of_mem first inRest)
      rcases List.mem_cons.mp present with rfl | inRest
      · rw [around opening, innermost?_append noneInRest]
      · exact inductionHypothesis nestedRest noneInRest inRest

/-! ## Accounting for a run -/

/-- Before a position the output is by schedule, and the stack holds what waits,
the latest on top. -/
structure Accounts
    (tokens : List Token)
    (position : Nat)
    (state : Conversion)
    (releases : List Release)
    (pending : List Nat) : Prop where
  output : state.output.toList = released tokens releases
  schedule : IsScheduleBefore tokens position releases
  holds : Holds tokens pending state.waiting.items
  waits : ∀ index, index ∈ pending ↔ Waits tokens position index
  falling : pending.Pairwise (· > ·)
  nested : Nested tokens (position :: pending)

theorem accounts_start (tokens : List Token) :
    Accounts tokens 0 Conversion.start [] [] where
  output := rfl
  schedule := ⟨by simp, List.Pairwise.nil⟩
  holds := rfl
  waits := by simp [Waits]
  falling := List.Pairwise.nil
  nested := ⟨fun opening => by simp [innermost?, not_encloses_zero], trivial⟩

namespace Accounts

variable
    {tokens : List Token}
    {position : Nat}
    {state : Conversion}
    {releases : List Release}
    {pending above below : List Nat}

/-- What waits with no parenthesis above it is enclosed by the innermost
parenthesis on the stack, and so is the position. -/
theorem encloses_iff
    (accounts : Accounts tokens position state releases (above ++ below))
    (noneOpens : WithoutOpening tokens above)
    (opening : Nat) :
    Encloses tokens opening position ↔ innermost? tokens below = some opening := by
  rw [accounts.nested.1, innermost?_append noneOpens]

/-- What waits with no parenthesis above it is in the group of the position. -/
theorem encloses_above_iff
    (accounts : Accounts tokens position state releases (above ++ below))
    (noneOpens : WithoutOpening tokens above)
    {index : Nat}
    (present : index ∈ above)
    (opening : Nat) :
    Encloses tokens opening index ↔ Encloses tokens opening position := by
  rw [accounts.encloses_iff noneOpens, accounts.nested.2.encloses_iff noneOpens present]

/-- What waits with no parenthesis among it are binary operators. -/
theorem exists_binary_above
    (accounts : Accounts tokens position state releases (above ++ below))
    (noneOpens : WithoutOpening tokens above)
    {index : Nat}
    (present : index ∈ above) :
    index < position ∧ ∃ operator, tokens[index]? = some (.operator (.binary operator)) := by
  have waits := (accounts.waits index).mp (List.mem_append_left below present)
  exact ⟨waits.1, waits.exists_binary (noneOpens index present)⟩

/-- What waits after a step that takes some operators off the top of the stack,
each of which leaves, and none of the others does. -/
theorem mem_below_iff
    (accounts : Accounts tokens position state releases (above ++ below))
    (leave : ∀ index ∈ above, Leaves tokens index position)
    (stay : ∀ index ∈ below, ¬Leaves tokens index position)
    (index : Nat) :
    index ∈ below ↔ Waits tokens position index ∧ ¬Leaves tokens index position := by
  rw [← accounts.waits, List.mem_append]
  constructor
  · exact fun present => ⟨Or.inr present, stay index present⟩
  · rintro ⟨isAbove | isBelow, stays⟩
    · exact absurd (leave index isAbove) stays
    · exact isBelow

/-- What an operator releases is what it frees among the operators that wait. -/
theorem releaseTime_iff
    (accounts : Accounts tokens position state releases pending)
    {operator : Operator}
    (found : tokens[position]? = some (.operator operator))
    (index : Nat) :
    ReleaseTime tokens index position ↔ index ∈ pending ∧ Frees tokens index position := by
  obtain ⟨bound, -⟩ := List.getElem?_eq_some_iff.mp found
  rw [releaseTime_iff_of_lt bound, accounts.waits]
  simp [found]

/-- An operator releases the top of the stack if it frees all of it and nothing
below. -/
theorem mem_above_iff
    (accounts : Accounts tokens position state releases (above ++ below))
    {operator : Operator}
    (found : tokens[position]? = some (.operator operator))
    (freed : ∀ index ∈ above, Frees tokens index position)
    (kept : ∀ index ∈ below, ¬Frees tokens index position)
    (index : Nat) :
    index ∈ above ↔ ReleaseTime tokens index position := by
  rw [accounts.releaseTime_iff found, List.mem_append]
  constructor
  · exact fun present => ⟨Or.inl present, freed index present⟩
  · rintro ⟨isAbove | isBelow, frees⟩
    · exact isAbove
    · exact absurd frees (kept index isBelow)

/-! ### Operands and opening parentheses -/

/-- An operand is released at once and changes nothing else. -/
theorem operand
    {lexeme : String}
    (accounts : Accounts tokens position state releases pending)
    (found : tokens[position]? = some (.operand lexeme)) :
    Accounts tokens (position + 1) (state.put (.operand lexeme))
      (releases ++ together position [position]) pending := by
  have noneLeaves : ∀ index, ¬Leaves tokens index position :=
    not_leaves_of_other (by simp [found]) (by simp [found])
  obtain ⟨bound, -⟩ := List.getElem?_eq_some_iff.mp found
  refine ⟨?_, accounts.schedule.append ?_ (List.pairwise_singleton _ _), accounts.holds, ?_,
    accounts.falling, ?_, accounts.nested.2⟩
  · rw [Conversion.output_put, accounts.output, released_append]
    simp [released, together, found]
  · intro index
    rw [releaseTime_iff_of_lt bound, List.mem_singleton]
    constructor
    · exact fun same => Or.inl ⟨same, lexeme, found⟩
    · rintro (⟨same, -⟩ | ⟨-, frees⟩)
      · exact same
      · exact absurd (Or.inl frees) (noneLeaves index)
  · intro index
    rw [accounts.waits, waits_succ_iff]
    simp [noneLeaves, found]
  · intro opening
    rw [encloses_succ_of_plain found (by simp) (by simp)]
    exact accounts.nested.1 opening

/-- An opening parenthesis begins to wait and releases nothing. -/
theorem opening
    (accounts : Accounts tokens position state releases pending)
    (found : tokens[position]? = some (.operator .opening)) :
    Accounts tokens (position + 1) (state.hold .opening)
      (releases ++ together position []) (position :: pending) := by
  have noneLeaves : ∀ index, ¬Leaves tokens index position :=
    not_leaves_of_other (by simp [found]) (by simp [found])
  refine ⟨?_, accounts.schedule.append ?_ List.Pairwise.nil, accounts.holds.cons found, ?_,
    ?_, ?_, accounts.nested⟩
  · simp [accounts.output, together]
  · intro index
    rw [accounts.releaseTime_iff found]
    constructor
    · exact fun present => absurd present List.not_mem_nil
    · exact fun ⟨_, frees⟩ => absurd (Or.inl frees) (noneLeaves index)
  · intro index
    rw [List.mem_cons, accounts.waits, waits_succ_iff]
    simp [noneLeaves, found, or_comm]
  · rw [List.pairwise_cons]
    exact ⟨fun index present => ((accounts.waits index).mp present).1, accounts.falling⟩
  · intro opening
    rw [encloses_succ_of_opening found, innermost?_cons_of_opening found]
    exact ⟨fun same => same ▸ rfl, fun same => (Option.some.inj same).symm⟩

/-! ### Closing parentheses -/

/-- The first parenthesis on the stack is the innermost one around the position. -/
theorem encloses_iff_eq
    {partner : Nat}
    (accounts : Accounts tokens position state releases (above ++ partner :: below))
    (noneOpens : WithoutOpening tokens above)
    (opens : tokens[partner]? = some (.operator .opening))
    (opening : Nat) :
    Encloses tokens opening position ↔ opening = partner := by
  rw [accounts.encloses_iff noneOpens, innermost?_cons_of_opening opens, Option.some.injEq,
    eq_comm]

/-- A closing parenthesis frees what waits above its partner. -/
theorem frees_above_partner
    {partner : Nat}
    (accounts : Accounts tokens position state releases (above ++ partner :: below))
    (noneOpens : WithoutOpening tokens above)
    (opens : tokens[partner]? = some (.operator .opening))
    (found : tokens[position]? = some (.operator .closing))
    {index : Nat}
    (present : index ∈ above) :
    Frees tokens index position := by
  have closes : Encloses tokens partner position :=
    (accounts.encloses_iff_eq noneOpens opens partner).mpr rfl
  obtain ⟨before, isBinary⟩ := accounts.exists_binary_above noneOpens present
  refine (frees_iff_of_closing found).mpr ⟨before, isBinary, partner, ?_, closes⟩
  exact (accounts.encloses_above_iff noneOpens present partner).mpr closes

/-- What is below the partner of a closing parenthesis is outside of the group
and stays. -/
theorem not_leaves_below_partner
    {partner : Nat}
    (accounts : Accounts tokens position state releases (above ++ partner :: below))
    (noneOpens : WithoutOpening tokens above)
    (opens : tokens[partner]? = some (.operator .opening))
    (found : tokens[position]? = some (.operator .closing))
    {index : Nat}
    (present : index ∈ below) :
    ¬Leaves tokens index position := by
  have isPartner := accounts.encloses_iff_eq noneOpens opens
  obtain ⟨-, partnerFalling, -⟩ := List.pairwise_append.mp accounts.falling
  have earlier : index < partner := (List.pairwise_cons.mp partnerFalling).1 index present
  rintro (frees | ⟨-, closes⟩)
  · obtain ⟨-, -, opening, around, closes⟩ := (frees_iff_of_closing found).mp frees
    rw [(isPartner opening).mp closes] at around
    exact Nat.lt_asymm earlier around.1
  · exact Nat.ne_of_lt earlier ((isPartner index).mp closes)

/-- A closing parenthesis releases what waits above its partner, and takes the
partner off the stack. -/
theorem closing
    {released kept : List Operator}
    (accounts : Accounts tokens position state releases pending)
    (found : tokens[position]? = some (.operator .closing))
    (waiting : state.waiting.items = released ++ .opening :: kept)
    (noOpening : .opening ∉ released) :
    ∃ above below, Accounts tokens (position + 1) (state.release released kept)
      (releases ++ together position above) below := by
  have holds := accounts.holds
  rw [waiting] at holds
  obtain ⟨above, rest, rfl, aboveHolds, restHolds⟩ := holds.split
  obtain ⟨partner, below, rfl, opens, belowHolds⟩ := restHolds.exists_cons
  have noneOpens := aboveHolds.withoutOpening noOpening
  have isPartner := accounts.encloses_iff_eq noneOpens opens
  have freed : ∀ index ∈ above, Frees tokens index position :=
    fun index present => accounts.frees_above_partner noneOpens opens found present
  have partnerLeaves : Leaves tokens partner position :=
    Or.inr ⟨found, (isPartner partner).mpr rfl⟩
  have belowStays : ∀ index ∈ below, ¬Leaves tokens index position :=
    fun index present => accounts.not_leaves_below_partner noneOpens opens found present
  have restKept : ∀ index ∈ partner :: below, ¬Frees tokens index position := by
    intro index present frees
    rcases List.mem_cons.mp present with rfl | isBelow
    · exact not_frees_of_opening opens position frees
    · exact belowStays index isBelow (Or.inl frees)
  obtain ⟨aroundPartner, nestedBelow⟩ := accounts.nested.2.of_append
  obtain ⟨aboveFalling, restFalling, -⟩ := List.pairwise_append.mp accounts.falling
  have current := accounts.mem_above_iff found freed restKept
  refine ⟨above, below, ?_, accounts.schedule.append current aboveFalling, belowHolds, ?_,
    (List.pairwise_cons.mp restFalling).2, ?_, nestedBelow⟩
  · rw [Conversion.output_release, accounts.output, released_append,
      released_together aboveHolds]
  · intro index
    rw [List.append_cons] at accounts
    rw [waits_succ_iff, accounts.mem_below_iff _ belowStays]
    · simp [found]
    · intro index present
      rcases List.mem_append.mp present with isAbove | isPartner
      · exact Or.inl (freed index isAbove)
      · exact List.mem_singleton.mp isPartner ▸ partnerLeaves
  · intro opening
    rw [encloses_succ_of_closing found, ← aroundPartner]
    constructor
    · rintro ⟨other, closes, around⟩
      rwa [(isPartner other).mp closes] at around
    · exact fun around => ⟨partner, (isPartner partner).mpr rfl, around⟩

/-! ### Binary operators -/

/-- A binary operator frees what waits above, if that binds as strongly. -/
theorem frees_above_weaker
    {operator : BinaryOperator}
    {upper : List Operator}
    (accounts : Accounts tokens position state releases (above ++ below))
    (noneOpens : WithoutOpening tokens above)
    (found : tokens[position]? = some (.operator (.binary operator)))
    (aboveHolds : Holds tokens above upper)
    (strong : ∀ top ∈ upper, operator.rank ≤ top.rank)
    {index : Nat}
    (present : index ∈ above) :
    Frees tokens index position := by
  obtain ⟨before, other, isBinary⟩ := accounts.exists_binary_above noneOpens present
  obtain ⟨top, isHeld, isTop⟩ := aboveHolds.exists_mem present
  rw [isBinary] at isTop
  cases isTop
  exact (frees_iff_of_binary found).mpr
    ⟨before, other, isBinary, strong _ isHeld,
      accounts.encloses_above_iff noneOpens present⟩

/-- A binary operator frees nothing below an opening parenthesis: that is outside
of its group. -/
theorem not_frees_below_opening
    {operator : BinaryOperator}
    {first : Nat}
    (accounts : Accounts tokens position state releases (above ++ first :: below))
    (noneOpens : WithoutOpening tokens above)
    (found : tokens[position]? = some (.operator (.binary operator)))
    (opens : tokens[first]? = some (.operator .opening))
    {index : Nat}
    (earlier : index < first) :
    ¬Frees tokens index position := by
  intro frees
  obtain ⟨-, -, -, -, sameGroup⟩ := (frees_iff_of_binary found).mp frees
  have around := (accounts.encloses_iff_eq noneOpens opens first).mpr rfl
  exact Nat.lt_asymm earlier ((sameGroup first).mpr around).1

/-- A binary operator frees nothing below an operator of a lower rank: in the
same group, that one would have freed it before. -/
theorem not_frees_below_weaker
    {operator weaker : BinaryOperator}
    {first : Nat}
    (accounts : Accounts tokens position state releases (above ++ first :: below))
    (noneOpens : WithoutOpening tokens above)
    (found : tokens[position]? = some (.operator (.binary operator)))
    (isBinary : tokens[first]? = some (.operator (.binary weaker)))
    (lower : weaker.rank < operator.rank)
    {index : Nat}
    (present : index ∈ below)
    (earlier : index < first) :
    ¬Frees tokens index position := by
  intro frees
  obtain ⟨-, waiting, isThere, binds, sameGroup⟩ := (frees_iff_of_binary found).mp frees
  have around : ∀ opening, Encloses tokens opening index ↔ Encloses tokens opening first := by
    intro opening
    rw [sameGroup, accounts.encloses_iff noneOpens, accounts.nested.2.of_append.1,
      innermost?_cons_of_binary isBinary]
  have freed : Frees tokens index first := (frees_iff_of_binary isBinary).mpr
    ⟨earlier, waiting, isThere, Nat.le_trans (Nat.le_of_lt lower) binds, around⟩
  obtain ⟨firstBefore, -, -⟩ := (accounts.waits first).mp (by simp)
  obtain ⟨-, -, stays⟩ := (accounts.waits index).mp (by simp [present])
  exact stays first firstBefore (Or.inl freed)

/-- A binary operator frees nothing from the first operator of a lower rank on. -/
theorem not_frees_below
    {operator : BinaryOperator}
    {lower : List Operator}
    (accounts : Accounts tokens position state releases (above ++ below))
    (noneOpens : WithoutOpening tokens above)
    (found : tokens[position]? = some (.operator (.binary operator)))
    (belowHolds : Holds tokens below lower)
    (stops : ∀ top ∈ lower.head?, top.rank < operator.rank)
    {index : Nat}
    (present : index ∈ below) :
    ¬Frees tokens index position := by
  cases lower with
  | nil =>
      rw [List.map_eq_nil_iff.mp belowHolds] at present
      contradiction
  | cons top lower =>
      obtain ⟨first, rest, rfl, isTop, -⟩ := belowHolds.exists_cons
      have weaker : top.rank < operator.rank := stops top rfl
      obtain ⟨-, belowFalling, -⟩ := List.pairwise_append.mp accounts.falling
      have waits := (accounts.waits first).mp (by simp)
      rcases List.mem_cons.mp present with rfl | inRest
      · intro frees
        obtain ⟨-, waiting, isThere, binds, -⟩ := (frees_iff_of_binary found).mp frees
        obtain rfl : top = .binary waiting := by simpa [isTop] using isThere
        exact absurd weaker (Nat.not_lt_of_le binds)
      have earlier : index < first := (List.pairwise_cons.mp belowFalling).1 index inRest
      by_cases opens : tokens[first]? = some (.operator .opening)
      · exact accounts.not_frees_below_opening noneOpens found opens earlier
      · obtain ⟨other, isBinary⟩ := waits.exists_binary opens
        obtain rfl : top = .binary other := by simpa [isTop] using isBinary
        exact accounts.not_frees_below_weaker noneOpens found isBinary weaker inRest earlier

/-- A binary operator releases what waits above the first operator of a lower
rank, and begins to wait. -/
theorem binary
    {operator : BinaryOperator}
    {released kept : List Operator}
    (accounts : Accounts tokens position state releases pending)
    (found : tokens[position]? = some (.operator (.binary operator)))
    (waiting : state.waiting.items = released ++ kept)
    (strong : ∀ top ∈ released, operator.rank ≤ top.rank)
    (stops : ∀ top ∈ kept.head?, top.rank < operator.rank) :
    ∃ above below, Accounts tokens (position + 1)
      ((state.release released kept).hold (.binary operator))
      (releases ++ together position above) (position :: below) := by
  have holds := accounts.holds
  rw [waiting] at holds
  obtain ⟨above, below, rfl, aboveHolds, belowHolds⟩ := holds.split
  have noneOpens : WithoutOpening tokens above :=
    aboveHolds.withoutOpening (Conversion.opening_notMem_of_rank_le strong)
  have freed : ∀ index ∈ above, Frees tokens index position :=
    fun index present => accounts.frees_above_weaker noneOpens found aboveHolds strong present
  have notFreed : ∀ index ∈ below, ¬Frees tokens index position :=
    fun index present => accounts.not_frees_below noneOpens found belowHolds stops present
  have stays : ∀ index ∈ below, ¬Leaves tokens index position := by
    rintro index present (frees | ⟨closing, -⟩)
    · exact notFreed index present frees
    · simp [found] at closing
  obtain ⟨aboveFalling, belowFalling, -⟩ := List.pairwise_append.mp accounts.falling
  have current := accounts.mem_above_iff found freed notFreed
  refine ⟨above, below, ?_, accounts.schedule.append current aboveFalling,
    belowHolds.cons found, ?_, ?_, ?_, accounts.encloses_iff noneOpens,
    accounts.nested.2.of_append⟩
  · rw [Conversion.output_hold, Conversion.output_release, accounts.output,
      released_append, released_together aboveHolds]
  · intro index
    rw [List.mem_cons, waits_succ_iff,
      accounts.mem_below_iff (fun other present => Or.inl (freed other present)) stays]
    simp [found, or_comm]
  · rw [List.pairwise_cons]
    refine ⟨fun index present => ?_, belowFalling⟩
    exact ((accounts.waits index).mp (List.mem_append_right _ present)).1
  · intro opening
    rw [encloses_succ_of_plain found (by simp) (by simp), accounts.encloses_iff noneOpens,
      innermost?_cons_of_binary found]

/-! ### Whole runs -/

/-- Every token that is accepted keeps the account. -/
theorem accept
    {next : Conversion}
    {token : Token}
    (accounts : Accounts tokens position state releases pending)
    (found : tokens[position]? = some token)
    (accepted : state.accept token = .ok next) :
    ∃ current left, Accounts tokens (position + 1) next
      (releases ++ together position current) left := by
  cases Conversion.accept_eq_ok_iff.mp accepted with
  | operand lexeme => exact ⟨_, _, accounts.operand found⟩
  | opening => exact ⟨_, _, accounts.opening found⟩
  | closing waiting noOpening => exact accounts.closing found waiting noOpening
  | binary waiting releases stops =>
      obtain ⟨above, below, accounts⟩ := accounts.binary found waiting releases stops
      exact ⟨_, _, accounts⟩

/-- A run over the first tokens of an input can be accounted for. -/
theorem exists_of_run
    (inside : position ≤ tokens.length)
    (ran : Conversion.run (tokens.take position) = .ok state) :
    ∃ releases pending, Accounts tokens position state releases pending := by
  induction position generalizing state with
  | zero =>
      cases ran
      exact ⟨_, _, accounts_start tokens⟩
  | succ position inductionHypothesis =>
      have found : tokens[position]? = some tokens[position] :=
        List.getElem?_eq_getElem inside
      rw [Conversion.run, List.take_succ_eq_append_getElem inside, Run.foldlM_concat,
        Run.bind_eq_ok_iff] at ran
      obtain ⟨previous, ranBefore, accepted⟩ := ran
      obtain ⟨releases, pending, accounts⟩ :=
        inductionHypothesis (Nat.le_of_lt inside) ranBefore
      obtain ⟨current, left, accounts⟩ := accounts.accept found accepted
      exact ⟨_, _, accounts⟩

/-- At the end of the input the output is completed by what still waits. -/
theorem finish
    (accounts : Accounts tokens tokens.length state releases pending) :
    ∃ all, IsSchedule tokens all ∧ state.finish = released tokens all := by
  have schedule := accounts.schedule.append
    (fun index => (accounts.waits index).trans releaseTime_length_iff.symm) accounts.falling
  refine ⟨_, ⟨fun release => ?_, schedule.ordered⟩, ?_⟩
  · rw [schedule.complete]
    exact ⟨And.right, fun time => ⟨Nat.lt_succ_of_le time.le_length, time⟩⟩
  · rw [Conversion.finish_eq, accounts.output, released_append,
      released_together accounts.holds]

end Accounts
end Schedule

/-- A conversion that succeeds puts out the tokens that are released, in the
order of their releases. -/
theorem convert_eq_released
    {tokens output : List Token}
    (converted : convert tokens = .ok output) :
    (∃ releases, Schedule.IsSchedule tokens releases) ∧
      ∀ releases, Schedule.IsSchedule tokens releases ->
        output = Schedule.released tokens releases := by
  obtain ⟨state, ran, finished⟩ := convert_eq_ok_iff.mp converted
  rw [← List.take_length (l := tokens)] at ran
  obtain ⟨before, pending, accounts⟩ :=
    Schedule.Accounts.exists_of_run (Nat.le_refl tokens.length) ran
  obtain ⟨all, schedule, finish_eq⟩ := accounts.finish
  refine ⟨⟨all, schedule⟩, fun releases isSchedule => ?_⟩
  rw [isSchedule.unique schedule, ← finish_eq, finished]

/-- The tokens of `2 ( + 3 * - 4`, where operators lack operands and a group is
not closed. -/
def unclosedGroup : List Token :=
  [.operand "2", .operator .opening, .operator (.binary .add), .operand "3",
    .operator (.binary .mul), .operator (.binary .sub), .operand "4"]

/-- The case of `2 ( + 3 * - 4`. -/
theorem convert_eq_released_unclosedGroup :
    ∃ output, convert unclosedGroup = .ok output ∧
      Token.textOfList output = "2 3 * + 4 - (" ∧
      (∃ releases, Schedule.IsSchedule unclosedGroup releases) ∧
      ∀ releases, Schedule.IsSchedule unclosedGroup releases ->
        output = Schedule.released unclosedGroup releases := by
  have converted : convert unclosedGroup = .ok
      [.operand "2", .operand "3", .operator (.binary .mul), .operator (.binary .add),
        .operand "4", .operator (.binary .sub), .operator .opening] := rfl
  exact ⟨_, converted, by decide, convert_eq_released converted⟩

end PostfixCalculator
