import Mathlib.Algebra.Order.Field.Power
import Mathlib.Data.Rat.Floor
import Mathlib.Tactic.FieldSimp
import Mathlib.Tactic.LinearCombination
import Mathlib.Tactic.Linarith
import Mathlib.Tactic.Positivity
import PostfixCalculator.Decimal.Shortest
import PostfixCalculator.Proofs.BinaryNumber

/-!
# Which exact numbers read back as a floating-point number

An exact number reads back as the nearest number of the format, and as the one with the
even significand if two are equally near. Between a number and its two neighbours there is
none, so what reads back as it reaches half-way to either neighbour. The one below is only
half as far if the significand is the least one that has all its bits.
-/

namespace PostfixCalculator
namespace Decimal

/-- The number that a significand and an exponent stand for. -/
def binaryValue (significand : Nat) (exponent : Int) : ℚ :=
  significand * 2 ^ exponent

/-- The format has a number, were there no greatest exponent. -/
def IsRepresentable (number : ℚ) : Prop :=
  ∃ significand exponent,
    significand < 2 ^ 53 ∧ -1074 ≤ exponent ∧ number = binaryValue significand exponent

/-- An exact number rounds to a number of the format. -/
structure RoundsTo (exact : ℚ) (significand : Nat) (exponent : Int) : Prop where
  /-- No number of the format is nearer. -/
  nearest : ∀ other, IsRepresentable other ->
    |exact - binaryValue significand exponent| ≤ |exact - other|
  /-- Of two equally near the even one is taken. -/
  toEven : ∀ other, IsRepresentable other -> other ≠ binaryValue significand exponent ->
    |exact - other| = |exact - binaryValue significand exponent| -> significand % 2 = 0

/-! ## Powers of a base -/

/-- A higher power is a natural power of the base times the lower one. -/
theorem zpow_eq_pow_mul_zpow
    {base : ℚ}
    (nonzero : base ≠ 0)
    {lower higher : Int}
    (ordered : lower ≤ higher) :
    base ^ higher = base ^ (higher - lower).toNat * base ^ lower := by
  rw [← zpow_natCast, ← zpow_add₀ nonzero]
  congr 1
  omega

/-! ## Half-way to the neighbours -/

/-- The upper one of two numbers is nearer from their middle on. -/
theorem abs_sub_upper_le_iff {lower upper exact : ℚ} (ordered : lower < upper) :
    |exact - upper| ≤ |exact - lower| ↔ (lower + upper) / 2 ≤ exact := by
  have difference : (exact - lower) ^ 2 - (exact - upper) ^ 2 =
      2 * (upper - lower) * (exact - (lower + upper) / 2) := by
    ring
  rw [← sq_le_sq, ← sub_nonneg, difference, mul_nonneg_iff_of_pos_left (by linarith), sub_nonneg]

/-- The lower one of two numbers is nearer up to their middle. -/
theorem abs_sub_lower_le_iff {lower upper exact : ℚ} (ordered : lower < upper) :
    |exact - lower| ≤ |exact - upper| ↔ exact ≤ (lower + upper) / 2 := by
  have difference : (exact - upper) ^ 2 - (exact - lower) ^ 2 =
      2 * (upper - lower) * ((lower + upper) / 2 - exact) := by
    ring
  rw [← sq_le_sq, ← sub_nonneg, difference, mul_nonneg_iff_of_pos_left (by linarith), sub_nonneg]

/-- An exact number is nearest to one of some points exactly if it lies between the middles
to the points next to it. It may be as near to another point only if it is such a middle. -/
theorem isNearest_iff
    {IsPoint : ℚ -> Prop}
    {lower point upper exact : ℚ}
    {tieAllowed : Prop}
    (isLower : IsPoint lower)
    (isUpper : IsPoint upper)
    (fromLower : lower < point)
    (toUpper : point < upper)
    (noneBetween : ∀ other, IsPoint other -> other ≠ point -> other ≤ lower ∨ upper ≤ other) :
    ((∀ other, IsPoint other -> |exact - point| ≤ |exact - other|) ∧
      ∀ other, IsPoint other -> other ≠ point -> |exact - other| = |exact - point| -> tieAllowed) ↔
    ((lower + point) / 2 ≤ exact ∧ exact ≤ (point + upper) / 2) ∧
      (¬tieAllowed -> (lower + point) / 2 < exact ∧ exact < (point + upper) / 2) := by
  constructor
  · rintro ⟨nearest, toEven⟩
    have fromMiddle := (abs_sub_upper_le_iff fromLower).mp (nearest lower isLower)
    have toMiddle := (abs_sub_lower_le_iff toUpper).mp (nearest upper isUpper)
    refine ⟨⟨fromMiddle, toMiddle⟩, fun noTie => ⟨?_, ?_⟩⟩
    · refine lt_of_not_ge fun atMiddle => noTie (toEven lower isLower fromLower.ne ?_)
      exact le_antisymm ((abs_sub_lower_le_iff fromLower).mpr atMiddle) (nearest lower isLower)
    · refine lt_of_not_ge fun atMiddle => noTie (toEven upper isUpper toUpper.ne' ?_)
      exact le_antisymm ((abs_sub_upper_le_iff toUpper).mpr atMiddle) (nearest upper isUpper)
  · rintro ⟨⟨fromMiddle, toMiddle⟩, strictly⟩
    constructor
    · intro other isPoint
      by_cases same : other = point
      · rw [same]
      · rcases noneBetween other isPoint same with isBelow | isAbove
        · exact (abs_sub_upper_le_iff (by linarith)).mpr (by linarith)
        · exact (abs_sub_lower_le_iff (by linarith)).mpr (by linarith)
    · intro other isPoint different tie
      by_contra noTie
      obtain ⟨behindMiddle, beforeMiddle⟩ := strictly noTie
      rcases noneBetween other isPoint different with isBelow | isAbove
      · have atMost := (abs_sub_lower_le_iff (by linarith)).mp tie.le
        linarith
      · have atLeast := (abs_sub_upper_le_iff (by linarith)).mp tie.le
        linarith

/-! ## The neighbours of a number -/

section Neighbours

variable {significand : Nat} {exponent : Int}

/-- How far the number below is. -/
def distanceBelow (significand : Nat) (exponent : Int) : ℚ :=
  if significand = 2 ^ 52 ∧ -1074 < exponent then 2 ^ exponent / 2 else 2 ^ exponent

/-- A unit of a higher exponent is a whole number of units. -/
theorem exists_binaryValue_eq
    {higher : Int}
    (ordered : exponent ≤ higher)
    (significand : Nat) :
    ∃ count : Nat, binaryValue significand higher = binaryValue count exponent := by
  refine ⟨significand * 2 ^ (higher - exponent).toNat, ?_⟩
  rw [binaryValue, binaryValue, zpow_eq_pow_mul_zpow two_ne_zero ordered, Nat.cast_mul,
    Nat.cast_pow, Nat.cast_ofNat, mul_assoc]

/-- One more unit. -/
theorem binaryValue_succ (significand : Nat) (exponent : Int) :
    binaryValue (significand + 1) exponent = binaryValue significand exponent + 2 ^ exponent := by
  rw [binaryValue, binaryValue, Nat.cast_succ, add_mul, one_mul]

/-- Twice the count in half the unit. -/
theorem binaryValue_two_mul (significand : Nat) (exponent : Int) :
    binaryValue (2 * significand) (exponent - 1) = binaryValue significand exponent := by
  rw [binaryValue, binaryValue, zpow_sub_one₀ two_ne_zero, Nat.cast_mul, Nat.cast_ofNat]
  ring

/-- Numbers of one unit are ordered as their counts are. -/
theorem binaryValue_le {first second : Nat} (ordered : first ≤ second) (exponent : Int) :
    binaryValue first exponent ≤ binaryValue second exponent := by
  have unit : (0 : ℚ) < 2 ^ exponent := by positivity
  rw [binaryValue, binaryValue, mul_le_mul_iff_left₀ unit, Nat.cast_le]
  exact ordered

theorem binaryValue_lt {first second : Nat} (ordered : first < second) (exponent : Int) :
    binaryValue first exponent < binaryValue second exponent := by
  have unit : (0 : ℚ) < 2 ^ exponent := by positivity
  rw [binaryValue, binaryValue, mul_lt_mul_iff_left₀ unit, Nat.cast_lt]
  exact ordered

/-- The greatest significand of an exponent stands half a unit below the least one with
all its bits of the next exponent. -/
theorem binaryValue_all_bits (exponent : Int) :
    binaryValue (2 ^ 53 - 1) (exponent - 1) = binaryValue (2 ^ 52) exponent - 2 ^ exponent / 2 := by
  have next := binaryValue_succ (2 ^ 53 - 1) (exponent - 1)
  rw [show 2 ^ 53 - 1 + 1 = 2 * 2 ^ 52 from rfl, binaryValue_two_mul,
    zpow_sub_one₀ two_ne_zero] at next
  rw [next]
  ring

/-- The number above is one unit away. -/
theorem isRepresentable_above (canonical : IsCanonical significand exponent) :
    IsRepresentable (binaryValue significand exponent + 2 ^ exponent) := by
  rw [← binaryValue_succ]
  have fits := canonical.fits
  have least := canonical.least
  by_cases overflow : significand + 1 = 2 ^ 53
  · have doubled := binaryValue_two_mul (2 ^ 52) (exponent + 1)
    rw [add_sub_cancel_right] at doubled
    refine ⟨2 ^ 52, exponent + 1, by decide, by omega, ?_⟩
    rw [overflow]
    exact doubled
  · exact ⟨significand + 1, exponent, by omega, least, rfl⟩

/-- There is a number at the distance below. -/
theorem isRepresentable_below (canonical : IsCanonical significand exponent) :
    IsRepresentable (binaryValue significand exponent - distanceBelow significand exponent) := by
  have fits := canonical.fits
  have least := canonical.least
  rw [distanceBelow]
  split
  · next narrow =>
    obtain ⟨rfl, above⟩ := narrow
    exact ⟨2 ^ 53 - 1, exponent - 1, by decide, by omega, (binaryValue_all_bits exponent).symm⟩
  · obtain ⟨lower, rfl⟩ := Nat.exists_eq_add_one.mpr canonical.positive
    refine ⟨lower, exponent, by omega, least, ?_⟩
    rw [binaryValue_succ, add_sub_cancel_right]

/-- A number of a smaller unit is below the least significand that has all its bits. -/
theorem binaryValue_le_of_lt_exponent
    (canonical : IsCanonical significand exponent)
    {otherSignificand : Nat}
    {otherExponent : Int}
    (fits : otherSignificand < 2 ^ 53)
    (least : -1074 ≤ otherExponent)
    (finer : otherExponent < exponent) :
    binaryValue otherSignificand otherExponent ≤
      binaryValue significand exponent - distanceBelow significand exponent := by
  have greatest : binaryValue otherSignificand otherExponent ≤
      binaryValue (2 ^ 52) exponent - 2 ^ exponent / 2 := by
    rw [← binaryValue_all_bits]
    refine (binaryValue_le (Nat.le_pred_of_lt fits) otherExponent).trans ?_
    have smaller : (2 : ℚ) ^ otherExponent ≤ 2 ^ (exponent - 1) :=
      zpow_le_zpow_right₀ one_le_two (by omega)
    exact mul_le_mul_of_nonneg_left smaller (Nat.cast_nonneg _)
  have leading : 2 ^ 52 ≤ significand := canonical.normal.resolve_right (by omega)
  rw [distanceBelow]
  split
  · next narrow =>
    rw [narrow.1]
    exact greatest
  · have beyond := binaryValue_le (show 2 ^ 52 + 1 ≤ significand by omega) exponent
    rw [binaryValue_succ] at beyond
    calc binaryValue otherSignificand otherExponent
      _ ≤ binaryValue (2 ^ 52) exponent - 2 ^ exponent / 2 := greatest
      _ ≤ binaryValue (2 ^ 52) exponent := sub_le_self _ (by positivity)
      _ ≤ binaryValue significand exponent - 2 ^ exponent := le_sub_right_of_add_le beyond

/-- Between a number and its neighbours the format has none. -/
theorem le_or_le_of_isRepresentable
    (canonical : IsCanonical significand exponent)
    {other : ℚ}
    (isRepresentable : IsRepresentable other)
    (different : other ≠ binaryValue significand exponent) :
    other ≤ binaryValue significand exponent - distanceBelow significand exponent ∨
      binaryValue significand exponent + 2 ^ exponent ≤ other := by
  obtain ⟨otherSignificand, otherExponent, fits, least, rfl⟩ := isRepresentable
  have unit : (0 : ℚ) < 2 ^ exponent := by positivity
  have atMost : distanceBelow significand exponent ≤ 2 ^ exponent := by
    rw [distanceBelow]
    split <;> linarith
  rcases le_or_gt exponent otherExponent with coarser | finer
  · -- A number of no smaller unit is a whole number of units, so it is one of them away.
    obtain ⟨count, same⟩ := exists_binaryValue_eq coarser otherSignificand
    rw [same] at different ⊢
    rcases Nat.lt_trichotomy count significand with less | equal | greater
    · left
      have ordered := binaryValue_le (Nat.succ_le_of_lt less) exponent
      rw [Nat.succ_eq_add_one, binaryValue_succ] at ordered
      linarith
    · exact absurd (congrArg (binaryValue · exponent) equal) different
    · right
      rw [← binaryValue_succ]
      exact binaryValue_le (Nat.succ_le_of_lt greater) exponent
  · exact Or.inl (binaryValue_le_of_lt_exponent canonical fits least finer)

/-- The number below is some way away, and at most a unit. -/
theorem distanceBelow_pos_le (significand : Nat) (exponent : Int) :
    0 < distanceBelow significand exponent ∧ distanceBelow significand exponent ≤ 2 ^ exponent := by
  have unit : (0 : ℚ) < 2 ^ exponent := by positivity
  rw [distanceBelow]
  split <;> constructor <;> linarith

/-- The point half-way to the number below. -/
def lowEnd (significand : Nat) (exponent : Int) : ℚ :=
  binaryValue significand exponent - distanceBelow significand exponent / 2

/-- The point half-way to the number above. -/
def highEnd (significand : Nat) (exponent : Int) : ℚ :=
  binaryValue significand exponent + 2 ^ exponent / 2

/-- An exact number reads back as a number of the format exactly if it lies between the
points half-way to the neighbours. These points themselves belong to an even number. -/
theorem roundsTo_iff (canonical : IsCanonical significand exponent) {exact : ℚ} :
    RoundsTo exact significand exponent ↔
      (lowEnd significand exponent ≤ exact ∧ exact ≤ highEnd significand exponent) ∧
      (¬significand % 2 = 0 ->
        lowEnd significand exponent < exact ∧ exact < highEnd significand exponent) := by
  have unit : (0 : ℚ) < 2 ^ exponent := by positivity
  have apart := (distanceBelow_pos_le significand exponent).1
  have lowMiddle : lowEnd significand exponent =
      (binaryValue significand exponent - distanceBelow significand exponent +
        binaryValue significand exponent) / 2 := by
    rw [lowEnd]
    ring
  have highMiddle : highEnd significand exponent =
      (binaryValue significand exponent + (binaryValue significand exponent + 2 ^ exponent)) / 2 := by
    rw [highEnd]
    ring
  rw [lowMiddle, highMiddle, ← isNearest_iff (isRepresentable_below canonical)
    (isRepresentable_above canonical) (by linarith) (by linarith)
    fun other => le_or_le_of_isRepresentable canonical]
  exact ⟨fun rounds => ⟨rounds.nearest, rounds.toEven⟩, fun ⟨nearest, toEven⟩ => ⟨nearest, toEven⟩⟩

end Neighbours
end Decimal
end PostfixCalculator
