import PostfixCalculator.Proofs.ReadingBack

/-!
# The shortest decimal that reads back

Of the decimals that read back as a number the shortest has the fewest digits. If several
have as few, it is the closest of them, and the larger one of two equally close.

The search for it looks at one grid after the other, the multiples of a power of ten, from
the coarsest on. A decimal with few digits lies on a coarse grid, or it lies below the power
of ten that begins the number, and then it is farther away than that. So if a grid has no
decimal that reads back next to the number, no decimal with as many digits reads back.
-/

namespace PostfixCalculator
namespace Decimal

/-- The number that a decimal stands for. -/
def Scaled.value (decimal : Scaled) : ℚ :=
  decimal.count * 10 ^ decimal.scale

/-- The number of digits of a decimal. -/
def Scaled.length (decimal : Scaled) : Nat :=
  (Nat.toDigits 10 decimal.count).length

/-- A decimal is the shortest one that reads back as a number of the format. -/
structure IsShortest (decimal : Scaled) (significand : Nat) (exponent : Int) : Prop where
  readsBack : RoundsTo decimal.value significand exponent
  /-- The last digit is needed. -/
  trimmed : decimal.count % 10 ≠ 0
  /-- No other one has fewer digits. -/
  fewest : ∀ other : Scaled, RoundsTo other.value significand exponent ->
    decimal.length ≤ other.length
  /-- None with as many digits is closer. -/
  closest : ∀ other : Scaled, RoundsTo other.value significand exponent ->
    other.length = decimal.length ->
      |decimal.value - binaryValue significand exponent| ≤
        |other.value - binaryValue significand exponent|
  /-- None with as many digits that is as close is larger. -/
  larger : ∀ other : Scaled, RoundsTo other.value significand exponent ->
    other.length = decimal.length ->
      |other.value - binaryValue significand exponent| =
        |decimal.value - binaryValue significand exponent| ->
          other.value ≤ decimal.value

/-- The shortest decimals of a number have the same value. -/
theorem IsShortest.value_eq
    {first second : Scaled}
    {significand : Nat}
    {exponent : Int}
    (isFirst : IsShortest first significand exponent)
    (isSecond : IsShortest second significand exponent) :
    first.value = second.value := by
  have sameLength : first.length = second.length :=
    Nat.le_antisymm (isFirst.fewest second isSecond.readsBack)
      (isSecond.fewest first isFirst.readsBack)
  have sameDistance := le_antisymm
    (isFirst.closest second isSecond.readsBack sameLength.symm)
    (isSecond.closest first isFirst.readsBack sameLength)
  exact le_antisymm (isSecond.larger first isFirst.readsBack sameLength sameDistance)
    (isFirst.larger second isSecond.readsBack sameLength.symm sameDistance.symm)

/-! ## Decimals -/

namespace Scaled

/-- A decimal has at most some number of digits if it is less than that power of ten. -/
theorem length_le_iff {decimal : Scaled} {length : Nat} (positive : 0 < length) :
    decimal.length ≤ length ↔ decimal.count < 10 ^ length :=
  Nat.length_toDigits_le_iff (by decide) positive

theorem length_pos (decimal : Scaled) : 0 < decimal.length :=
  Nat.length_toDigits_pos

/-- A decimal is at least the power of ten of its first digit. -/
theorem pow_le_count {decimal : Scaled} (positive : 0 < decimal.count) :
    10 ^ (decimal.length - 1) ≤ decimal.count := by
  by_cases single : decimal.length = 1
  · rw [single]
    exact positive
  · have several : 0 < decimal.length - 1 := by
      have atLeast := decimal.length_pos
      omega
    by_contra less
    have fewer := (length_le_iff several).mpr (Nat.lt_of_not_le less)
    omega

/-- Decimals of one scale are ordered as their counts are. -/
theorem value_le {first second : Nat} (ordered : first ≤ second) (scale : Int) :
    value ⟨first, scale⟩ ≤ value ⟨second, scale⟩ := by
  have step : (0 : ℚ) < 10 ^ scale := by positivity
  rw [value, value, mul_le_mul_iff_left₀ step, Nat.cast_le]
  exact ordered

/-- A step of a higher scale is a whole number of steps. -/
theorem value_eq_of_le {scale higher : Int} (ordered : scale ≤ higher) (count : Nat) :
    value ⟨count, higher⟩ = value ⟨count * 10 ^ (higher - scale).toNat, scale⟩ := by
  rw [value, value, zpow_eq_pow_mul_zpow (by norm_num) ordered, Nat.cast_mul, Nat.cast_pow,
    Nat.cast_ofNat, mul_assoc]

/-- A power of ten at a scale. -/
theorem value_pow (power : Nat) (scale : Int) :
    value ⟨10 ^ power, scale⟩ = 10 ^ (power + scale) := by
  rw [value, zpow_add₀ (by norm_num), zpow_natCast, Nat.cast_pow, Nat.cast_ofNat]

/-- A zero at the end adds nothing to the value. -/
theorem value_div_ten {decimal : Scaled} (ended : decimal.count % 10 = 0) :
    value ⟨decimal.count / 10, decimal.scale + 1⟩ = decimal.value := by
  rw [value_eq_of_le (Int.le_add_one (le_refl decimal.scale)), add_sub_cancel_left]
  have whole : decimal.count / 10 * 10 ^ (1 : Int).toNat = decimal.count := by
    change decimal.count / 10 * 10 = decimal.count
    omega
  rw [whole]

/-- Leaving the zeros at the end out keeps the value. -/
theorem value_trim (decimal : Scaled) : decimal.trim.value = decimal.value := by
  fun_induction trim decimal with
  | case1 => rfl
  | case2 decimal nonzero ended inductionHypothesis =>
      rw [inductionHypothesis, value_div_ten ended]
  | case3 => rfl

/-- No zero at the end is left. -/
theorem trim_count_mod_ten
    {decimal : Scaled}
    (nonzero : decimal.count ≠ 0) :
    decimal.trim.count % 10 ≠ 0 := by
  fun_induction trim decimal with
  | case1 decimal zero => contradiction
  | case2 decimal _ ended inductionHypothesis => exact inductionHypothesis (by dsimp only; omega)
  | case3 decimal _ notEnded => exact notEnded

/-- Leaving zeros out makes the count no larger. -/
theorem trim_count_le (decimal : Scaled) : decimal.trim.count ≤ decimal.count := by
  fun_induction trim decimal with
  | case1 => exact le_refl _
  | case2 decimal nonzero ended inductionHypothesis =>
      exact inductionHypothesis.trans (Nat.div_le_self _ _)
  | case3 => exact le_refl _

/-- A power of ten is left with fewer digits. -/
theorem trim_count_lt
    {decimal : Scaled}
    {length : Nat}
    (positive : 0 < length)
    (atMost : decimal.count ≤ 10 ^ length) :
    decimal.trim.count < 10 ^ length := by
  rcases Nat.lt_or_eq_of_le atMost with less | isPower
  · exact Nat.lt_of_le_of_lt decimal.trim_count_le less
  · obtain ⟨shorter, rfl⟩ := Nat.exists_eq_add_one.mpr positive
    have nonzero : 10 ^ shorter ≠ 0 := by positivity
    have power : 10 ^ (shorter + 1) = 10 ^ shorter * 10 := pow_succ 10 shorter
    rw [trim, if_neg (by omega), if_pos (by omega)]
    refine Nat.lt_of_le_of_lt (trim_count_le _) ?_
    dsimp only
    omega

end Scaled

/-! ## Neighbourhoods as intervals -/

namespace Neighbourhood

variable {near : Neighbourhood} {number exact other : ℚ} {scale : Int}

/-- An exact number lies in a neighbourhood. -/
def Has (near : Neighbourhood) (exact : ℚ) : Prop :=
  (binaryValue near.low near.exponent ≤ exact ∧ exact ≤ binaryValue near.high near.exponent) ∧
    (near.closed = false ->
      binaryValue near.low near.exponent < exact ∧ exact < binaryValue near.high near.exponent)

/-- The number that a neighbourhood is about. -/
def center (near : Neighbourhood) : ℚ :=
  binaryValue near.middle near.exponent

/-- The common denominator of decimals at a scale and of units. -/
def denominator (near : Neighbourhood) (scale : Int) : ℚ :=
  10 ^ (-scale).toNat * 2 ^ (-near.exponent).toNat

theorem denominator_pos (near : Neighbourhood) (scale : Int) : 0 < near.denominator scale := by
  rw [denominator]
  positivity

/-- A power is a natural power over a natural power. -/
theorem pow_toNat_eq {base : ℚ} (nonzero : base ≠ 0) (power : Int) :
    base ^ power.toNat = base ^ power * base ^ (-power).toNat := by
  rw [← zpow_natCast, ← zpow_natCast, ← zpow_add₀ nonzero]
  congr 1
  omega

/-- A decimal becomes a whole number with the common denominator. -/
theorem cast_mul_stepSize (near : Neighbourhood) (decimal : Scaled) :
    ((decimal.count * near.stepSize decimal.scale : Nat) : ℚ) =
      decimal.value * near.denominator decimal.scale := by
  rw [stepSize, Nat.pow_eq, Nat.pow_eq, Scaled.value, denominator]
  push_cast
  rw [pow_toNat_eq (by norm_num : (10 : ℚ) ≠ 0) decimal.scale]
  ring

/-- A count of units becomes a whole number with the common denominator. -/
theorem cast_mul_unitSize (near : Neighbourhood) (count : Nat) (scale : Int) :
    ((count * near.unitSize scale : Nat) : ℚ) =
      binaryValue count near.exponent * near.denominator scale := by
  rw [unitSize, Nat.pow_eq, Nat.pow_eq, binaryValue, denominator]
  push_cast
  rw [pow_toNat_eq (by norm_num : (2 : ℚ) ≠ 0) near.exponent]
  ring

/-- A decimal is compared with units as the whole numbers are. -/
theorem units_le_iff {count : Nat} {decimal : Scaled} :
    count * near.unitSize decimal.scale ≤ decimal.count * near.stepSize decimal.scale ↔
      binaryValue count near.exponent ≤ decimal.value := by
  rw [← @Nat.cast_le ℚ, cast_mul_stepSize, cast_mul_unitSize,
    mul_le_mul_iff_left₀ (near.denominator_pos _)]

theorem le_units_iff {count : Nat} {decimal : Scaled} :
    decimal.count * near.stepSize decimal.scale ≤ count * near.unitSize decimal.scale ↔
      decimal.value ≤ binaryValue count near.exponent := by
  rw [← @Nat.cast_le ℚ, cast_mul_stepSize, cast_mul_unitSize,
    mul_le_mul_iff_left₀ (near.denominator_pos _)]

/-- The decimals that are found to lie in a neighbourhood are those that do. -/
theorem contains_iff {decimal : Scaled} :
    near.contains decimal = true ↔ near.Has decimal.value := by
  have strictly : binaryValue near.low near.exponent < decimal.value ∧
      decimal.value < binaryValue near.high near.exponent ->
        binaryValue near.low near.exponent ≤ decimal.value ∧
          decimal.value ≤ binaryValue near.high near.exponent :=
    fun inside => ⟨inside.1.le, inside.2.le⟩
  rw [contains, Has]
  cases near.closed with
  | false =>
      simp only [Bool.false_eq_true, if_false, Bool.and_eq_true, decide_eq_true_eq,
        ← not_le, units_le_iff, le_units_iff]
      simp only [not_le, forall_true_left]
      exact ⟨fun inside => ⟨strictly inside, inside⟩, And.right⟩
  | true =>
      simp [units_le_iff, le_units_iff]

/-- The greatest multiple of a step that does not exceed the number. -/
def gridBelow (near : Neighbourhood) (scale : Int) : Scaled :=
  ⟨near.floorOn scale, scale⟩

/-- The next multiple of a step. -/
def gridAbove (near : Neighbourhood) (scale : Int) : Scaled :=
  ⟨near.floorOn scale + 1, scale⟩

theorem gridBelow_le (near : Neighbourhood) (scale : Int) :
    (near.gridBelow scale).value ≤ near.center :=
  le_units_iff.mp (Nat.div_mul_le_self _ _)

theorem lt_gridAbove (near : Neighbourhood) (scale : Int) :
    near.center < (near.gridAbove scale).value := by
  have positive : 0 < near.stepSize scale := by
    rw [stepSize, Nat.pow_eq, Nat.pow_eq]
    positivity
  refine lt_of_not_ge fun atMost => absurd (le_units_iff.mpr atMost) (Nat.not_le_of_lt ?_)
  exact (Nat.div_lt_iff_lt_mul positive).mp (Nat.lt_succ_self _)

/-- A multiple of the step that is below the number is not above the greatest such. -/
theorem le_floorOn_iff {count : Nat} :
    count ≤ near.floorOn scale ↔ Scaled.value ⟨count, scale⟩ ≤ near.center := by
  constructor
  · intro atMost
    exact (Scaled.value_le atMost scale).trans (near.gridBelow_le scale)
  · intro isBelow
    by_contra greater
    have atLeast := Scaled.value_le (Nat.lt_of_not_le greater) scale
    exact absurd ((near.lt_gridAbove scale).trans_le atLeast) (not_lt.mpr isBelow)

/-- Tenths of the fine places are no larger than a unit. -/
theorem pow_finePlaces_le (near : Neighbourhood) :
    (10 : ℚ) ^ (-near.finePlaces : Int) ≤ 2 ^ near.exponent := by
  rw [finePlaces]
  generalize halvings : (-near.exponent).toNat = count
  have enough : 2 ^ count ≤ 10 ^ (count * 31 / 100 + 1) := by
    rw [← Nat.pow_le_pow_iff_left (show 100 ≠ 0 by decide)]
    calc (2 ^ count) ^ 100
      _ = (2 ^ 100) ^ count := by rw [← pow_mul, ← pow_mul, mul_comm]
      _ ≤ (10 ^ 31) ^ count := Nat.pow_le_pow_left (by decide) count
      _ = 10 ^ (31 * count) := by rw [← pow_mul]
      _ ≤ 10 ^ ((count * 31 / 100 + 1) * 100) := Nat.pow_le_pow_right (by decide) (by omega)
      _ = (10 ^ (count * 31 / 100 + 1)) ^ 100 := by rw [pow_mul]
  calc (10 : ℚ) ^ (-(count * 31 / 100 + 1 : Nat) : Int)
    _ = ((10 ^ (count * 31 / 100 + 1) : Nat) : ℚ)⁻¹ := by
      rw [zpow_neg, zpow_natCast, Nat.cast_pow, Nat.cast_ofNat]
    _ ≤ ((2 ^ count : Nat) : ℚ)⁻¹ := by
      gcongr
    _ = 2 ^ (-count : Int) := by
      rw [zpow_neg, zpow_natCast, Nat.cast_pow, Nat.cast_ofNat]
    _ ≤ 2 ^ near.exponent := zpow_le_zpow_right₀ one_le_two (by omega)

/-- The number has its first digit at the last of its places before the point. -/
theorem places_spec (positive : 0 < near.middle) :
    (10 : ℚ) ^ (near.places - 1) ≤ near.center ∧ near.center < 10 ^ near.places := by
  have atLeastUnit : (2 : ℚ) ^ near.exponent ≤ near.center := by
    have oneUnit := binaryValue_le (Nat.succ_le_of_lt positive) near.exponent
    rwa [binaryValue, Nat.cast_succ, Nat.cast_zero, zero_add, one_mul] at oneUnit
  have isPositive : 0 < (near.gridBelow (-near.finePlaces)).count := by
    have oneStep := Scaled.value_pow 0 (-near.finePlaces)
    rw [pow_zero, Nat.cast_zero, zero_add] at oneStep
    apply le_floorOn_iff.mpr
    rw [Nat.succ_eq_add_one, zero_add, oneStep]
    exact near.pow_finePlaces_le.trans atLeastUnit
  have length : near.places = (near.gridBelow (-near.finePlaces)).length - near.finePlaces := rfl
  have lengthPositive := (near.gridBelow (-near.finePlaces)).length_pos
  constructor
  · have first := le_floorOn_iff.mp (Scaled.pow_le_count isPositive)
    rw [Scaled.value_pow, Nat.cast_sub lengthPositive] at first
    rw [length]
    convert first using 2
    ring
  · have last := (Scaled.length_le_iff lengthPositive).mp (le_refl _)
    have beyond := Scaled.value_le (Nat.succ_le_of_lt last) (-near.finePlaces)
    rw [Scaled.value_pow] at beyond
    exact (near.lt_gridAbove _).trans_le beyond

/-! ## Grids -/

/-- An exact number is not in the gap between the multiples of a step next to the number. -/
def IsOffGap (near : Neighbourhood) (scale : Int) (exact : ℚ) : Prop :=
  exact ≤ (near.gridBelow scale).value ∨ (near.gridAbove scale).value ≤ exact

/-- On a grid with some number of digits the number has as many. -/
theorem pow_le_floorOn
    (positive : 0 < near.middle)
    {length : Nat}
    (nonzero : 0 < length) :
    10 ^ (length - 1) ≤ near.floorOn (near.places - length) := by
  rw [le_floorOn_iff, Scaled.value_pow, Nat.cast_sub nonzero]
  convert (places_spec positive).1 using 2
  push_cast
  ring

theorem floorOn_lt_pow (positive : 0 < near.middle) (length : Nat) :
    near.floorOn (near.places - length) < 10 ^ length := by
  rw [← not_le, le_floorOn_iff, Scaled.value_pow, add_sub_cancel]
  exact not_le_of_gt (places_spec positive).2

/-- A decimal with no more digits than a grid has is on the grid, or it is less than the
power of ten that begins the number. -/
theorem isOffGap_of_count_lt
    (positive : 0 < near.middle)
    {decimal : Scaled}
    {length : Nat}
    (nonzero : 0 < length)
    (short : decimal.count < 10 ^ length) :
    near.IsOffGap (near.places - length) decimal.value := by
  by_cases onGrid : near.places - length ≤ decimal.scale
  · have onSteps := Scaled.value_eq_of_le onGrid decimal.count
    generalize decimal.count * 10 ^ (decimal.scale - (near.places - length)).toNat = steps at onSteps
    rw [IsOffGap, show decimal.value = _ from onSteps]
    rcases Nat.lt_or_ge (near.floorOn (near.places - length)) steps with greater | atMost
    · exact Or.inr (Scaled.value_le (Nat.succ_le_of_lt greater) _)
    · exact Or.inl (Scaled.value_le atMost _)
  · left
    calc decimal.value
      _ ≤ Scaled.value ⟨10 ^ length, decimal.scale⟩ := Scaled.value_le (Nat.le_of_lt short) _
      _ = 10 ^ (length + decimal.scale) := Scaled.value_pow _ _
      _ ≤ 10 ^ (near.places - 1) := zpow_le_zpow_right₀ (by norm_num) (by omega)
      _ = Scaled.value ⟨10 ^ (length - 1), near.places - length⟩ := by
        rw [Scaled.value_pow, Nat.cast_sub nonzero]
        congr 1
        push_cast
        ring
      _ ≤ (near.gridBelow (near.places - length)).value :=
        Scaled.value_le (pow_le_floorOn positive nonzero) _

/-- The number lies within its neighbourhood. -/
structure IsOrdered (near : Neighbourhood) : Prop where
  low : near.low < near.middle
  high : near.middle < near.high

/-- What lies between the number and a member of its neighbourhood is a member. -/
theorem IsOrdered.has_of_le
    (ordered : near.IsOrdered)
    (has : near.Has other)
    (beyond : other ≤ exact)
    (atMost : exact ≤ near.center) :
    near.Has exact := by
  have fromCenter : near.center < binaryValue near.high near.exponent :=
    binaryValue_lt ordered.high _
  exact ⟨⟨has.1.1.trans beyond, (atMost.trans_lt fromCenter).le⟩,
    fun isOpen => ⟨(has.2 isOpen).1.trans_le beyond, atMost.trans_lt fromCenter⟩⟩

theorem IsOrdered.has_of_ge
    (ordered : near.IsOrdered)
    (has : near.Has other)
    (beyond : exact ≤ other)
    (atLeast : near.center ≤ exact) :
    near.Has exact := by
  have toCenter : binaryValue near.low near.exponent < near.center :=
    binaryValue_lt ordered.low _
  exact ⟨⟨(toCenter.trans_le atLeast).le, beyond.trans has.1.2⟩,
    fun isOpen => ⟨toCenter.trans_le atLeast, beyond.trans_lt (has.2 isOpen).2⟩⟩

/-- If anything off the gap is a member, one of the multiples at its ends is. -/
theorem IsOrdered.has_gridBelow_or
    (ordered : near.IsOrdered)
    (has : near.Has exact)
    (off : near.IsOffGap scale exact) :
    near.Has (near.gridBelow scale).value ∨ near.Has (near.gridAbove scale).value := by
  rcases off with isBelow | isAbove
  · exact Or.inl (ordered.has_of_le has isBelow (near.gridBelow_le scale))
  · exact Or.inr (ordered.has_of_ge has isAbove (near.lt_gridAbove scale).le)

/-- A member of the neighbourhood on a grid that is nearest to the number. -/
structure IsNearestOn (near : Neighbourhood) (scale : Int) (decimal : Scaled) : Prop where
  onGrid : decimal = near.gridBelow scale ∨ decimal = near.gridAbove scale
  has : near.Has decimal.value
  closest : ∀ exact, near.Has exact -> near.IsOffGap scale exact ->
    |decimal.value - near.center| ≤ |exact - near.center|
  larger : ∀ exact, near.Has exact -> near.IsOffGap scale exact ->
    |exact - near.center| = |decimal.value - near.center| -> exact ≤ decimal.value

/-- Distances from the number to its grid are compared as the whole numbers are. -/
theorem belowIsCloser_iff (near : Neighbourhood) (scale : Int) :
    near.middle * near.unitSize scale - near.floorOn scale * near.stepSize scale <
        (near.floorOn scale + 1) * near.stepSize scale - near.middle * near.unitSize scale ↔
      near.center - (near.gridBelow scale).value < (near.gridAbove scale).value - near.center := by
  have lower : near.floorOn scale * near.stepSize scale ≤ near.middle * near.unitSize scale :=
    Nat.div_mul_le_self _ _
  have upper : near.middle * near.unitSize scale ≤ (near.floorOn scale + 1) * near.stepSize scale :=
    (@units_le_iff near near.middle (near.gridAbove scale)).mpr (near.lt_gridAbove scale).le
  have belowSteps : ((near.floorOn scale * near.stepSize scale : Nat) : ℚ) =
      (near.gridBelow scale).value * near.denominator scale :=
    near.cast_mul_stepSize (near.gridBelow scale)
  have aboveSteps : (((near.floorOn scale + 1) * near.stepSize scale : Nat) : ℚ) =
      (near.gridAbove scale).value * near.denominator scale :=
    near.cast_mul_stepSize (near.gridAbove scale)
  rw [← @Nat.cast_lt ℚ, Nat.cast_sub lower, Nat.cast_sub upper, cast_mul_unitSize, belowSteps,
    aboveSteps, ← sub_mul, ← sub_mul, mul_lt_mul_iff_left₀ (near.denominator_pos scale), center]

/-- What is chosen on a grid, by the exact numbers. -/
theorem nearestOn?_eq (near : Neighbourhood) (scale : Int) :
    near.nearestOn? scale =
      match near.contains (near.gridBelow scale), near.contains (near.gridAbove scale) with
      | true, true =>
          some (if near.center - (near.gridBelow scale).value <
              (near.gridAbove scale).value - near.center
            then near.gridBelow scale else near.gridAbove scale)
      | true, false => some (near.gridBelow scale)
      | false, true => some (near.gridAbove scale)
      | false, false => none := by
  simp only [← belowIsCloser_iff]
  rfl

/-- A grid without a member next to the number has none at all. -/
theorem IsOrdered.not_has_of_nearestOn?_eq_none
    (ordered : near.IsOrdered)
    (noneFound : near.nearestOn? scale = none)
    (off : near.IsOffGap scale exact) :
    ¬near.Has exact := by
  intro has
  rw [nearestOn?_eq] at noneFound
  rcases ordered.has_gridBelow_or has off with hasBelow | hasAbove
  · rw [contains_iff.mpr hasBelow] at noneFound
    cases isMember : near.contains (near.gridAbove scale) <;> simp [isMember] at noneFound
  · rw [contains_iff.mpr hasAbove] at noneFound
    cases isMember : near.contains (near.gridBelow scale) <;> simp [isMember] at noneFound

/-- The lower end of the gap is nearest if all members from the upper end on are farther. -/
theorem isNearestOn_gridBelow
    (has : near.Has (near.gridBelow scale).value)
    (farther : ∀ exact, near.Has exact -> (near.gridAbove scale).value ≤ exact ->
      near.center - (near.gridBelow scale).value < exact - near.center) :
    near.IsNearestOn scale (near.gridBelow scale) := by
  have lower := near.gridBelow_le scale
  have distance : |(near.gridBelow scale).value - near.center| =
      near.center - (near.gridBelow scale).value := by
    rw [abs_of_nonpos (by linarith), neg_sub]
  refine ⟨Or.inl rfl, has, ?_, ?_⟩
  · intro exact isMember off
    rw [distance]
    rcases off with isBelow | isAbove
    · exact (by linarith : _ ≤ -(exact - near.center)).trans (neg_le_abs _)
    · exact (farther exact isMember isAbove).le.trans (le_abs_self _)
  · intro exact isMember off same
    rcases off with isBelow | isAbove
    · exact isBelow
    · have beyond := (farther exact isMember isAbove).trans_le (le_abs_self _)
      rw [same, distance] at beyond
      exact absurd beyond (lt_irrefl _)

/-- The upper end of the gap is nearest if no member up to the lower end is closer. -/
theorem isNearestOn_gridAbove
    (has : near.Has (near.gridAbove scale).value)
    (noCloser : ∀ exact, near.Has exact -> exact ≤ (near.gridBelow scale).value ->
      (near.gridAbove scale).value - near.center ≤ near.center - exact) :
    near.IsNearestOn scale (near.gridAbove scale) := by
  have lower := near.gridBelow_le scale
  have upper := near.lt_gridAbove scale
  have distance : |(near.gridAbove scale).value - near.center| =
      (near.gridAbove scale).value - near.center :=
    abs_of_pos (by linarith)
  refine ⟨Or.inr rfl, has, ?_, ?_⟩
  · intro exact isMember off
    rw [distance]
    rcases off with isBelow | isAbove
    · rw [abs_sub_comm]
      exact (noCloser exact isMember isBelow).trans (le_abs_self _)
    · exact (by linarith : _ ≤ exact - near.center).trans (le_abs_self _)
  · intro exact isMember off same
    rcases off with isBelow | isAbove
    · linarith
    · rw [distance] at same
      have atMost := (le_abs_self _).trans_eq same
      linarith

/-- What is found on a grid is nearest to the number. -/
theorem IsOrdered.isNearestOn_of_eq_some
    (ordered : near.IsOrdered)
    {decimal : Scaled}
    (found : near.nearestOn? scale = some decimal) :
    near.IsNearestOn scale decimal := by
  rw [nearestOn?_eq] at found
  have lower := near.gridBelow_le scale
  have upper := near.lt_gridAbove scale
  split at found
  · next isBelow isAbove =>
    split at found
    · next closer =>
      cases found
      exact isNearestOn_gridBelow (contains_iff.mp isBelow) fun exact _ beyond => by linarith
    · next notCloser =>
      cases found
      exact isNearestOn_gridAbove (contains_iff.mp isAbove) fun exact _ beyond => by linarith
  · next isBelow notAbove =>
    cases found
    refine isNearestOn_gridBelow (contains_iff.mp isBelow) fun exact isMember beyond => ?_
    have isAbove := contains_iff.mpr (ordered.has_of_ge isMember beyond upper.le)
    exact absurd (isAbove.symm.trans notAbove) (by decide)
  · next notBelow isAbove =>
    cases found
    refine isNearestOn_gridAbove (contains_iff.mp isAbove) fun exact isMember beyond => ?_
    have isBelow := contains_iff.mpr (ordered.has_of_le isMember beyond lower)
    exact absurd (isBelow.symm.trans notBelow) (by decide)
  · cases found

/-! ## The search -/

/-- A step that is less than the neighbourhood is wide does not step over it. -/
theorem IsOrdered.has_of_step_lt
    (ordered : near.IsOrdered)
    (narrow : (10 : ℚ) ^ scale <
      binaryValue near.high near.exponent - binaryValue near.low near.exponent) :
    near.Has (near.gridBelow scale).value ∨ near.Has (near.gridAbove scale).value := by
  have step : (near.gridAbove scale).value = (near.gridBelow scale).value + 10 ^ scale := by
    rw [gridAbove, gridBelow, Scaled.value, Scaled.value, Nat.cast_succ, add_mul, one_mul]
  have lower := near.gridBelow_le scale
  have upper := near.lt_gridAbove scale
  have fromCenter : near.center < binaryValue near.high near.exponent :=
    binaryValue_lt ordered.high _
  have toCenter : binaryValue near.low near.exponent < near.center :=
    binaryValue_lt ordered.low _
  rcases lt_or_ge (binaryValue near.low near.exponent) (near.gridBelow scale).value with inside | outside
  · exact Or.inl ⟨⟨inside.le, (lower.trans_lt fromCenter).le⟩,
      fun _ => ⟨inside, lower.trans_lt fromCenter⟩⟩
  · have inside : (near.gridAbove scale).value < binaryValue near.high near.exponent := by linarith
    exact Or.inr ⟨⟨(toCenter.trans upper).le, inside.le⟩, fun _ => ⟨toCenter.trans upper, inside⟩⟩

/-- What is found first comes of the first number that anything comes of. -/
theorem exists_of_findSome?_range
    {Item : Type}
    {find : Nat -> Option Item}
    {count : Nat}
    {item : Item}
    (found : (List.range count).findSome? find = some item) :
    ∃ number, find number = some item ∧ ∀ earlier < number, find earlier = none := by
  induction count with
  | zero => cases found
  | succ last inductionHypothesis =>
      rw [List.range_succ, List.findSome?_append, List.findSome?_singleton] at found
      cases before : (List.range last).findSome? find with
      | some other =>
          rw [before] at found
          cases found
          exact inductionHypothesis before
      | none =>
          rw [before] at found
          refine ⟨last, found, fun earlier isEarlier => ?_⟩
          exact List.findSome?_eq_none_iff.mp before earlier (List.mem_range.mpr isEarlier)

/-- If seventeen digits are enough, what is found is nearest to the number on a grid, and no
decimal with fewer digits than that grid has is a member. -/
theorem IsOrdered.shortest_spec
    (ordered : near.IsOrdered)
    (positive : 0 < near.middle)
    (enough : (10 : ℚ) ^ (near.places - 17) <
      binaryValue near.high near.exponent - binaryValue near.low near.exponent) :
    ∃ length : Nat, 0 < length ∧ near.IsNearestOn (near.places - length) near.shortest ∧
      ∀ decimal : Scaled, near.Has decimal.value -> length ≤ decimal.length := by
  have lastFinds : near.nearestOn? (near.places - 1 - (16 : Nat)) ≠ none := by
    intro noneFound
    have noMember := fun exact => @ordered.not_has_of_nearestOn?_eq_none _ exact _ noneFound
    rw [show near.places - 1 - (16 : Nat) = near.places - 17 by omega] at noMember
    rcases ordered.has_of_step_lt enough with isBelow | isAbove
    · exact noMember _ (Or.inl (le_refl _)) isBelow
    · exact noMember _ (Or.inr (le_refl _)) isAbove
  rw [shortest]
  cases found : (List.range 17).findSome? fun extra : Nat => near.nearestOn? (near.places - 1 - extra) with
  | none => exact absurd (List.findSome?_eq_none_iff.mp found 16 (by decide)) lastFinds
  | some decimal =>
      obtain ⟨extra, foundOn, earlier⟩ := exists_of_findSome?_range found
      refine ⟨extra + 1, Nat.succ_pos _, ?_, ?_⟩
      · have nearest := ordered.isNearestOn_of_eq_some foundOn
        rwa [show near.places - 1 - (extra : Int) = near.places - (extra + 1 : Nat) by omega] at nearest
      · intro other isMember
        by_contra fewer
        obtain ⟨index, isLength⟩ := Nat.exists_eq_add_one.mpr other.length_pos
        have off := isOffGap_of_count_lt positive other.length_pos
          ((Scaled.length_le_iff other.length_pos).mp (le_refl _))
        rw [isLength, show near.places - (index + 1 : Nat) = near.places - 1 - (index : Int) by omega]
          at off
        exact ordered.not_has_of_nearestOn?_eq_none (earlier index (by omega)) off isMember

end Neighbourhood

namespace Dyadic

variable {size : Dyadic}

/-- Four quarters make up a unit. -/
theorem binaryValue_quarters (count : Nat) (exponent : Int) :
    binaryValue count (exponent - 2) = count * 2 ^ exponent / 4 := by
  rw [binaryValue, zpow_sub₀ two_ne_zero]
  norm_num
  ring

/-- The neighbourhood of a number is about that number. -/
theorem center_neighbourhood (size : Dyadic) :
    size.neighbourhood.center = binaryValue size.significand size.exponent := by
  rw [Neighbourhood.center, neighbourhood, binaryValue_quarters, binaryValue]
  push_cast
  ring

theorem isOrdered_neighbourhood (positive : 0 < size.significand) :
    size.neighbourhood.IsOrdered := by
  constructor
  · change 4 * size.significand - (if size.narrowBelow then 1 else 2) < 4 * size.significand
    split <;> omega
  · change 4 * size.significand < 4 * size.significand + 2
    omega

/-- The flag of a number tells whether the number below is only half a unit away. -/
def IsFlagged (size : Dyadic) : Prop :=
  size.narrowBelow = true ↔ size.significand = 2 ^ 52 ∧ -1074 < size.exponent

/-- The ends of the neighbourhood are half-way to the neighbours. -/
theorem ends_neighbourhood (positive : 0 < size.significand) (flagged : size.IsFlagged) :
    binaryValue size.neighbourhood.low size.neighbourhood.exponent =
        lowEnd size.significand size.exponent ∧
      binaryValue size.neighbourhood.high size.neighbourhood.exponent =
        highEnd size.significand size.exponent := by
  constructor
  · rw [neighbourhood, binaryValue_quarters, lowEnd, distanceBelow, binaryValue]
    split
    · next narrow =>
      rw [if_pos (flagged.mp narrow), Nat.cast_sub (by omega)]
      push_cast
      ring
    · next notNarrow =>
      rw [if_neg (mt flagged.mpr notNarrow), Nat.cast_sub (by omega)]
      push_cast
      ring
  · rw [neighbourhood, binaryValue_quarters, highEnd, binaryValue]
    push_cast
    ring

/-- The neighbourhood of a number has what reads back as it. -/
theorem has_neighbourhood_iff
    (canonical : IsCanonical size.significand size.exponent)
    (flagged : size.IsFlagged)
    {exact : ℚ} :
    size.neighbourhood.Has exact ↔ RoundsTo exact size.significand size.exponent := by
  obtain ⟨low, high⟩ := ends_neighbourhood canonical.positive flagged
  have isOpen : size.neighbourhood.closed = false ↔ ¬size.significand % 2 = 0 := by
    rw [neighbourhood, beq_eq_false_iff_ne]
  rw [roundsTo_iff canonical, Neighbourhood.Has, low, high, isOpen]

/-- Seventeen digits are enough, because the number has less than `10 ^ 16` units. -/
theorem step_lt_width
    (canonical : IsCanonical size.significand size.exponent)
    (flagged : size.IsFlagged) :
    (10 : ℚ) ^ (size.neighbourhood.places - 17) <
      binaryValue size.neighbourhood.high size.neighbourhood.exponent -
        binaryValue size.neighbourhood.low size.neighbourhood.exponent := by
  obtain ⟨low, high⟩ := ends_neighbourhood canonical.positive flagged
  have unit : (0 : ℚ) < 2 ^ size.exponent := by positivity
  have steps : (10 : ℚ) ^ (size.neighbourhood.places - 17) * 10 ^ 16 ≤
      size.significand * 2 ^ size.exponent := by
    have positive : 0 < size.neighbourhood.middle := Nat.mul_pos (by decide) canonical.positive
    have begins := (Neighbourhood.places_spec positive).1
    rw [center_neighbourhood, binaryValue] at begins
    refine le_trans (le_of_eq ?_) begins
    rw [← zpow_natCast, ← zpow_add₀ (by norm_num)]
    congr 1
    push_cast
    ring
  rw [low, high, lowEnd, highEnd, distanceBelow]
  split
  · next narrow =>
    rw [narrow.1] at steps ⊢
    norm_num at steps
    linarith
  · have units : (size.significand : ℚ) < 2 ^ 53 := by
      exact_mod_cast canonical.fits
    have lessThan := mul_lt_mul_of_pos_right units unit
    norm_num at steps lessThan
    linarith

/-- The shortest decimal that is chosen for a number is the shortest one that reads back. -/
theorem isShortest_shortest
    (canonical : IsCanonical size.significand size.exponent)
    (flagged : size.IsFlagged) :
    IsShortest size.shortest size.significand size.exponent := by
  have positive : 0 < size.neighbourhood.middle := Nat.mul_pos (by decide) canonical.positive
  have ordered := isOrdered_neighbourhood canonical.positive
  obtain ⟨length, nonzero, nearest, fewest⟩ :=
    ordered.shortest_spec positive (step_lt_width canonical flagged)
  have readsBack := @has_neighbourhood_iff _ canonical flagged
  have lower := Neighbourhood.pow_le_floorOn positive nonzero
  have upper := Neighbourhood.floorOn_lt_pow positive length
  have bounded : size.neighbourhood.shortest.count ≠ 0 ∧
      size.neighbourhood.shortest.count ≤ 10 ^ length := by
    have atLeastOne : 0 < 10 ^ (length - 1) := by positivity
    rcases nearest.onGrid with same | same <;> rw [same]
    · exact ⟨Nat.ne_of_gt (Nat.lt_of_lt_of_le atLeastOne lower), Nat.le_of_lt upper⟩
    · exact ⟨Nat.succ_ne_zero _, upper⟩
  have short : size.shortest.length ≤ length :=
    (Scaled.length_le_iff nonzero).mpr (Scaled.trim_count_lt nonzero bounded.2)
  have sameValue : size.shortest.value = size.neighbourhood.shortest.value := Scaled.value_trim _
  have comparable {other : Scaled} (asShort : other.length = size.shortest.length) :
      size.neighbourhood.IsOffGap (size.neighbourhood.places - length) other.value :=
    Neighbourhood.isOffGap_of_count_lt positive nonzero
      ((Scaled.length_le_iff nonzero).mp (asShort ▸ short))
  constructor
  · rw [sameValue, ← readsBack]
    exact nearest.has
  · exact Scaled.trim_count_mod_ten bounded.1
  · intro other isBack
    exact short.trans (fewest other (readsBack.mpr isBack))
  · intro other isBack asShort
    rw [sameValue, ← center_neighbourhood]
    exact nearest.closest _ (readsBack.mpr isBack) (comparable asShort)
  · intro other isBack asShort
    rw [sameValue, ← center_neighbourhood]
    exact nearest.larger _ (readsBack.mpr isBack) (comparable asShort)

end Dyadic

end Decimal
end PostfixCalculator
