import PostfixCalculator.Number
import PostfixCalculator.Proofs.LiteralGrammar
import PostfixCalculator.Proofs.ShortestDecimal

/-!
# What is written for a number

A finite number is written with the digits of the shortest decimal that reads back as it,
behind a sign if it is negative. The digits have all their places, or they are written with
one digit before the point and a power of ten. No zero stands at either end that is not
needed for the places.

Results are written with all their places. In listings this is so from `0.0001` on and below
`10 ^ 16`, and a whole number keeps a point.
-/

namespace PostfixCalculator
namespace Decimal

open Float.Model Float.Model.UnpackedFloat

/-- Digits of a whole number. A zero begins them only if there is no other digit. -/
structure IsWholePart (digits : List Char) : Prop where
  allDigits : AllDigits digits
  nonempty : digits ≠ []
  noLeadingZero : digits.head? = some '0' -> digits = ['0']

/-- Digits behind a point. No zero ends them. -/
structure IsFractionPart (digits : List Char) : Prop where
  allDigits : AllDigits digits
  noTrailingZero : digits.getLast? ≠ some '0'

/-- What follows the digits of a whole number or of a whole part. -/
def fractionText (ending : String) (fraction : List Char) : String :=
  if fraction = [] then ending else "." ++ String.ofList fraction

/-- A positive number is written with all its places. -/
inductive IsPlaced (ending : String) (value : ℚ) : String -> Prop
  | digits {whole fraction : List Char}
      (isWhole : IsWholePart whole)
      (isFraction : IsFractionPart fraction)
      (same : value = Nat.ofDigitChars 10 (whole ++ fraction) 0 / 10 ^ fraction.length) :
      IsPlaced ending value (String.ofList whole ++ fractionText ending fraction)

/-- A positive number is written with one digit before the point and a power of ten. -/
inductive IsScientific (value : ℚ) : String -> Prop
  | power {mantissa : ℚ} {digits : String} {power : Int}
      (written : IsPlaced "" mantissa digits)
      (atLeastOne : 1 ≤ mantissa)
      (lessThanTen : mantissa < 10)
      (same : value = mantissa * 10 ^ power) :
      IsScientific value (digits ++ "e" ++ toString power)

/-- What stands in front of a number of a sign. -/
def signText : Sign -> String
  | .negative => "-"
  | .positive => ""

/-- A positive decimal is written in the form that its size asks for. -/
def IsWrittenAs (ending : String) (inPlaces : ℚ -> Prop) (value : ℚ) (text : String) : Prop :=
  (inPlaces value -> IsPlaced ending value text) ∧ (¬inPlaces value -> IsScientific value text)

/-- A text is written for a number in its unpacked form. What follows the digits of a whole
number is `ending`, and `inPlaces` tells which decimals have all their places. -/
def IsTextOf (ending : String) (inPlaces : ℚ -> Prop) : UnpackedFloat -> String -> Prop
  | .notANumber, text => text = "NaN"
  | .infinity sign, text => text = signText sign ++ "inf"
  | .zero sign, text => text = signText sign ++ ("0" ++ ending)
  | .finite sign significand exponent _, text =>
      ∃ decimal digits, IsShortest decimal significand exponent ∧
        IsWrittenAs ending inPlaces decimal.value digits ∧ text = signText sign ++ digits

/-! ## Digits of a natural number -/

section Digits

variable {count : Nat}

theorem allDigits_digitsOf (count : Nat) : AllDigits (digitsOf count) :=
  fun _ => Nat.isDigit_of_mem_toDigits (by decide) (by decide)

theorem digitsOf_ne_nil (count : Nat) : digitsOf count ≠ [] :=
  Nat.toDigits_ne_nil

/-- A positive number does not begin with a zero. -/
theorem head?_digitsOf_ne (positive : 0 < count) : (digitsOf count).head? ≠ some '0' := by
  induction count using Nat.strongRecOn with
  | ind count inductionHypothesis =>
      rw [digitsOf, Nat.toDigits_eq_if (by decide)]
      split
      · next single =>
        rw [List.head?_cons, ne_eq, Option.some.injEq, Nat.digitChar_eq_zero]
        omega
      · have head := inductionHypothesis (count / 10) (by omega) (by omega)
        rwa [List.head?_append_of_ne_nil _ Nat.toDigits_ne_nil]

/-- The last digit is the rest of dividing by ten. -/
theorem getLast?_digitsOf (count : Nat) :
    (digitsOf count).getLast? = some (Nat.digitChar (count % 10)) := by
  rw [digitsOf, Nat.toDigits_eq_if (by decide)]
  split
  · next single => rw [List.getLast?_singleton, Nat.mod_eq_of_lt single]
  · exact List.getLast?_concat

/-- A number that is no multiple of ten does not end with a zero. -/
theorem getLast?_digitsOf_ne (trimmed : count % 10 ≠ 0) : (digitsOf count).getLast? ≠ some '0' := by
  rw [getLast?_digitsOf, ne_eq, Option.some.injEq, Nat.digitChar_eq_zero]
  exact trimmed

/-- The digits are those of the number. -/
theorem ofDigitChars_digitsOf (count : Nat) : Nat.ofDigitChars 10 (digitsOf count) 0 = count :=
  Nat.ofDigitChars_ten_toDigits

end Digits

/-- A part of digits has digits only. -/
theorem AllDigits.of_subset
    {digits others : List Char}
    (allDigits : AllDigits digits)
    (isPart : others ⊆ digits) :
    AllDigits others :=
  fun _ present => allDigits _ (isPart present)

theorem allDigits_replicate_zero (count : Nat) : AllDigits (List.replicate count '0') := by
  intro digit present
  rw [List.eq_of_mem_replicate present]
  rfl

theorem AllDigits.append
    {digits others : List Char}
    (allDigits : AllDigits digits)
    (allOthers : AllDigits others) :
    AllDigits (digits ++ others) :=
  List.forall_mem_append.mpr ⟨allDigits, allOthers⟩

/-! ## Layouts -/

variable {layout : Layout} {decimal : Scaled}

/-- Zeros at the end of a whole number stand for its scale. -/
theorem isWholePart_digitsOf_append
    {count : Nat}
    (positive : 0 < count)
    (zeros : Nat) :
    IsWholePart (digitsOf count ++ List.replicate zeros '0') where
  allDigits := (allDigits_digitsOf count).append (allDigits_replicate_zero zeros)
  nonempty := List.append_ne_nil_of_left_ne_nil (digitsOf_ne_nil count) _
  noLeadingZero := by
    rw [List.head?_append_of_ne_nil _ (digitsOf_ne_nil count)]
    exact fun isZero => absurd isZero (head?_digitsOf_ne positive)

/-- Before the point of a number less than one there is a zero. -/
theorem isWholePart_zero : IsWholePart ['0'] where
  allDigits := allDigits_replicate_zero 1
  nonempty := List.cons_ne_nil _ _
  noLeadingZero := fun _ => rfl

/-- A whole number has no digits behind the point. -/
theorem isFractionPart_nil : IsFractionPart [] where
  allDigits := List.forall_mem_nil _
  noTrailingZero := nofun

theorem fractionText_of_ne_nil {fraction : List Char} (nonempty : fraction ≠ []) (ending : String) :
    fractionText ending fraction = "." ++ String.ofList fraction :=
  if_neg nonempty

section Places

variable {count places : Nat}

/-- Digits with zeros behind them are a whole number. -/
theorem isPlaced_whole (positive : 0 < count) (ending : String) (zeros : Nat) :
    IsPlaced ending (count * 10 ^ zeros)
      (String.ofList (digitsOf count ++ List.replicate zeros '0') ++ ending) := by
  refine .digits (isWholePart_digitsOf_append positive zeros) isFractionPart_nil ?_
  rw [List.append_nil, List.length_nil, pow_zero, div_one, Nat.ofDigitChars_append,
    Nat.ofDigitChars_replicate_zero, ofDigitChars_digitsOf]
  push_cast
  rw [mul_comm]

/-- Digits with a point among them are a whole part and a fraction. -/
theorem isPlaced_pointInside
    (trimmed : count % 10 ≠ 0)
    (ending : String)
    (somePlaces : 0 < places)
    (inside : places < (digitsOf count).length) :
    IsPlaced ending (count / 10 ^ places)
      (String.ofList ((digitsOf count).take ((digitsOf count).length - places)) ++
        ("." ++ String.ofList ((digitsOf count).drop ((digitsOf count).length - places)))) := by
  have positive : 0 < count := Nat.pos_of_ne_zero fun zero => by simp [zero] at trimmed
  have nonempty : (digitsOf count).drop ((digitsOf count).length - places) ≠ [] := by
    rw [ne_eq, List.drop_eq_nil_iff]
    omega
  rw [← fractionText_of_ne_nil nonempty ending]
  refine .digits ⟨?_, ?_, ?_⟩ ⟨?_, ?_⟩ ?_
  · exact (allDigits_digitsOf _).of_subset (List.take_subset _ _)
  · rw [ne_eq, List.take_eq_nil_iff, not_or]
    exact ⟨by omega, digitsOf_ne_nil _⟩
  · rw [List.head?_take, if_neg (by omega)]
    exact fun isZero => absurd isZero (head?_digitsOf_ne positive)
  · exact (allDigits_digitsOf _).of_subset (List.drop_subset _ _)
  · rw [List.getLast?_drop, if_neg (by omega)]
    exact getLast?_digitsOf_ne trimmed
  · rw [List.take_append_drop, ofDigitChars_digitsOf, List.length_drop,
      Nat.sub_sub_self (Nat.le_of_lt inside)]

/-- Digits behind a point, with zeros between, are a fraction. -/
theorem isPlaced_pointInFront
    (trimmed : count % 10 ≠ 0)
    (ending : String)
    (outside : (digitsOf count).length ≤ places) :
    IsPlaced ending (count / 10 ^ places)
      ("0." ++ String.ofList
        (List.replicate (places - (digitsOf count).length) '0' ++ digitsOf count)) := by
  have nonempty : List.replicate (places - (digitsOf count).length) '0' ++ digitsOf count ≠ [] :=
    List.append_ne_nil_of_right_ne_nil _ (digitsOf_ne_nil _)
  have isZero : "0." = String.ofList ['0'] ++ "." := by decide
  rw [isZero, String.append_assoc, ← fractionText_of_ne_nil nonempty ending]
  refine .digits isWholePart_zero ⟨?_, ?_⟩ ?_
  · exact (allDigits_replicate_zero _).append (allDigits_digitsOf _)
  · rw [List.getLast?_append_of_ne_nil _ (digitsOf_ne_nil _)]
    exact getLast?_digitsOf_ne trimmed
  · have zeros : Nat.ofDigitChars 10 ['0'] 0 = 0 := rfl
    rw [Nat.ofDigitChars_append, zeros, Nat.ofDigitChars_append, Nat.ofDigitChars_replicate_zero,
      Nat.mul_zero, ofDigitChars_digitsOf, List.length_append, List.length_replicate,
      Nat.sub_add_cancel outside]

end Places

/-- A decimal is written with all its places. -/
theorem isPlaced_writePlaces (trimmed : decimal.count % 10 ≠ 0) :
    IsPlaced layout.wholeEnding decimal.value (layout.writePlaces decimal) := by
  have positive : 0 < decimal.count := Nat.pos_of_ne_zero fun zero => by simp [zero] at trimmed
  rw [Layout.writePlaces]
  dsimp only
  split
  · next whole =>
    obtain ⟨zeros, isZeros⟩ := Int.eq_ofNat_of_zero_le whole
    rw [isZeros, Int.toNat_natCast, Scaled.value, isZeros, zpow_natCast]
    exact isPlaced_whole positive layout.wholeEnding zeros
  · next notWhole =>
    obtain ⟨places, isPlaces⟩ : ∃ places : Nat, decimal.scale = -places :=
      ⟨(-decimal.scale).toNat, by omega⟩
    rw [isPlaces, neg_neg, Int.toNat_natCast, Scaled.value, isPlaces, zpow_neg, zpow_natCast,
      ← div_eq_mul_inv, String.append_assoc]
    split
    · next inside => exact isPlaced_pointInside trimmed layout.wholeEnding (by omega) inside
    · next outside =>
      exact isPlaced_pointInFront trimmed layout.wholeEnding (Nat.le_of_not_lt outside)

/-- The power of ten of the first digit of a decimal. -/
def Scaled.power (decimal : Scaled) : Int :=
  decimal.scale + (digitsOf decimal.count).length - 1

/-- A decimal is at least the power of ten of its first digit and less than the next. -/
theorem Scaled.power_spec (positive : 0 < decimal.count) :
    (10 : ℚ) ^ decimal.power ≤ decimal.value ∧ decimal.value < 10 ^ (decimal.power + 1) := by
  have lengthPositive := decimal.length_pos
  have power : decimal.power = decimal.length + decimal.scale - 1 := by
    rw [Scaled.power, Int.add_comm decimal.scale]
    rfl
  constructor
  · have first := value_le (pow_le_count positive) decimal.scale
    rw [value_pow, Nat.cast_sub lengthPositive] at first
    convert first using 2
    rw [power]
    push_cast
    ring
  · have next := (length_le_iff lengthPositive).mp (le_refl _)
    have step : (0 : ℚ) < 10 ^ decimal.scale := by positivity
    calc decimal.value
      _ < value ⟨10 ^ decimal.length, decimal.scale⟩ := by
        rw [value, value, mul_lt_mul_iff_left₀ step, Nat.cast_lt]
        exact next
      _ = 10 ^ (decimal.power + 1) := by
        rw [value_pow, power, sub_add_cancel]

/-- The first digit of a decimal before the point, and the others behind it. -/
theorem isPlaced_mantissa (trimmed : decimal.count % 10 ≠ 0) {digit : Char} {fraction : List Char}
    (split : digitsOf decimal.count = digit :: fraction) :
    IsPlaced "" (decimal.value / 10 ^ decimal.power)
      (String.ofList [digit] ++ fractionText "" fraction) := by
  have positive : 0 < decimal.count := Nat.pos_of_ne_zero fun zero => by simp [zero] at trimmed
  have allDigits := allDigits_digitsOf decimal.count
  have notZero := head?_digitsOf_ne positive
  have notEnded := getLast?_digitsOf_ne trimmed
  have value : decimal.value / 10 ^ decimal.power =
      Nat.ofDigitChars 10 (digit :: fraction) 0 / 10 ^ fraction.length := by
    rw [← split, ofDigitChars_digitsOf, Scaled.power, split, List.length_cons, Nat.cast_succ,
      ← add_assoc, add_sub_cancel_right, zpow_add₀ (by norm_num), zpow_natCast, Scaled.value]
    field_simp
  rw [split] at allDigits notZero notEnded
  rw [value]
  refine .digits ⟨?_, List.cons_ne_nil _ _, ?_⟩ ⟨?_, ?_⟩ rfl
  · exact allDigits.of_subset (by simp)
  · exact fun isZero => absurd isZero notZero
  · exact allDigits.of_subset (List.subset_cons_self _ _)
  · cases fraction with
    | nil => simp
    | cons next others => rwa [List.getLast?_cons_cons] at notEnded

/-- A decimal is written with a power of ten. -/
theorem isScientific_writeExponent (trimmed : decimal.count % 10 ≠ 0) :
    IsScientific decimal.value (writeExponent decimal) := by
  have positive : 0 < decimal.count := Nat.pos_of_ne_zero fun zero => by simp [zero] at trimmed
  have unit : (0 : ℚ) < 10 ^ decimal.power := by positivity
  obtain ⟨lower, upper⟩ := decimal.power_spec positive
  obtain ⟨digit, fraction, split⟩ := List.exists_cons_of_ne_nil (digitsOf_ne_nil decimal.count)
  have written : writeExponent decimal =
      String.ofList [digit] ++ fractionText "" fraction ++ "e" ++ toString decimal.power := by
    rw [writeExponent, Scaled.power, split]
    cases fraction <;> simp [fractionText, String.append_assoc]
  rw [written]
  refine .power (isPlaced_mantissa trimmed split) ?_ ?_ ?_
  · rwa [one_le_div unit]
  · rwa [div_lt_iff₀ unit, mul_comm, ← zpow_add_one₀ (by norm_num)]
  · rw [div_mul_cancel₀ _ unit.ne']

/-- A decimal has at least a power of ten if its first digit has. -/
theorem Scaled.pow_le_value_iff (positive : 0 < decimal.count) {power : Int} :
    (10 : ℚ) ^ power ≤ decimal.value ↔ power ≤ decimal.power := by
  obtain ⟨lower, upper⟩ := power_spec positive
  constructor
  · intro atLeast
    have less := atLeast.trans_lt upper
    rw [zpow_lt_zpow_iff_right₀ (by norm_num)] at less
    omega
  · intro ordered
    exact (zpow_le_zpow_right₀ (by norm_num) ordered).trans lower

/-- The decimals that a layout writes with all their places. -/
def Layout.InPlaces (layout : Layout) (value : ℚ) : Prop :=
  match layout.positional with
  | none => True
  | some (least, greatest) => 10 ^ least ≤ value ∧ value < 10 ^ (greatest + 1)

/-- A layout with bounds chooses by the power of the first digit. -/
theorem writeScaled_of_bounds {least greatest : Int} (bounds : layout.positional = some (least, greatest)) :
    layout.writeScaled decimal =
      if least ≤ decimal.power ∧ decimal.power ≤ greatest then
        layout.writePlaces decimal
      else
        writeExponent decimal := by
  rw [Layout.writeScaled, bounds]
  simp only [Bool.and_eq_true, decide_eq_true_eq]
  rfl

/-- The form is chosen by the size of the decimal. -/
theorem isWrittenAs_writeScaled (trimmed : decimal.count % 10 ≠ 0) :
    IsWrittenAs layout.wholeEnding layout.InPlaces decimal.value (layout.writeScaled decimal) := by
  have positive : 0 < decimal.count := Nat.pos_of_ne_zero fun zero => by simp [zero] at trimmed
  cases positional : layout.positional with
  | none =>
      have inside : layout.InPlaces decimal.value := by
        rw [Layout.InPlaces, positional]
        trivial
      rw [Layout.writeScaled, positional]
      exact ⟨fun _ => isPlaced_writePlaces trimmed, fun outside => absurd inside outside⟩
  | some bounds =>
      obtain ⟨least, greatest⟩ := bounds
      have inside : layout.InPlaces decimal.value ↔
          least ≤ decimal.power ∧ decimal.power ≤ greatest := by
        rw [Layout.InPlaces, positional]
        dsimp only
        rw [← not_le, Scaled.pow_le_value_iff positive, Scaled.pow_le_value_iff positive, not_le,
          Int.lt_add_one_iff]
      rw [IsWrittenAs, inside, writeScaled_of_bounds positional]
      constructor
      · intro isInside
        rw [if_pos isInside]
        exact isPlaced_writePlaces trimmed
      · intro isOutside
        rw [if_neg isOutside]
        exact isScientific_writeExponent trimmed

/-- The sign in front of a number. -/
theorem signText_signOf (negative : Bool) :
    signText (signOf negative) = if negative then "-" else "" := by
  cases negative <;> rfl

/-- What is written for a number in a layout. -/
theorem isTextOf_write (layout : Layout) (number : Float) :
    IsTextOf layout.wholeEnding layout.InPlaces number.toModel.unpack (layout.write number) := by
  have agrees := readsOff number
  rw [Layout.write, ← signText_signOf]
  generalize number.toModel.unpack = form at agrees
  generalize isNegative number = negative at agrees
  generalize magnitude number = size at agrees
  cases agrees with
  | undefined => rfl
  | infinite => rfl
  | zero => exact String.append_assoc
  | finite canonical narrow =>
      have shortest := @Dyadic.isShortest_shortest ⟨_, _, _⟩ canonical narrow
      exact ⟨_, _, shortest, isWrittenAs_writeScaled shortest.trimmed, rfl⟩

/-! ## No other text -/

section Uniqueness

variable {digits others : List Char}

/-- The first digit counts for the power of ten of those behind it. -/
theorem ofDigitChars_cons_eq (digit : Char) (rest : List Char) :
    Nat.ofDigitChars 10 (digit :: rest) 0 =
      10 ^ rest.length * (digit.toNat - '0'.toNat) + Nat.ofDigitChars 10 rest 0 := by
  rw [Nat.ofDigitChars_cons, Nat.mul_zero, Nat.zero_add, Nat.ofDigitChars_eq_ofDigitChars_zero]

/-- Digits in front count for the power of ten of those behind them. -/
theorem ofDigitChars_append_eq (front behind : List Char) :
    Nat.ofDigitChars 10 (front ++ behind) 0 =
      10 ^ behind.length * Nat.ofDigitChars 10 front 0 + Nat.ofDigitChars 10 behind 0 := by
  rw [Nat.ofDigitChars_append, Nat.ofDigitChars_eq_ofDigitChars_zero]

/-- Digits denote less than the power of ten of their number. -/
theorem AllDigits.ofDigitChars_lt (allDigits : AllDigits digits) :
    Nat.ofDigitChars 10 digits 0 < 10 ^ digits.length := by
  induction digits with
  | nil => decide
  | cons digit rest inductionHypothesis =>
      obtain ⟨isDigit, restDigits⟩ := List.forall_mem_cons.mp allDigits
      have less := inductionHypothesis restDigits
      have atMostNine : digit.toNat - '0'.toNat ≤ 9 :=
        Nat.sub_le_sub_right (Char.isDigit_iff_toNat.mp isDigit).2 _
      have leading := Nat.mul_le_mul_left (10 ^ rest.length) atMostNine
      rw [ofDigitChars_cons_eq, List.length_cons, pow_succ]
      omega

/-- Two parts of a number in some base are told apart. -/
theorem eq_and_eq_of_mul_add_eq {base first second rest other : Nat}
    (restLess : rest < base)
    (otherLess : other < base)
    (same : base * first + rest = base * second + other) :
    first = second ∧ rest = other := by
  have positive : 0 < base := Nat.lt_of_le_of_lt (Nat.zero_le _) restLess
  have quotients := congrArg (· / base) same
  have rests := congrArg (· % base) same
  simp only [Nat.mul_add_div positive, Nat.div_eq_of_lt restLess, Nat.div_eq_of_lt otherLess,
    Nat.mul_add_mod, Nat.mod_eq_of_lt restLess, Nat.mod_eq_of_lt otherLess] at quotients rests
  exact ⟨quotients, rests⟩

/-- As many digits that denote the same number are the same. -/
theorem AllDigits.eq_of_ofDigitChars_eq
    (allDigits : AllDigits digits)
    (allOthers : AllDigits others)
    (sameLength : digits.length = others.length)
    (same : Nat.ofDigitChars 10 digits 0 = Nat.ofDigitChars 10 others 0) :
    digits = others := by
  induction digits generalizing others with
  | nil => exact (List.length_eq_zero_iff.mp sameLength.symm).symm
  | cons digit rest inductionHypothesis =>
      obtain ⟨other, otherRest, rfl⟩ := List.exists_cons_of_length_eq_add_one sameLength.symm
      obtain ⟨isDigit, restDigits⟩ := List.forall_mem_cons.mp allDigits
      obtain ⟨otherDigit, otherDigits⟩ := List.forall_mem_cons.mp allOthers
      have restLength : rest.length = otherRest.length := Nat.succ.inj sameLength
      rw [ofDigitChars_cons_eq, ofDigitChars_cons_eq, ← restLength] at same
      obtain ⟨sameDigit, sameRest⟩ := eq_and_eq_of_mul_add_eq
        (AllDigits.ofDigitChars_lt restDigits)
        (restLength ▸ AllDigits.ofDigitChars_lt otherDigits) same
      have least := (Char.isDigit_iff_toNat.mp isDigit).1
      have otherLeast := (Char.isDigit_iff_toNat.mp otherDigit).1
      have sameCode : digit.toNat = other.toNat := by omega
      rw [inductionHypothesis restDigits otherDigits restLength sameRest,
        Char.toNat_inj.mp sameCode]

/-- A whole part other than a single zero begins with a power of ten. -/
theorem IsWholePart.pow_le (isWhole : IsWholePart digits) (nonzero : digits ≠ ['0']) :
    10 ^ (digits.length - 1) ≤ Nat.ofDigitChars 10 digits 0 := by
  obtain ⟨digit, rest, rfl⟩ := List.exists_cons_of_ne_nil isWhole.nonempty
  have least := (Char.isDigit_iff_toNat.mp (isWhole.allDigits digit List.mem_cons_self)).1
  have notZero : digit.toNat ≠ '0'.toNat := by
    intro isZero
    rw [Char.toNat_inj.mp isZero] at isWhole nonzero
    exact nonzero (isWhole.noLeadingZero rfl)
  rw [ofDigitChars_cons_eq, List.length_cons, Nat.add_sub_cancel]
  exact Nat.le_add_right_of_le (Nat.le_mul_of_pos_right _ (by omega))

/-- A whole part has no more digits than its number needs. -/
theorem IsWholePart.length_le
    (isWhole : IsWholePart digits)
    {length : Nat}
    (positive : 0 < length)
    (less : Nat.ofDigitChars 10 digits 0 < 10 ^ length) :
    digits.length ≤ length := by
  by_cases isZero : digits = ['0']
  · rw [isZero]
    exact positive
  · have power := (isWhole.pow_le isZero).trans_lt less
    rw [Nat.pow_lt_pow_iff_right (by decide)] at power
    omega

/-- Whole parts that denote the same number are the same. -/
theorem IsWholePart.eq_of_ofDigitChars_eq
    (isWhole : IsWholePart digits)
    (isOther : IsWholePart others)
    (same : Nat.ofDigitChars 10 digits 0 = Nat.ofDigitChars 10 others 0) :
    digits = others := by
  refine isWhole.allDigits.eq_of_ofDigitChars_eq isOther.allDigits (Nat.le_antisymm ?_ ?_) same
  · apply isWhole.length_le (List.length_pos_iff.mpr isOther.nonempty)
    rw [same]
    exact isOther.allDigits.ofDigitChars_lt
  · apply isOther.length_le (List.length_pos_iff.mpr isWhole.nonempty)
    rw [← same]
    exact isWhole.allDigits.ofDigitChars_lt

/-- What ends with a fraction is no multiple of ten. -/
theorem IsFractionPart.ofDigitChars_mod_ten
    {whole fraction : List Char}
    (isFraction : IsFractionPart fraction)
    (nonempty : fraction ≠ []) :
    Nat.ofDigitChars 10 (whole ++ fraction) 0 % 10 ≠ 0 := by
  rcases List.eq_nil_or_concat' fraction with rfl | ⟨front, last, rfl⟩
  · contradiction
  have isDigit := Char.isDigit_iff_toNat.mp (isFraction.allDigits last (by simp))
  have notZero : last.toNat ≠ '0'.toNat := by
    intro isZero
    rw [Char.toNat_inj.mp isZero] at isFraction
    exact isFraction.noTrailingZero List.getLast?_concat
  rw [← List.append_assoc, ofDigitChars_append_eq, Nat.ofDigitChars_cons, Nat.ofDigitChars_nil,
    List.length_singleton, pow_one]
  simp only [Char.reduceToNat] at isDigit notZero ⊢
  omega

/-- Places that are needed cannot be left out. -/
theorem le_of_div_pow_eq {first second places morePlaces : Nat}
    (same : (first : ℚ) / 10 ^ places = second / 10 ^ morePlaces)
    (needed : second % 10 ≠ 0) :
    morePlaces ≤ places := by
  by_contra fewer
  obtain ⟨extra, rfl⟩ := Nat.exists_eq_add_of_lt (Nat.lt_of_not_le fewer)
  rw [div_eq_div_iff (by positivity) (by positivity)] at same
  have isMultiple : (second : ℚ) = (first * 10 ^ extra * 10 : Nat) := by
    refine mul_right_cancel₀ (pow_ne_zero places (by norm_num : (10 : ℚ) ≠ 0)) ?_
    rw [← same]
    push_cast
    ring
  rw [Nat.cast_inj.mp isMultiple, Nat.mul_mod_left] at needed
  exact needed rfl

/-- A fraction has no more digits than its number needs. -/
theorem IsFractionPart.length_le
    {whole fraction : List Char}
    (isFraction : IsFractionPart fraction)
    {first places : Nat}
    (same : (first : ℚ) / 10 ^ places =
      Nat.ofDigitChars 10 (whole ++ fraction) 0 / 10 ^ fraction.length) :
    fraction.length ≤ places := by
  by_cases isWhole : fraction = []
  · rw [isWhole]
    exact Nat.zero_le _
  · exact le_of_div_pow_eq same (isFraction.ofDigitChars_mod_ten isWhole)

/-- A number is written with all its places in one way. -/
theorem IsPlaced.unique
    {ending first second : String}
    {value : ℚ}
    (isFirst : IsPlaced ending value first)
    (isSecond : IsPlaced ending value second) :
    first = second := by
  obtain @⟨whole, fraction, isWhole, isFraction, same⟩ := isFirst
  obtain @⟨otherWhole, otherFraction, isOtherWhole, isOtherFraction, otherSame⟩ := isSecond
  have sameValue := same.symm.trans otherSame
  have sameLength : fraction.length = otherFraction.length :=
    Nat.le_antisymm (isFraction.length_le sameValue.symm) (isOtherFraction.length_le sameValue)
  rw [sameLength, div_left_inj' (by positivity), Nat.cast_inj, ofDigitChars_append_eq,
    ofDigitChars_append_eq, sameLength] at sameValue
  obtain ⟨wholes, fractions⟩ := eq_and_eq_of_mul_add_eq
    (sameLength ▸ isFraction.allDigits.ofDigitChars_lt) isOtherFraction.allDigits.ofDigitChars_lt
    sameValue
  rw [isWhole.eq_of_ofDigitChars_eq isOtherWhole wholes,
    isFraction.allDigits.eq_of_ofDigitChars_eq isOtherFraction.allDigits sameLength fractions]

/-- A mantissa of one digit before the point leaves the rest to the power. -/
theorem power_le_of_mul_eq {first second : ℚ} {power otherPower : Int}
    (same : first * 10 ^ power = second * 10 ^ otherPower)
    (lessThanTen : first < 10)
    (atLeastOne : 1 ≤ second) :
    otherPower ≤ power := by
  have unit : (0 : ℚ) < 10 ^ power := by positivity
  have otherUnit : (0 : ℚ) < 10 ^ otherPower := by positivity
  have less : (10 : ℚ) ^ otherPower < 10 ^ (power + 1) := by
    calc (10 : ℚ) ^ otherPower
      _ ≤ second * 10 ^ otherPower := le_mul_of_one_le_left otherUnit.le atLeastOne
      _ = first * 10 ^ power := same.symm
      _ < 10 * 10 ^ power := mul_lt_mul_of_pos_right lessThanTen unit
      _ = 10 ^ (power + 1) := by rw [zpow_add_one₀ (by norm_num), mul_comm]
  rw [zpow_lt_zpow_iff_right₀ (by norm_num)] at less
  omega

/-- A number is written with a power of ten in one way. -/
theorem IsScientific.unique
    {first second : String}
    {value : ℚ}
    (isFirst : IsScientific value first)
    (isSecond : IsScientific value second) :
    first = second := by
  obtain @⟨mantissa, digits, power, written, atLeastOne, lessThanTen, same⟩ := isFirst
  obtain @⟨other, otherDigits, otherPower, otherWritten, otherAtLeast, otherLess, otherSame⟩ :=
    isSecond
  have sameValue := same.symm.trans otherSame
  obtain rfl : power = otherPower :=
    le_antisymm (power_le_of_mul_eq sameValue.symm otherLess atLeastOne)
      (power_le_of_mul_eq sameValue lessThanTen otherAtLeast)
  obtain rfl : mantissa = other := mul_right_cancel₀ (zpow_ne_zero power (by norm_num)) sameValue
  rw [written.unique otherWritten]

/-- A number is written in one way. -/
theorem IsTextOf.unique
    {ending first second : String}
    {inPlaces : ℚ -> Prop}
    {form : UnpackedFloat}
    (isFirst : IsTextOf ending inPlaces form first)
    (isSecond : IsTextOf ending inPlaces form second) :
    first = second := by
  cases form with
  | notANumber => exact isFirst.trans isSecond.symm
  | infinity sign => exact isFirst.trans isSecond.symm
  | zero sign => exact isFirst.trans isSecond.symm
  | finite sign significand exponent positive =>
      obtain ⟨decimal, digits, shortest, ⟨placed, scientific⟩, rfl⟩ := isFirst
      obtain ⟨other, otherDigits, otherShortest, ⟨otherPlaced, otherScientific⟩, rfl⟩ := isSecond
      rw [otherShortest.value_eq shortest] at otherPlaced otherScientific
      by_cases inside : inPlaces decimal.value
      · rw [(placed inside).unique (otherPlaced inside)]
      · rw [(scientific inside).unique (otherScientific inside)]

end Uniqueness

/-- A text is what is written for a number exactly if it is the text of its form. -/
theorem write_eq_iff {layout : Layout} {number : Float} {text : String} :
    layout.write number = text ↔
      IsTextOf layout.wholeEnding layout.InPlaces number.toModel.unpack text := by
  constructor
  · rintro rfl
    exact isTextOf_write layout number
  · exact (isTextOf_write layout number).unique

end Decimal

namespace Number

/-- A text is written for a number on the operand stack. A signaling value is undefined. -/
def IsTextOf (ending : String) (inPlaces : ℚ -> Prop) : Number -> String -> Prop
  | .ordinary value, text => Decimal.IsTextOf ending inPlaces value.toModel.unpack text
  | .signaling, text => text = "NaN"

/-- A text is printed for a number: with all its places and no superfluous point. -/
def IsPrinted : Number -> String -> Prop :=
  IsTextOf "" fun _ => True

/-- A text is listed for a number: with an exponent below `0.0001` and from `10 ^ 16` on,
and with a point. -/
def IsListed : Number -> String -> Prop :=
  IsTextOf ".0" fun value => 1 / 10000 ≤ value ∧ value < 10 ^ 16

/-- A text is what is written for a number exactly if it is the text of it. -/
theorem write_eq_iff {layout : Decimal.Layout} {number : Number} {text : String} :
    number.write layout = text ↔ number.IsTextOf layout.wholeEnding layout.InPlaces text := by
  cases number with
  | ordinary value => exact Decimal.write_eq_iff
  | signaling =>
      have undefined : Decimal.magnitude (0.0 / 0.0) = .undefined := by decide +kernel
      have written : signaling.write layout = "NaN" := by
        change layout.write (0.0 / 0.0) = "NaN"
        rw [Decimal.Layout.write, undefined]
      rw [written]
      exact eq_comm

/-- Results are written as they are to be printed. -/
theorem write_plain_eq_iff {number : Number} {text : String} :
    number.write Decimal.plain = text ↔ number.IsPrinted text :=
  write_eq_iff

/-- Entries of listings are written as they are to be listed. -/
theorem write_precise_eq_iff {number : Number} {text : String} :
    number.write Decimal.precise = text ↔ number.IsListed text := by
  have bounds : Decimal.precise.InPlaces = fun value : ℚ => 1 / 10000 ≤ value ∧ value < 10 ^ 16 := by
    funext value
    rw [Decimal.Layout.InPlaces, Decimal.precise]
    norm_num
  rw [write_eq_iff, bounds]
  rfl

end Number
end PostfixCalculator
