import Mathlib
import WorkflowEngine.Proofs.Decimal.Units

/-!
# Doubles nearest to integers and quotients

Doubles are compared as whole numbers of units, a unit being the least positive double.  The units of the double nearest
to an integer are those of a multiple of the integer's grain, the distance between the doubles that lie around it; so
that doubles nearest to integers are ordered like these multiples are, and integers that share one are not told apart.
The double nearest to a quotient is finite unless the quotient reaches the point half way between the largest double and
the next power of two.  The two doubles that are equal to zero count as the integer zero.
-/

namespace WorkflowEngine.Decimal

/-! ## Multiples of a grain -/

/-- The distance between the doubles around a natural number that is not less than a double's mantissa. -/
def grain (n : Nat) : Nat :=
  2 ^ (n.log2 - 52)

/-- The multiple of its grain that is nearest to a natural number, the even one of two. -/
def nearestNat (n : Nat) : Nat :=
  roundDiv n (grain n) * grain n

/-- The integer of which a double has the value that is nearest to an integer. -/
def nearestInt (i : Int) : Int :=
  i.sign * (nearestNat i.natAbs : Int)

theorem grain_pos (n : Nat) : 0 < grain n :=
  Nat.two_pow_pos _

/-- Below the first number that a mantissa cannot hold, the grain is one. -/
theorem grain_eq_one {n : Nat} (few : n < 2 ^ 53) : grain n = 1 := by
  rcases Nat.eq_zero_or_pos n with rfl | positive
  · rfl
  · have small := (Nat.log2_lt (Nat.ne_of_gt positive)).mpr few
    rw [grain, Nat.sub_eq_zero_of_le (by omega), Nat.pow_zero]

/-- Beyond, it takes the bits of the number that a mantissa has no place for. -/
theorem mul_grain {n : Nat} (many : 2 ^ 52 ≤ n) : 2 ^ 52 * grain n = 2 ^ n.log2 := by
  have positive : n ≠ 0 := by omega
  have large := (Nat.le_log2 positive).mpr many
  rw [grain, ← Nat.pow_add, Nat.add_sub_cancel' large]

theorem roundDiv_one (n : Nat) : roundDiv n 1 = n := by
  rcases roundDiv_eq_or n 1 with same | next
  · rw [same, Nat.div_one]
  · have half := roundDiv_within_half n 1 Nat.one_pos
    rw [Nat.div_one] at next
    omega

theorem roundDiv_mono {m n : Nat} (le : m ≤ n) (den : Nat) : roundDiv m den ≤ roundDiv n den := by
  rcases Nat.lt_or_eq_of_le (Nat.div_le_div_right (c := den) le) with below | same
  · rcases roundDiv_eq_or m den with down | up <;> rcases roundDiv_eq_or n den with down' | up' <;> omega
  · have rests : m % den ≤ n % den := by
      have parts := Nat.div_add_mod m den
      have parts' := Nat.div_add_mod n den
      rw [same] at parts
      omega
    simp only [roundDiv, same]
    repeat' split
    all_goals omega

/-- A number that a mantissa holds is the nearest one to itself. -/
theorem nearestNat_of_lt {n : Nat} (few : n < 2 ^ 53) : nearestNat n = n := by
  rw [nearestNat, grain_eq_one few, roundDiv_one, Nat.mul_one]

/-- The mantissa of the double nearest to a number. -/
theorem roundDiv_grain_bounds {n : Nat} (many : 2 ^ 52 ≤ n) :
    2 ^ 52 ≤ roundDiv n (grain n) ∧ roundDiv n (grain n) ≤ 2 ^ 53 := by
  have positive : n ≠ 0 := by omega
  have low := Nat.log2_self_le positive
  have high := Nat.lt_log2_self (n := n)
  rw [Nat.pow_succ, ← mul_grain many] at high
  rw [← mul_grain many] at low
  have whole := (Nat.le_div_iff_mul_le (grain_pos n)).mpr low
  have whole' : n / grain n < 2 ^ 53 := (Nat.div_lt_iff_lt_mul (grain_pos n)).mpr (by omega)
  rcases roundDiv_eq_or n (grain n) with down | up <;> omega

/-- A number and the one nearest to it lie between the same powers of two, where the upper one may be reached. -/
theorem nearestNat_bounds {n : Nat} (positive : n ≠ 0) :
    2 ^ n.log2 ≤ nearestNat n ∧ nearestNat n ≤ 2 ^ (n.log2 + 1) := by
  rcases Nat.lt_or_ge n (2 ^ 52) with few | many
  · rw [nearestNat_of_lt (few.trans (by decide))]
    exact ⟨Nat.log2_self_le positive, Nat.lt_log2_self.le⟩
  · obtain ⟨low, high⟩ := roundDiv_grain_bounds many
    have least := Nat.mul_le_mul_right (grain n) low
    have most := Nat.mul_le_mul_right (grain n) high
    have power := mul_grain many
    rw [Nat.pow_succ, nearestNat, ← power]
    constructor
    · exact least
    · omega

theorem nearestNat_mono {m n : Nat} (le : m ≤ n) : nearestNat m ≤ nearestNat n := by
  rcases Nat.eq_zero_or_pos m with rfl | positive
  · rw [nearestNat_of_lt (by decide : 0 < 2 ^ 53)]
    exact Nat.zero_le _
  · have positive' : n ≠ 0 := by omega
    have logs : m.log2 ≤ n.log2 := (Nat.le_log2 positive').mpr ((Nat.log2_self_le (Nat.ne_of_gt positive)).trans le)
    rcases Nat.lt_or_eq_of_le logs with below | same
    · -- The two lie on different sides of a power of two.
      calc nearestNat m ≤ 2 ^ (m.log2 + 1) := (nearestNat_bounds (Nat.ne_of_gt positive)).2
        _ ≤ 2 ^ n.log2 := Nat.pow_le_pow_right (by decide) below
        _ ≤ nearestNat n := (nearestNat_bounds positive').1
    · -- They have the same grain.
      have grains : grain m = grain n := by rw [grain, grain, same]
      rw [nearestNat, nearestNat, grains]
      exact Nat.mul_le_mul_right _ (roundDiv_mono le _)

theorem nearestInt_mono {i j : Int} (le : i ≤ j) : nearestInt i ≤ nearestInt j := by
  rcases lt_trichotomy i 0 with negative | rfl | positive
  · rcases lt_trichotomy j 0 with negative' | rfl | positive'
    · have sizes : nearestNat j.natAbs ≤ nearestNat i.natAbs := nearestNat_mono (by omega)
      rw [nearestInt, nearestInt, Int.sign_eq_neg_one_of_neg negative, Int.sign_eq_neg_one_of_neg negative']
      omega
    · rw [nearestInt, nearestInt, Int.sign_eq_neg_one_of_neg negative, Int.sign_zero]
      omega
    · rw [nearestInt, nearestInt, Int.sign_eq_neg_one_of_neg negative, Int.sign_eq_one_of_pos positive']
      omega
  · rcases lt_or_eq_of_le le with positive' | rfl
    · rw [nearestInt, nearestInt, Int.sign_zero, Int.sign_eq_one_of_pos positive']
      omega
    · exact le_refl _
  · have sizes : nearestNat i.natAbs ≤ nearestNat j.natAbs := nearestNat_mono (by omega)
    rw [nearestInt, nearestInt, Int.sign_eq_one_of_pos positive, Int.sign_eq_one_of_pos (positive.trans_le le)]
    omega

/-- Integers are in the order in which the values nearest to them are. -/
theorem lt_of_nearestInt_lt {i j : Int} (below : nearestInt i < nearestInt j) : i < j := by
  by_contra above
  exact absurd (nearestInt_mono (not_lt.mp above)) (not_le.mpr below)

/-- The integers that a mantissa holds are told apart. -/
theorem nearestInt_of_lt {i : Int} (few : i.natAbs < 2 ^ 53) : nearestInt i = i := by
  rw [nearestInt, nearestNat_of_lt few, Int.sign_mul_natAbs]

/-- The numbers that the largest double or a lesser one is nearest to. -/
theorem nearestNat_lt_iff (n : Nat) : nearestNat n < 2 ^ 1024 ↔ n < 2 ^ 1024 - 2 ^ 970 := by
  have last : nearestNat (2 ^ 1024 - 2 ^ 970 - 1) < 2 ^ 1024 := by decide +kernel
  have first : 2 ^ 1024 ≤ nearestNat (2 ^ 1024 - 2 ^ 970) := by decide +kernel
  constructor
  · intro within
    by_contra beyond
    have mono := nearestNat_mono (Nat.le_of_not_lt beyond)
    omega
  · intro within
    have mono := nearestNat_mono (Nat.le_sub_one_of_lt within)
    omega

/-! ## The doubles of integers -/

/-- A number with fewer bits than a mantissa is shifted up to its leading bit. -/
theorem inBinaryUnits_few {n : Nat} (few : n.log2 < 52) :
    inBinaryUnits n 1 (n.log2 - 52) = (n * 2 ^ (52 - n.log2), 1) := by
  have places : (-((n.log2 : Int) - 52)).toNat = 52 - n.log2 := by omega
  rw [inBinaryUnits, if_neg (by omega), places]
  rfl

/-- Any other number is counted in grains. -/
theorem inBinaryUnits_many {n : Nat} (many : 52 ≤ n.log2) : inBinaryUnits n 1 (n.log2 - 52) = (n, grain n) := by
  have places : ((n.log2 : Int) - 52).toNat = n.log2 - 52 := by omega
  rw [inBinaryUnits, if_pos (by omega), places, Nat.one_mul]
  rfl

/-- The last bit of the double nearest to a number has 52 bits before it. -/
theorem lastBitExponent_one {n : Nat} (positive : n ≠ 0) : lastBitExponent n 1 = n.log2 - 52 := by
  have low := Nat.log2_self_le positive
  have one : Nat.log2 1 = 0 := rfl
  have guess : Int.ofNat n.log2 - Int.ofNat (Nat.log2 1) - 52 = n.log2 - 52 := by
    rw [one]
    exact congrArg (· - 52) (Int.sub_zero _)
  have bits : ¬ (inBinaryUnits n 1 (n.log2 - 52)).1 < (inBinaryUnits n 1 (n.log2 - 52)).2 * leastNormal := by
    rw [Nat.not_lt]
    rcases Nat.lt_or_ge n.log2 52 with few | many
    · rw [inBinaryUnits_few few, Nat.one_mul]
      exact pow_le_mul low (by omega)
    · rw [inBinaryUnits_many many, Nat.mul_comm]
      change 2 ^ 52 * 2 ^ (n.log2 - 52) ≤ n
      rwa [← Nat.pow_add, Nat.add_sub_cancel' many]
  simp only [lastBitExponent, guess, if_neg bits]
  exact max_eq_left (by rw [leastExponent]; omega)

/-- The double nearest to a number has the size of the multiple of the number's grain that is nearest to it. -/
theorem isOfSize_nearestFloat (negative : Bool) {n : Nat} (positive : n ≠ 0) :
    IsOfSize (nearestFloat negative n 1) (signOf negative) (nearestNat n * 2 ^ 1074) := by
  have some : (n == 0) = false := beq_false_of_ne positive
  have low := Nat.log2_self_le positive
  have double : nearestFloat negative n 1 =
      assemble negative (roundDiv (inBinaryUnits n 1 (n.log2 - 52)).1 (inBinaryUnits n 1 (n.log2 - 52)).2)
        (n.log2 - 52) := by
    rw [nearestFloat, some, if_neg Bool.false_ne_true, lastBitExponent_one positive]
  rw [double]
  rcases Nat.lt_or_ge n.log2 52 with few | many
  · have total : 52 - n.log2 + ((n.log2 : Int) - 52 + 1074).toNat = 1074 := by omega
    have size : nearestNat n * 2 ^ 1074 = n * 2 ^ (52 - n.log2) * 2 ^ ((n.log2 : Int) - 52 + 1074).toNat := by
      rw [nearestNat_of_lt ((Nat.log2_lt positive).mp (by omega)), Nat.mul_assoc, ← pow_add, total]
    rw [inBinaryUnits_few few, roundDiv_one, size]
    exact isOfSize_assemble negative (pow_le_mul low (by omega)) (mul_lt_pow Nat.lt_log2_self (by omega)).le (by omega)
  · have total : ((n.log2 : Int) - 52 + 1074).toNat = n.log2 - 52 + 1074 := by omega
    have size : nearestNat n * 2 ^ 1074 = roundDiv n (grain n) * 2 ^ ((n.log2 : Int) - 52 + 1074).toNat := by
      rw [total, pow_add _ (n.log2 - 52), ← Nat.mul_assoc, nearestNat, grain]
    obtain ⟨lead, most⟩ := roundDiv_grain_bounds ((Nat.le_log2 positive).mp many)
    rw [inBinaryUnits_many many, size]
    exact isOfSize_assemble negative lead most (by omega)

/-- Some finite double is nearest to the integer. -/
def InRange (i : Int) : Prop :=
  i.natAbs < 2 ^ 1024 - 2 ^ 970

instance (i : Int) : Decidable (InRange i) :=
  inferInstanceAs (Decidable (i.natAbs < 2 ^ 1024 - 2 ^ 970))

theorem inRange_of_lt {i : Int} (few : i.natAbs < 2 ^ 53) : InRange i :=
  few.trans_le (by decide +kernel)

theorem mul_pow_lt_iff (n j k : Nat) : n * 2 ^ k < 2 ^ (j + k) ↔ n < 2 ^ j := by
  rw [Nat.pow_add]
  exact Nat.mul_lt_mul_right (Nat.two_pow_pos k)

theorem apply_signOf {i : Int} (some : i ≠ 0) (a b : Nat) :
    (signOf (decide (i < 0))).apply (a * b : Nat) = i.sign * a * b := by
  rcases lt_or_gt_of_ne some with negative | positive
  · rw [decide_eq_true negative, Int.sign_eq_neg_one_of_neg negative, Nat.cast_mul]
    change -((a : Int) * b) = _
    rw [neg_one_mul, neg_mul]
  · rw [decide_eq_false (not_lt.mpr positive.le), Int.sign_eq_one_of_pos positive, Nat.cast_mul]
    change (a : Int) * b = _
    rw [one_mul]

/-- The double nearest to an integer is finite unless the integer is too large, and has the value nearest to it. -/
theorem floatOfInt_spec (i : Int) :
    ((floatOfInt i).isFinite = true ↔ InRange i) ∧
      ((floatOfInt i).isFinite = true → units (floatOfInt i).toModel.unpack = nearestInt i * (2 ^ 1074 : Nat)) := by
  by_cases zero : i = 0
  · rw [zero, nearestInt_of_lt (by decide), zero_mul]
    exact ⟨⟨fun _ => by decide +kernel, fun _ => rfl⟩, fun _ => rfl⟩
  · obtain ⟨finite, counted⟩ := isOfSize_nearestFloat (decide (i < 0)) (Int.natAbs_ne_zero.mpr zero)
    rw [mul_pow_lt_iff, nearestNat_lt_iff] at finite
    rw [apply_signOf zero] at counted
    exact ⟨finite, counted⟩

/-- Doubles of integers are ordered like the values nearest to the integers. -/
theorem floatOfInt_lt_iff {i j : Int} (within : InRange i) (within' : InRange j) :
    floatOfInt i < floatOfInt j ↔ nearestInt i < nearestInt j := by
  have finite := (floatOfInt_spec i).1.mpr within
  have finite' := (floatOfInt_spec j).1.mpr within'
  rw [lt_iff_units finite finite', (floatOfInt_spec i).2 finite, (floatOfInt_spec j).2 finite']
  exact Int.mul_lt_mul_right (Int.natCast_pos.mpr (pow_pos two_pos 1074))

/-! ## Quotients in units of a power of two -/

open Float.Model (Format UnpackedFloat)
open Float.Model.UnpackedFloat

variable {num den : Nat} {e : Int}

/-- Only one of the factors differs from one. -/
theorem inBinaryUnits_eq (num den : Nat) (e : Int) :
    inBinaryUnits num den e = (num * 2 ^ (-e).toNat, den * 2 ^ e.toNat) := by
  unfold inBinaryUnits
  split
  · rw [Int.toNat_eq_zero.mpr (by omega : -e ≤ 0), pow_zero, mul_one]
    rfl
  · rw [Int.toNat_eq_zero.mpr (by omega : e ≤ 0), pow_zero, mul_one]
    rfl

theorem inBinaryUnits_natCast (num den k : Nat) : inBinaryUnits num den k = (num, den * 2 ^ k) :=
  if_pos (Int.natCast_nonneg k)

/-- A quotient in units is compared with a number by shifting both sides up, so far that no exponent is negative. -/
theorem inBinaryUnits_lt_iff (num den c : Nat) {k : Nat} (shift : 0 ≤ e + k) :
    (inBinaryUnits num den e).1 < (inBinaryUnits num den e).2 * c ↔ num * 2 ^ k < den * 2 ^ (e + k).toNat * c := by
  obtain ⟨rest, rfl⟩ : ∃ rest, k = (-e).toNat + rest := ⟨k - (-e).toNat, by omega⟩
  have right : (e + ((-e).toNat + rest : Nat)).toNat = e.toNat + rest := by omega
  rw [inBinaryUnits_eq, right, pow_add, pow_add, ← mul_assoc, ← mul_assoc, mul_right_comm (den * _)]
  exact (Nat.mul_lt_mul_right (Nat.two_pow_pos rest)).symm

/-- A quotient takes more units of a lower power of two. -/
theorem inBinaryUnits_lt_mono {c : Nat} {e' : Int} (le : e ≤ e')
    (few : (inBinaryUnits num den e).1 < (inBinaryUnits num den e).2 * c) :
    (inBinaryUnits num den e').1 < (inBinaryUnits num den e').2 * c := by
  have up : 0 ≤ e + e.natAbs := by omega
  have up' : 0 ≤ e' + e.natAbs := by omega
  rw [inBinaryUnits_lt_iff num den c up] at few
  rw [inBinaryUnits_lt_iff num den c up']
  have powers : 2 ^ (e + e.natAbs).toNat ≤ 2 ^ (e' + e.natAbs).toNat := Nat.pow_le_pow_right (by decide) (by omega)
  exact few.trans_le (Nat.mul_le_mul_right c (Nat.mul_le_mul_left den powers))

/-- Half as many units of the next power of two. -/
theorem inBinaryUnits_lt_succ_iff (num den j : Nat) (e : Int) :
    (inBinaryUnits num den e).1 < (inBinaryUnits num den e).2 * 2 ^ (j + 1) ↔
      (inBinaryUnits num den (e + 1)).1 < (inBinaryUnits num den (e + 1)).2 * 2 ^ j := by
  have up : 0 ≤ e + e.natAbs := by omega
  have next : (e + 1 + e.natAbs).toNat = (e + e.natAbs).toNat + 1 := by omega
  rw [inBinaryUnits_lt_iff num den _ up, inBinaryUnits_lt_iff num den (2 ^ j) (by omega : 0 ≤ e + 1 + e.natAbs), next,
    pow_succ, pow_succ, mul_assoc, mul_assoc, mul_assoc, mul_comm (2 ^ j) 2]

/-- The numbers of bits leave two places for the leading bit of a quotient. -/
theorem inBinaryUnits_guess (some : num ≠ 0) (some' : den ≠ 0) :
    let guess := Int.ofNat num.log2 - Int.ofNat den.log2 - 52
    (inBinaryUnits num den guess).1 < (inBinaryUnits num den guess).2 * 2 ^ 53 ∧
      (inBinaryUnits num den (guess - 1)).2 * 2 ^ 52 ≤ (inBinaryUnits num den (guess - 1)).1 := by
  intro guess
  have low := Nat.log2_self_le some
  have low' := Nat.log2_self_le some'
  have high : num < 2 ^ (num.log2 + 1) := Nat.lt_log2_self
  have high' : den < 2 ^ (den.log2 + 1) := Nat.lt_log2_self
  have is : guess = (num.log2 : Int) - den.log2 - 52 := rfl
  have up : 0 ≤ guess + (den.log2 + 52 : Nat) := by omega
  have up' : 0 ≤ guess - 1 + (den.log2 + 53 : Nat) := by omega
  have shifted : (guess + (den.log2 + 52 : Nat)).toNat = num.log2 := by omega
  have shifted' : (guess - 1 + (den.log2 + 53 : Nat)).toNat = num.log2 := by omega
  rw [inBinaryUnits_lt_iff num den _ up, shifted, ← Nat.not_lt, inBinaryUnits_lt_iff num den _ up', shifted', Nat.not_lt]
  constructor
  · calc num * 2 ^ (den.log2 + 52) < 2 ^ (num.log2 + 1) * 2 ^ (den.log2 + 52) :=
          Nat.mul_lt_mul_of_pos_right high (Nat.two_pow_pos _)
      _ = 2 ^ den.log2 * 2 ^ num.log2 * 2 ^ 53 := by ring
      _ ≤ den * 2 ^ num.log2 * 2 ^ 53 := Nat.mul_le_mul_right _ (Nat.mul_le_mul_right _ low')
  · calc den * 2 ^ num.log2 * 2 ^ 52 ≤ 2 ^ (den.log2 + 1) * 2 ^ num.log2 * 2 ^ 52 :=
          Nat.mul_le_mul_right _ (Nat.mul_le_mul_right _ high'.le)
      _ = 2 ^ num.log2 * 2 ^ (den.log2 + 53) := by ring
      _ ≤ num * 2 ^ (den.log2 + 53) := Nat.mul_le_mul_right _ low

/-- The last bit of the double nearest to a quotient is placed so that the mantissa has at most 53 bits, and so many
unless there is no lower place. -/
theorem lastBitExponent_spec (some : num ≠ 0) (some' : den ≠ 0) :
    let parts := inBinaryUnits num den (lastBitExponent num den)
    leastExponent ≤ lastBitExponent num den ∧ parts.1 < parts.2 * 2 ^ 53 ∧
      (leastExponent < lastBitExponent num den → parts.2 * 2 ^ 52 ≤ parts.1) := by
  obtain ⟨below, above⟩ := inBinaryUnits_guess some some'
  set guess := Int.ofNat num.log2 - Int.ofNat den.log2 - 52
  let lead := if (inBinaryUnits num den guess).1 < (inBinaryUnits num den guess).2 * 2 ^ 52 then guess - 1 else guess
  have last : lastBitExponent num den = max lead leastExponent := rfl
  have places : (inBinaryUnits num den lead).1 < (inBinaryUnits num den lead).2 * 2 ^ 53 ∧
      (inBinaryUnits num den lead).2 * 2 ^ 52 ≤ (inBinaryUnits num den lead).1 := by
    by_cases small : (inBinaryUnits num den guess).1 < (inBinaryUnits num den guess).2 * 2 ^ 52
    · have lower : lead = guess - 1 := if_pos small
      rw [lower, inBinaryUnits_lt_succ_iff num den 52, Int.sub_add_cancel]
      exact ⟨small, above⟩
    · have same : lead = guess := if_neg small
      rw [same]
      exact ⟨below, Nat.not_lt.mp small⟩
  dsimp only
  rw [last]
  refine ⟨le_max_right _ _, inBinaryUnits_lt_mono (le_max_left _ _) places.1, fun higher => ?_⟩
  rw [max_eq_left (lt_max_iff.mp higher |>.resolve_right (lt_irrefl _)).le]
  exact places.2

/-- The double nearest to a quotient has the quotient in units of its last bit, rounded, for a mantissa. -/
theorem nearestFloat_eq (negative : Bool) (some : num ≠ 0) (den : Nat) :
    nearestFloat negative num den =
      assemble negative (roundDiv (inBinaryUnits num den (lastBitExponent num den)).1
        (inBinaryUnits num den (lastBitExponent num den)).2) (lastBitExponent num den) := by
  have apart : ¬ (num == 0) = true := by simpa using some
  unfold nearestFloat
  generalize lastBitExponent num den = e
  -- The match has to stay until the pair is taken apart: its parts by themselves would be computed.
  dsimp -iota only
  obtain ⟨n, d⟩ := inBinaryUnits num den e
  exact if_neg apart

/-! ## Quotients that are too large -/

/-- A quotient half way above an odd number is rounded up. -/
theorem roundDiv_le_iff_of_odd {j : Nat} (odd : j % 2 = 1) (some : 0 < den) :
    roundDiv num den ≤ j ↔ 2 * num < (2 * j + 1) * den := by
  have parts := Nat.div_add_mod num den
  have small := Nat.mod_lt num some
  rw [Nat.add_mul, Nat.one_mul, Nat.mul_assoc]
  rcases Nat.lt_trichotomy (num / den) j with below | same | above
  · have room : den * (num / den) + den ≤ j * den := by
      rw [← Nat.mul_succ, Nat.mul_comm]
      exact Nat.mul_le_mul_right den below
    rcases roundDiv_eq_or num den with down | up <;> omega
  · rw [same, Nat.mul_comm] at parts
    rw [roundDiv, same]
    simp only [odd]
    repeat' split
    all_goals first | omega | simp_all
  · have beyond : j * den + den ≤ den * (num / den) := by
      rw [← Nat.succ_mul, Nat.mul_comm den]
      exact Nat.mul_le_mul_right den above
    rcases roundDiv_eq_or num den with down | up <;> omega

/-- A mantissa without the leading bit stands for a finite double. -/
theorem isFinite_assemble_of_lt (negative : Bool) {m : Nat} (small : m < 2 ^ 52) (e : Int) :
    (assemble negative m e).isFinite = true := by
  have uncarried : (m == 2 * leastNormal) = false := beq_false_of_ne (Nat.ne_of_lt (small.trans (by decide)))
  have below : m < leastNormal := small
  have bits : assemble negative m e =
      Float.ofBits (UInt64.ofNat (0 * 2 ^ 52 + m + if negative then 2 ^ 63 else 0)) := by
    simp only [assemble, uncarried, Bool.false_eq_true, if_false, below, if_true, Nat.zero_mul, Nat.zero_add]
    rfl
  rw [bits, isFinite_eq, unpack_word negative (by decide) small (.inl (by decide))]
  simp only [UnpackedFloat.unpack, unpackMantissa_packComponents, unpackExponent_packComponents,
    unpackSign_packComponents]
  rw [if_neg (by decide), if_pos (by decide)]
  split <;> rfl

/-- Quotients whose doubles have a last bit below the highest place are not too large. -/
theorem lt_limit_of_le (low : e ≤ (970 : Nat))
    (few : (inBinaryUnits num den e).1 < (inBinaryUnits num den e).2 * 2 ^ 53) :
    num < (2 ^ 1024 - 2 ^ 970) * den := by
  have below := inBinaryUnits_lt_mono low few
  rw [inBinaryUnits_natCast] at below
  calc num < den * 2 ^ 970 * 2 ^ 53 := below
    _ = 2 ^ 1023 * den := by rw [mul_assoc, ← pow_add, mul_comm]
    _ ≤ (2 ^ 1024 - 2 ^ 970) * den := Nat.mul_le_mul_right den (by decide +kernel)

/-- Quotients whose doubles would have a last bit above the highest place are too large. -/
theorem limit_le_of_lt (high : (972 : Nat) ≤ e)
    (many : (inBinaryUnits num den e).2 * 2 ^ 52 ≤ (inBinaryUnits num den e).1) :
    (2 ^ 1024 - 2 ^ 970) * den ≤ num := by
  have above := Nat.not_lt.mp (mt (inBinaryUnits_lt_mono high) (Nat.not_lt.mpr many))
  rw [inBinaryUnits_natCast] at above
  calc (2 ^ 1024 - 2 ^ 970) * den ≤ 2 ^ 1024 * den := Nat.mul_le_mul_right den (Nat.sub_le _ _)
    _ = den * 2 ^ 972 * 2 ^ 52 := by rw [mul_assoc, ← pow_add, mul_comm]
    _ ≤ num := above

/-- At the highest place, the mantissa must not be rounded up beyond its last number. -/
theorem roundDiv_lt_iff_limit (positive : 0 < den) :
    roundDiv num (den * 2 ^ 971) < 2 ^ 53 ↔ num < (2 ^ 1024 - 2 ^ 970) * den := by
  have powers : (2 ^ 54 - 1) * 2 ^ 971 = 2 * (2 ^ 1024 - 2 ^ 970) := by
    rw [Nat.sub_mul, Nat.mul_sub, Nat.one_mul, ← pow_add, ← pow_succ', ← pow_succ']
  have last : 2 * (2 ^ 53 - 1) + 1 = 2 ^ 54 - 1 := by decide
  have limit : (2 * (2 ^ 53 - 1) + 1) * (den * 2 ^ 971) = 2 * ((2 ^ 1024 - 2 ^ 970) * den) :=
    calc (2 * (2 ^ 53 - 1) + 1) * (den * 2 ^ 971) = (2 ^ 54 - 1) * 2 ^ 971 * den := by
          rw [last, mul_comm den, ← mul_assoc]
      _ = 2 * ((2 ^ 1024 - 2 ^ 970) * den) := by rw [powers, mul_assoc]
  calc roundDiv num (den * 2 ^ 971) < 2 ^ 53 ↔ roundDiv num (den * 2 ^ 971) ≤ 2 ^ 53 - 1 :=
        (Nat.le_sub_one_iff_lt (Nat.two_pow_pos 53)).symm
    _ ↔ 2 * num < (2 * (2 ^ 53 - 1) + 1) * (den * 2 ^ 971) :=
        roundDiv_le_iff_of_odd (by decide) (Nat.mul_pos positive (pow_pos two_pos 971))
    _ ↔ 2 * num < 2 * ((2 ^ 1024 - 2 ^ 970) * den) := Iff.of_eq (congrArg (2 * num < ·) limit)
    _ ↔ num < (2 ^ 1024 - 2 ^ 970) * den := Nat.mul_lt_mul_left two_pos

/-- The double nearest to a quotient is finite unless the quotient reaches the point half way between the largest double
and the next power of two. -/
theorem isFinite_nearestFloat_iff (negative : Bool) (num : Nat) (some' : den ≠ 0) :
    (nearestFloat negative num den).isFinite = true ↔ num < (2 ^ 1024 - 2 ^ 970) * den := by
  have positive : 0 < den := Nat.pos_of_ne_zero some'
  rcases Nat.eq_zero_or_pos num with rfl | some
  · have zero : nearestFloat negative 0 den = assemble negative 0 leastExponent := rfl
    rw [zero, isFinite_assemble_of_lt negative (Nat.two_pow_pos 52)]
    simp only [true_iff]
    exact Nat.mul_pos (by decide +kernel) positive
  obtain ⟨least, few, many⟩ := lastBitExponent_spec (Nat.ne_of_gt some) some'
  rw [nearestFloat_eq negative (Nat.ne_of_gt some)]
  generalize lastBitExponent num den = e at *
  have unit : 0 < (inBinaryUnits num den e).2 := by
    rw [inBinaryUnits_eq]
    exact Nat.mul_pos positive (Nat.two_pow_pos _)
  have rounded := roundDiv_eq_or (inBinaryUnits num den e).1 (inBinaryUnits num den e).2
  have whole : (inBinaryUnits num den e).1 / (inBinaryUnits num den e).2 < 2 ^ 53 := Nat.div_lt_of_lt_mul few
  rcases Nat.lt_or_ge (roundDiv (inBinaryUnits num den e).1 (inBinaryUnits num den e).2) (2 ^ 52) with small | lead
  · -- The last bit is in the lowest place.
    have low : ¬ leastExponent < e := by
      intro higher
      have leads : 2 ^ 52 ≤ (inBinaryUnits num den e).1 / (inBinaryUnits num den e).2 := by
        rw [Nat.le_div_iff_mul_le unit, Nat.mul_comm]
        exact many higher
      omega
    have lowest : e ≤ 970 := (not_lt.mp low).trans (by decide)
    simp only [isFinite_assemble_of_lt negative small, true_iff]
    exact lt_limit_of_le lowest few
  · have most : roundDiv (inBinaryUnits num den e).1 (inBinaryUnits num den e).2 ≤ 2 ^ 53 := by omega
    rw [(isOfSize_assemble negative lead most least).finite]
    rcases lt_trichotomy e 971 with below | rfl | above
    · have carried : roundDiv (inBinaryUnits num den e).1 (inBinaryUnits num den e).2 < 2 ^ 54 := by omega
      simp only [mul_lt_pow carried (by omega : 54 + (e + 1074).toNat ≤ 1024 + 1074), true_iff]
      exact lt_limit_of_le (by omega) few
    · have place : ((971 : Int) + 1074).toNat = 2045 := rfl
      have units : inBinaryUnits num den 971 = (num, den * 2 ^ 971) := inBinaryUnits_natCast num den 971
      have powers : 2 ^ (1024 + 1074) = 2 ^ (53 + 2045) := congrArg (2 ^ ·) (by decide)
      rw [place, units, powers, mul_pow_lt_iff, roundDiv_lt_iff_limit positive]
    · have beyond := pow_le_mul lead (by omega : 1024 + 1074 ≤ 52 + (e + 1074).toNat)
      have higher : leastExponent < e := lt_trans (by decide) above
      constructor
      · exact fun within => absurd within (Nat.not_lt.mpr beyond)
      · exact fun within => absurd within (Nat.not_lt.mpr (limit_le_of_lt (by omega) (many higher)))

/-! ## Zeros -/

/-- What is equal to zero is a zero of either sign. -/
theorem unpack_eq_zero {x : Float} (equal : (x == 0.0) = true) : ∃ sign, x.toModel.unpack = .zero sign := by
  have compared : (UnpackedFloat.compare x.toModel.unpack (.zero .positive) == some .eq) = true := equal
  cases parts : x.toModel.unpack with
  | zero sign => exact ⟨sign, rfl⟩
  | notANumber =>
      rw [parts] at compared
      cases compared
  | infinity sign =>
      rw [parts] at compared
      cases sign <;> cases compared
  | finite sign m e positive =>
      rw [parts] at compared
      cases sign <;> cases compared

theorem eq_zero_of_beq {x : Float} (equal : (x == 0.0) = true) : x = 0.0 ∨ x = -0.0 := by
  obtain ⟨sign, parts⟩ := unpack_eq_zero equal
  have packed := @pack_unpack Format.binary64 x.toModel.toBits.toBitVec (by decide)
  change UnpackedFloat.pack _ x.toModel.unpack = _ at packed
  rw [parts] at packed
  have number : @isNaNBits Format.binary64 x.toModel.toBits.toBitVec = false := by
    by_contra missing
    rw [if_pos (by simpa using missing)] at packed
    cases sign <;> revert packed <;> decide
  rw [number, if_neg Bool.false_ne_true] at packed
  have bits : x = Float.ofModel (Float.Model.pack (.zero sign)) := by
    obtain ⟨⟨bits, valid⟩⟩ := x
    congr
    exact congrArg UInt64.ofBitVec packed.symm
  cases sign with
  | negative => exact .inr bits
  | positive => exact .inl bits

theorem one_le_nearestInt {i : Int} (positive : 0 < i) : 1 ≤ nearestInt i :=
  calc (1 : Int) = nearestInt 1 := (nearestInt_of_lt (by decide)).symm
    _ ≤ nearestInt i := nearestInt_mono positive

/-- No integer but zero has a zero for the double nearest to it. -/
theorem floatOfInt_ne_zero {i : Int} (some : i ≠ 0) (within : InRange i) : (floatOfInt i == 0.0) = false := by
  by_contra equal
  obtain ⟨sign, parts⟩ := unpack_eq_zero (Bool.eq_true_of_not_eq_false equal)
  have counted := (floatOfInt_spec i).2 ((floatOfInt_spec i).1.mpr within)
  rw [parts] at counted
  have none : nearestInt i = 0 := by
    have positive : ((2 ^ 1074 : Nat) : Int) ≠ 0 := Int.natCast_ne_zero.mpr (pow_pos two_pos 1074).ne'
    exact (mul_eq_zero.mp counted.symm).resolve_right positive
  rcases lt_or_gt_of_ne some with negative | positive
  · have mirrored : nearestInt (-i) = -nearestInt i := by
      rw [nearestInt, nearestInt, Int.sign_neg, Int.natAbs_neg, neg_mul]
    have large := one_le_nearestInt (neg_pos.mpr negative)
    omega
  · have large := one_le_nearestInt positive
    omega

end WorkflowEngine.Decimal
