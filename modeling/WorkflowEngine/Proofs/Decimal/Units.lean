import Mathlib
import WorkflowEngine.Proofs.Decimal.Bound

/-!
# Doubles as whole numbers of units

The least positive double is the unit of which every finite double is a whole multiple.  Finite doubles are ordered like
their units are, and a double put together from its parts has the units of its parts.
-/

namespace WorkflowEngine.Decimal

open Float.Model (Format UnpackedFloat)
open Float.Model.UnpackedFloat

/-- How many times the least positive double goes into a finite one. -/
def units : UnpackedFloat → Int
  | .finite sign mantissa exponent _ => sign.apply (mantissa * 2 ^ (exponent + 1074).toNat : Nat)
  | _ => 0

/-! ## The order of doubles -/

variable {m m' : Nat} {e e' : Int}

theorem mul_pow_pos (positive : 0 < m) (e : Int) : 0 < m * 2 ^ (e + 1074).toNat :=
  Nat.mul_pos positive (Nat.two_pow_pos _)

theorem mul_lt_pow {j k n : Nat} (few : m < 2 ^ j) (below : j + k ≤ n) : m * 2 ^ k < 2 ^ n :=
  calc m * 2 ^ k < 2 ^ j * 2 ^ k := Nat.mul_lt_mul_of_pos_right few (Nat.two_pow_pos k)
    _ = 2 ^ (j + k) := (Nat.pow_add 2 j k).symm
    _ ≤ 2 ^ n := Nat.pow_le_pow_right (by decide) below

theorem pow_le_mul {j k n : Nat} (lead : 2 ^ j ≤ m) (above : n ≤ j + k) : 2 ^ n ≤ m * 2 ^ k :=
  calc 2 ^ n ≤ 2 ^ (j + k) := Nat.pow_le_pow_right (by decide) above
    _ = 2 ^ j * 2 ^ k := Nat.pow_add 2 j k
    _ ≤ m * 2 ^ k := Nat.mul_le_mul_right _ lead

/-- A double with a larger exponent is larger. -/
theorem mul_pow_lt (shape : IsShape m e) (shape' : IsShape m' e') (below : e < e') :
    m * 2 ^ (e + 1074).toNat < m' * 2 ^ (e' + 1074).toNat := by
  have least := shape.least
  have lead : 2 ^ 52 ≤ m' := shape'.normal.resolve_right (by omega)
  exact (mul_lt_pow shape.few (Nat.le_refl _)).trans_le (pow_le_mul lead (by omega))

/-- Positive doubles are ordered by their exponents, and by their mantissas where these agree. -/
theorem compare_parts (shape : IsShape m e) (shape' : IsShape m' e') :
    (compare e e').then (compare m m') =
      compare (m * 2 ^ (e + 1074).toNat) (m' * 2 ^ (e' + 1074).toNat) := by
  rcases lt_trichotomy e e' with below | rfl | above
  · rw [compare_lt_iff_lt.mpr below, compare_lt_iff_lt.mpr (mul_pow_lt shape shape' below)]
    rfl
  · have positive : 0 < 2 ^ (e + 1074).toNat := Nat.two_pow_pos _
    rw [compare_eq_iff_eq.mpr rfl]
    rcases lt_trichotomy m m' with below | rfl | above
    · rw [compare_lt_iff_lt.mpr below, compare_lt_iff_lt.mpr (Nat.mul_lt_mul_of_pos_right below positive)]
      rfl
    · rw [compare_eq_iff_eq.mpr rfl, compare_eq_iff_eq.mpr rfl]
      rfl
    · rw [compare_gt_iff_gt.mpr above, compare_gt_iff_gt.mpr (Nat.mul_lt_mul_of_pos_right above positive)]
      rfl
  · rw [compare_gt_iff_gt.mpr above, compare_gt_iff_gt.mpr (mul_pow_lt shape' shape above)]
    rfl

/-- A finite double is a zero or has a mantissa. -/
theorem parts_of_isFinite {a : UnpackedFloat} (finite : a.isFinite = true) :
    (∃ sign, a = .zero sign) ∨ ∃ sign m e positive, a = .finite sign m e positive := by
  cases a with
  | infinity sign => cases finite
  | notANumber => cases finite
  | zero sign => exact .inl ⟨sign, rfl⟩
  | finite sign m e positive => exact .inr ⟨sign, m, e, positive, rfl⟩

/-- Finite doubles are ordered like their units. -/
theorem lt_iff_units {x y : Float} (finite : x.isFinite = true) (finite' : y.isFinite = true) :
    x < y ↔ units x.toModel.unpack < units y.toModel.unpack := by
  rw [lt_iff, UnpackedFloat.lt, beq_iff_eq]
  rcases parts_of_isFinite finite with ⟨sign, zero⟩ | ⟨sign, m, e, positive, parts⟩
  · rcases parts_of_isFinite finite' with ⟨sign', zero'⟩ | ⟨sign', m', e', positive', parts'⟩
    · rw [zero, zero']
      simp [UnpackedFloat.compare, units]
    · rw [zero, parts']
      cases sign' with
      | negative => simp [UnpackedFloat.compare, units, Sign.apply]
      | positive => simp [UnpackedFloat.compare, units, Sign.apply, positive']
  · have size := mul_pow_pos positive e
    rcases parts_of_isFinite finite' with ⟨sign', zero'⟩ | ⟨sign', m', e', positive', parts'⟩
    · rw [parts, zero']
      cases sign with
      | negative => simp [UnpackedFloat.compare, units, Sign.apply, positive]
      | positive => simp [UnpackedFloat.compare, units, Sign.apply]
    · have size' := mul_pow_pos positive' e'
      have order := compare_parts (isShape_of_unpack parts) (isShape_of_unpack parts')
      rw [parts, parts', units, units]
      cases sign with
      | negative => cases sign' with
        | negative =>
            rw [UnpackedFloat.compare, order, Option.some_inj, Ordering.swap_eq_lt, compare_gt_iff_gt, Sign.apply,
              Sign.apply]
            omega
        | positive =>
            rw [UnpackedFloat.compare, Sign.apply, Sign.apply]
            simp only [true_iff]
            omega
      | positive => cases sign' with
        | negative =>
            rw [UnpackedFloat.compare, Sign.apply, Sign.apply]
            simp only [Option.some_inj, reduceCtorEq, false_iff]
            omega
        | positive =>
            rw [UnpackedFloat.compare, order, Option.some_inj, compare_lt_iff_lt, Sign.apply, Sign.apply]
            omega

/-! ## Doubles put together from their parts -/

/-- The sign of a number that is negative or not. -/
def signOf (negative : Bool) : Sign :=
  if negative then .negative else .positive

theorem toNat_append {w v : Nat} (a : BitVec w) (b : BitVec v) : (a ++ b).toNat = a.toNat * 2 ^ v + b.toNat := by
  rw [BitVec.toNat_append, ← Nat.shiftLeft_add_eq_or_of_lt b.isLt, Nat.shiftLeft_eq]

/-- The bits of a sign, an exponent and a mantissa stand side by side. -/
theorem toBitVec_word (negative : Bool) {field fraction : Nat} (narrow : field < 2 ^ 11) (short : fraction < 2 ^ 52) :
    (UInt64.ofNat (field * 2 ^ 52 + fraction + if negative then 2 ^ 63 else 0)).toBitVec =
      packComponents Format.binary64 (signOf negative) (BitVec.ofNat 11 field) (BitVec.ofNat 52 fraction) := by
  apply BitVec.eq_of_toNat_eq
  have right : (packComponents Format.binary64 (signOf negative) (BitVec.ofNat 11 field)
      (BitVec.ofNat 52 fraction)).toNat = ((signOf negative).toBitVec.toNat * 2 ^ 11 + field) * 2 ^ 52 + fraction := by
    rw [packComponents, toNat_append, toNat_append, BitVec.toNat_ofNat, BitVec.toNat_ofNat, Nat.mod_eq_of_lt narrow,
      Nat.mod_eq_of_lt short]
  rw [right, UInt64.toNat_toBitVec, UInt64.toNat_ofNat']
  cases negative with
  | false =>
      have sign : (signOf false).toBitVec.toNat = 0 := rfl
      rw [sign, if_neg Bool.false_ne_true]
      omega
  | true =>
      have sign : (signOf true).toBitVec.toNat = 1 := rfl
      rw [sign, if_pos rfl]
      omega

/-- Bits that are not those of a missing number are unpacked as they stand. -/
theorem unpack_ofBits {bits : UInt64} (number : @isNaNBits Format.binary64 bits.toBitVec = false) :
    (Float.ofBits bits).toModel.unpack = UnpackedFloat.unpack Format.binary64 bits.toBitVec := by
  change UnpackedFloat.unpack _ (UnpackedFloat.pack _ (UnpackedFloat.unpack _ _)) = _
  rw [pack_unpack, number]
  rfl

variable {exponent : BitVec 11} {mantissa : BitVec 52}

theorem leading_pos (mantissa : BitVec 52) : 0 < (1#1 ++ mantissa).toNat := by
  rw [BitVec.toNat_append]
  exact Nat.lt_of_lt_of_le (by decide : 0 < 1 <<< 52) Nat.left_le_or

/-- The parts of a double whose leading bit is set. -/
theorem unpack_normal (sign : Sign) (some : exponent ≠ 0#11) (number : exponent ≠ -1#11) :
    UnpackedFloat.unpack Format.binary64 (packComponents Format.binary64 sign exponent mantissa) =
      .finite sign (1#1 ++ mantissa).toNat (exponent.toNat - (1023 + 52)) (leading_pos mantissa) := by
  simp only [UnpackedFloat.unpack, unpackMantissa_packComponents, unpackExponent_packComponents,
    unpackSign_packComponents]
  rw [if_neg number, if_neg some]
  simp only [Sign.ofBitVec_toBitVec]
  rfl

/-- An infinite double has the largest exponent. -/
theorem unpack_infinite (sign : Sign) :
    UnpackedFloat.unpack Format.binary64 (packComponents Format.binary64 sign (-1#11) 0#52) = .infinity sign := by
  cases sign <;> rfl

theorem isNaNBits_packComponents (sign : Sign) (number : exponent ≠ -1#11 ∨ mantissa = 0#52) :
    isNaNBits (packComponents Format.binary64 sign exponent mantissa) = false := by
  rw [isNaNBits, unpackMantissa_packComponents, unpackExponent_packComponents, decide_eq_false_iff_not]
  rintro ⟨full, some⟩
  exact number.elim (fun other => other full) some

/-- The parts of a double are those that its bits were made of. -/
theorem unpack_word (negative : Bool) {field fraction : Nat} (narrow : field < 2 ^ 11) (short : fraction < 2 ^ 52)
    (number : BitVec.ofNat 11 field ≠ -1#11 ∨ BitVec.ofNat 52 fraction = 0#52) :
    (Float.ofBits (UInt64.ofNat (field * 2 ^ 52 + fraction + if negative then 2 ^ 63 else 0))).toModel.unpack =
      UnpackedFloat.unpack Format.binary64
        (packComponents Format.binary64 (signOf negative) (BitVec.ofNat 11 field) (BitVec.ofNat 52 fraction)) := by
  have word := toBitVec_word negative narrow short
  rw [unpack_ofBits (by rw [word]; exact isNaNBits_packComponents _ number), word]

/-- The bits of a double whose mantissa has its leading bit. -/
theorem assemble_eq (negative : Bool) (lead : 2 ^ 52 ≤ m) (few : m < 2 ^ 53) (e : Int) :
    assemble negative m e =
      Float.ofBits (UInt64.ofNat
        ((if 2047 ≤ (e + 1075).toNat then 2047 * 2 ^ 52 + 0 else (e + 1075).toNat * 2 ^ 52 + (m - 2 ^ 52)) +
          if negative then 2 ^ 63 else 0)) := by
  have uncarried : (m == 2 * leastNormal) = false := beq_false_of_ne (Nat.ne_of_lt few)
  have normal : ¬ m < leastNormal := Nat.not_lt.mpr lead
  simp only [assemble, uncarried, Bool.false_eq_true, if_false, normal]
  rfl

/-- A mantissa that has become too large for its bits is carried over to the exponent. -/
theorem assemble_carry (negative : Bool) (e : Int) :
    assemble negative (2 ^ 53) e = assemble negative (2 ^ 52) (e + 1) := by
  rfl

theorem unpack_assemble (negative : Bool) (lead : 2 ^ 52 ≤ m) (few : m < 2 ^ 53) (least : -1074 ≤ e) (low : e ≤ 971) :
    ∃ positive, (assemble negative m e).toModel.unpack = .finite (signOf negative) m e positive := by
  have within : ¬ 2047 ≤ (e + 1075).toNat := by omega
  have short : m - 2 ^ 52 < 2 ^ 52 := by omega
  have narrow : (e + 1075).toNat < 2 ^ 11 := by omega
  have field : (BitVec.ofNat 11 (e + 1075).toNat).toNat = (e + 1075).toNat := by
    rw [BitVec.toNat_ofNat, Nat.mod_eq_of_lt narrow]
  have some : BitVec.ofNat 11 (e + 1075).toNat ≠ 0#11 := by
    intro none
    rw [none] at field
    change 0 = _ at field
    omega
  have number : BitVec.ofNat 11 (e + 1075).toNat ≠ -1#11 := by
    intro full
    rw [full] at field
    change 2047 = _ at field
    omega
  have mantissa : (1#1 ++ BitVec.ofNat 52 (m - 2 ^ 52)).toNat = m := by
    rw [toNat_append, BitVec.toNat_ofNat, BitVec.toNat_ofNat, Nat.mod_eq_of_lt short]
    omega
  have exponent : ((BitVec.ofNat 11 (e + 1075).toNat).toNat : Int) - (1023 + 52) = e := by
    rw [field]
    omega
  rw [assemble_eq negative lead few, if_neg within, unpack_word negative narrow short (.inl number),
    unpack_normal _ some number]
  simp only [mantissa, exponent]
  exact ⟨Nat.lt_of_lt_of_le (by decide) lead, trivial⟩

theorem unpack_assemble_beyond (negative : Bool) (lead : 2 ^ 52 ≤ m) (few : m < 2 ^ 53) (high : 971 < e) :
    (assemble negative m e).toModel.unpack = .infinity (signOf negative) := by
  have beyond : 2047 ≤ (e + 1075).toNat := by omega
  rw [assemble_eq negative lead few, if_pos beyond, unpack_word negative (by decide) (by decide) (.inr rfl)]
  exact unpack_infinite _

/-- A mantissa with its leading bit and an exponent make up a double unless they are too large for one. -/
theorem size_lt_iff (lead : 2 ^ 52 ≤ m) (few : m < 2 ^ 53) (least : -1074 ≤ e) :
    m * 2 ^ (e + 1074).toNat < 2 ^ (1024 + 1074) ↔ e ≤ 971 := by
  constructor
  · intro within
    by_contra high
    exact absurd within (Nat.not_lt.mpr (pow_le_mul lead (by omega)))
  · intro low
    exact mul_lt_pow few (by omega)

/-- The double has a sign and a number of units, and is infinite just if these are too many. -/
structure IsOfSize (x : Float) (sign : Sign) (size : Nat) : Prop where
  finite : x.isFinite = true ↔ size < 2 ^ (1024 + 1074)
  counted : x.isFinite = true → units x.toModel.unpack = sign.apply size

theorem isOfSize_assemble_normal (negative : Bool) (lead : 2 ^ 52 ≤ m) (few : m < 2 ^ 53) (least : -1074 ≤ e) :
    IsOfSize (assemble negative m e) (signOf negative) (m * 2 ^ (e + 1074).toNat) := by
  rcases lt_or_ge 971 e with high | low
  · have infinite : (assemble negative m e).isFinite = false := by
      rw [isFinite_eq, unpack_assemble_beyond negative lead few high]
      rfl
    constructor
    · rw [infinite, size_lt_iff lead few least]
      constructor
      · rintro ⟨⟩
      · intro low
        omega
    · rw [infinite]
      rintro ⟨⟩
  · obtain ⟨positive, parts⟩ := unpack_assemble negative lead few least low
    constructor
    · rw [isFinite_eq, parts, size_lt_iff lead few least]
      exact ⟨fun _ => low, fun _ => rfl⟩
    · intro _
      rw [parts]
      rfl

/-- A double put together from a mantissa with its leading bit and an exponent has their size, also where the mantissa is
carried over to the exponent. -/
theorem isOfSize_assemble (negative : Bool) (lead : 2 ^ 52 ≤ m) (most : m ≤ 2 ^ 53) (least : -1074 ≤ e) :
    IsOfSize (assemble negative m e) (signOf negative) (m * 2 ^ (e + 1074).toNat) := by
  rcases Nat.lt_or_eq_of_le most with few | rfl
  · exact isOfSize_assemble_normal negative lead few least
  · have next : (e + 1 + 1074).toNat = (e + 1074).toNat + 1 := by omega
    have carried : 2 ^ 53 * 2 ^ (e + 1074).toNat = 2 ^ 52 * 2 ^ (e + 1 + 1074).toNat := by
      rw [next, Nat.pow_succ]
      omega
    rw [assemble_carry, carried]
    exact isOfSize_assemble_normal negative (Nat.le_refl _) (by decide) (by omega)

end WorkflowEngine.Decimal
