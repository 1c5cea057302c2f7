import Mathlib
import WorkflowEngine.Decimal.Binary64

/-!
# Doubles that some finite double reaches

Every finite double lies at or below the largest one, and a double that lies at or below any finite double lies at or
below the largest.  An infinite or missing summand makes a sum infinite or missing, so that it does not, unless the sum
falls to the negative infinity.
-/

namespace WorkflowEngine.Decimal

open Float.Model (Format UnpackedFloat)
open Float.Model.UnpackedFloat

/-- The largest finite double. -/
def largest : Float :=
  .ofModel (.pack (.finite .positive (2 ^ 53 - 1) 971 (by decide)))

theorem unpack_largest : largest.toModel.unpack = .finite .positive (2 ^ 53 - 1) 971 (by decide) := by
  rfl

theorem isFinite_eq (x : Float) : x.isFinite = x.toModel.unpack.isFinite :=
  rfl

/-- Doubles are compared by their parts. -/
theorem le_iff {x y : Float} : x ≤ y ↔ UnpackedFloat.le x.toModel.unpack y.toModel.unpack = true := by
  change decide (x.toModel ≤ y.toModel) = true ↔ _
  rw [decide_eq_true_iff]
  rfl

theorem lt_iff {x y : Float} : x < y ↔ UnpackedFloat.lt x.toModel.unpack y.toModel.unpack = true := by
  change decide (x.toModel < y.toModel) = true ↔ _
  rw [decide_eq_true_iff]
  rfl

/-- The parts of a sum are those of the exact sum, rounded and packed. -/
theorem unpack_add (x y : Float) :
    (x + y).toModel.unpack =
      Float.Model.unpack (.pack (UnpackedFloat.add Format.binary64 x.toModel.unpack y.toModel.unpack)) :=
  rfl

/-- The mantissa and the exponent of a double: the leading bit of the mantissa is set unless the exponent is the
least. -/
structure IsShape (mantissa : Nat) (exponent : Int) : Prop where
  few : mantissa < 2 ^ 53
  least : -1074 ≤ exponent
  most : exponent ≤ 971
  normal : 2 ^ 52 ≤ mantissa ∨ exponent = -1074

theorem isShape_of_unpack {f : Float.Model} {sign : Sign} {mantissa : Nat} {exponent : Int} {positive : 0 < mantissa}
    (parts : f.unpack = .finite sign mantissa exponent positive) : IsShape mantissa exponent := by
  unfold Float.Model.unpack UnpackedFloat.unpack at parts
  dsimp only at parts
  have narrow := (@unpackExponent Format.binary64 f.toBits.toBitVec).isLt
  change (@unpackExponent Format.binary64 f.toBits.toBitVec).toNat < 2 ^ 11 at narrow
  split at parts
  · split at parts <;> cases parts
  · rename_i special
    have below : (@unpackExponent Format.binary64 f.toBits.toBitVec).toNat ≠ 2047 :=
      fun full => special (BitVec.eq_of_toNat_eq full)
    split at parts
    · rename_i none
      split at parts
      · cases parts
      · cases parts
        have few := (@unpackMantissa Format.binary64 f.toBits.toBitVec).isLt
        rw [none]
        exact ⟨few.trans (by decide), by decide, by decide, .inr (by decide)⟩
    · rename_i some
      cases parts
      have field : (@unpackExponent Format.binary64 f.toBits.toBitVec).toNat ≠ 0 :=
        fun none => some (BitVec.eq_of_toNat_eq none)
      have few := (1#1 ++ @unpackMantissa Format.binary64 f.toBits.toBitVec).isLt
      have leading : 2 ^ 52 ≤ (1#1 ++ @unpackMantissa Format.binary64 f.toBits.toBitVec).toNat := by
        rw [BitVec.toNat_append]
        exact Nat.left_le_or
      have least : -1074 ≤ ((@unpackExponent Format.binary64 f.toBits.toBitVec).toNat : Int) - (1023 + 52) := by omega
      have most : ((@unpackExponent Format.binary64 f.toBits.toBitVec).toNat : Int) - (1023 + 52) ≤ 971 := by omega
      exact ⟨few, least, most, .inl leading⟩

/-- Every finite double lies at or below the largest one. -/
theorem le_largest_of_isFinite {x : Float} (finite : x.isFinite = true) : x ≤ largest := by
  rw [le_iff, unpack_largest]
  rw [isFinite_eq] at finite
  cases parts : x.toModel.unpack with
  | infinity sign =>
      rw [parts] at finite
      cases finite
  | notANumber =>
      rw [parts] at finite
      cases finite
  | zero sign => cases sign <;> rfl
  | finite sign mantissa exponent positive =>
      have shape := isShape_of_unpack parts
      have few := shape.few
      cases sign with
      | negative => rfl
      | positive =>
          have order : ((compare exponent 971).then (compare mantissa (2 ^ 53 - 1))).isLE = true := by
            rcases lt_or_eq_of_le shape.most with below | rfl
            · simp [compare_lt_iff_lt.mpr below]
            · simp [Nat.isLE_compare]
              omega
          exact order

/-- What is reached by some finite double is reached by the largest one. -/
theorem le_largest_of_le {x y : Float} (le : x ≤ y) (finite : y.isFinite = true) : x ≤ largest := by
  rw [le_iff] at le
  rw [isFinite_eq] at finite
  cases parts : x.toModel.unpack with
  | infinity sign =>
      cases sign with
      | negative =>
          rw [le_iff, parts]
          rfl
      | positive =>
          rw [parts] at le
          cases other : y.toModel.unpack <;> rw [other] at le finite
          · cases finite
          · cases finite
          · cases le
          · cases le
  | notANumber =>
      rw [parts] at le
      cases le
  | zero sign => exact le_largest_of_isFinite (by rw [isFinite_eq, parts]; rfl)
  | finite sign mantissa exponent positive => exact le_largest_of_isFinite (by rw [isFinite_eq, parts]; rfl)

/-- An infinite or missing summand makes a sum infinite or missing. -/
theorem add_of_unbounded {a : UnpackedFloat} (unbounded : a.isFinite = false) (b : UnpackedFloat) :
    UnpackedFloat.add Format.binary64 a b = .notANumber ∨
      ∃ sign, UnpackedFloat.add Format.binary64 a b = .infinity sign := by
  cases a with
  | infinity sign =>
      cases b with
      | infinity other => cases sign <;> cases other <;> first | exact .inl rfl | exact .inr ⟨_, rfl⟩
      | notANumber => exact .inl rfl
      | zero other => exact .inr ⟨sign, rfl⟩
      | finite other mantissa exponent positive => exact .inr ⟨sign, rfl⟩
  | notANumber => exact .inl (by cases b <;> rfl)
  | zero sign => cases unbounded
  | finite sign mantissa exponent positive => cases unbounded

/-- A summand of a finite sum is finite. -/
theorem isFinite_of_add {x y : Float} (finite : (x + y).isFinite = true) : x.isFinite = true := by
  cases found : x.isFinite with
  | true => rfl
  | false =>
      rw [isFinite_eq, unpack_add] at finite
      rw [isFinite_eq] at found
      rcases add_of_unbounded found y.toModel.unpack with missing | ⟨sign, infinite⟩
      · rw [missing] at finite
        cases finite
      · rw [infinite] at finite
        cases sign <;> cases finite

/-- A finite double does not make an infinite or a missing one finite, and the sum is not negative unless that is. -/
theorem not_add_le_largest {x y : Float} (finite : x.isFinite = true) (unbounded : y.isFinite = false)
    (positive : ¬ y < 0.0) : ¬ x + y ≤ largest := by
  rw [le_iff, unpack_largest, unpack_add]
  rw [isFinite_eq] at finite unbounded
  rw [lt_iff] at positive
  have zero : (0.0 : Float).toModel.unpack = .zero .positive := by rfl
  rw [zero] at positive
  cases parts : y.toModel.unpack with
  | infinity sign =>
      rw [parts] at positive
      cases sign with
      | negative => exact absurd rfl positive
      | positive =>
          have sum : UnpackedFloat.add Format.binary64 x.toModel.unpack (.infinity .positive) = .infinity .positive := by
            cases other : x.toModel.unpack <;> rw [other] at finite
            · cases finite
            · cases finite
            · rfl
            · rfl
          rw [sum]
          exact Bool.false_ne_true
  | notANumber =>
      have sum : UnpackedFloat.add Format.binary64 x.toModel.unpack .notANumber = .notANumber := by
        cases x.toModel.unpack <;> rfl
      rw [sum]
      exact Bool.false_ne_true
  | zero sign =>
      rw [parts] at unbounded
      cases unbounded
  | finite sign mantissa exponent positive =>
      rw [parts] at unbounded
      cases unbounded

end WorkflowEngine.Decimal
