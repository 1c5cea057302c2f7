/-!
# Doubles as exact numbers

A finite double is a whole mantissa times a power of two.  `Dyadic.ofFloat?` takes a double apart and
`nearestFloat` finds the double nearest to any quotient, so that conversions between doubles, integers
and decimals are computed in whole numbers.
-/

/-!
## Rounding a quotient

A quotient of natural numbers is rounded to the nearest whole number; a quotient that lies half way
goes to the even neighbour.
-/

namespace WorkflowEngine.Decimal

/-- The whole number nearest to a quotient, the even one of two that are equally near. -/
def roundDiv (num den : Nat) : Nat :=
  let whole := num / den
  let rest := num % den
  if 2 * rest < den then whole
  else if den < 2 * rest then whole + 1
  else if whole % 2 == 0 then whole else whole + 1

/-- The rounded quotient is the whole part or the number after it. -/
theorem roundDiv_eq_or (num den : Nat) :
    roundDiv num den = num / den ∨ roundDiv num den = num / den + 1 := by
  simp only [roundDiv]
  split
  · exact .inl rfl
  · split
    · exact .inr rfl
    · split
      · exact .inl rfl
      · exact .inr rfl

/-- A rounded quotient is off by at most half a unit. -/
theorem roundDiv_within_half (num den : Nat) (positive : 0 < den) :
    2 * num ≤ 2 * (roundDiv num den * den) + den ∧
      2 * (roundDiv num den * den) ≤ 2 * num + den := by
  have split_num := Nat.div_add_mod num den
  have small := Nat.mod_lt num positive
  have product : den * (num / den) = num / den * den := Nat.mul_comm _ _
  have next : (num / den + 1) * den = num / den * den + den := Nat.succ_mul _ _
  simp only [roundDiv]
  repeat' split
  all_goals omega

/-- How many decimal digits a number has; zero has one. -/
def digitCount (value : Nat) : Nat :=
  (Nat.toDigits 10 value).length

/-- The exponent of the leading decimal digit of a positive quotient. -/
def leadingExponent (num den : Nat) : Int :=
  if den ≤ num then
    Int.ofNat (digitCount (num / den)) - 1
  else
    let places := digitCount (den / num) - 1
    if den ≤ num * Nat.pow 10 places then -(Int.ofNat places) else -(Int.ofNat places) - 1

/-- The quotient in units of a power of ten, as a quotient again. -/
def inUnits (num den : Nat) (exponent : Int) : Nat × Nat :=
  if 0 ≤ exponent then (num, den * Nat.pow 10 exponent.toNat)
  else (num * Nat.pow 10 (-exponent).toNat, den)

end WorkflowEngine.Decimal

/-! ## Doubles as exact numbers -/

namespace WorkflowEngine.Decimal

/-- A number of the form ± mantissa · 2 ^ exponent. -/
structure Dyadic where
  negative : Bool
  mantissa : Nat
  exponent : Int
deriving Repr, DecidableEq

/-- The least exponent of a double's last bit. -/
def leastExponent : Int := -1074

/-- The mantissas of normal doubles start here. -/
def leastNormal : Nat := Nat.pow 2 52

/-- The sign bit of a double. -/
def isNegative (x : Float) : Bool :=
  x.toBits.toNat / Nat.pow 2 63 == 1

/-- The parts of a finite double; none for an infinity or a missing number. -/
def Dyadic.ofFloat? (x : Float) : Option Dyadic :=
  let bits := x.toBits.toNat
  let field := bits / Nat.pow 2 52 % Nat.pow 2 11
  let fraction := bits % Nat.pow 2 52
  if field == 2047 then none
  else if field == 0 then some ⟨isNegative x, fraction, leastExponent⟩
  else some ⟨isNegative x, fraction + leastNormal, Int.ofNat field - 1075⟩

/-- The size of a dyadic number as a quotient of natural numbers. -/
def Dyadic.quotient (d : Dyadic) : Nat × Nat :=
  if 0 ≤ d.exponent then (d.mantissa * Nat.pow 2 d.exponent.toNat, 1)
  else (d.mantissa, Nat.pow 2 (-d.exponent).toNat)

/-- The quotient in units of a power of two, as a quotient again. -/
def inBinaryUnits (num den : Nat) (exponent : Int) : Nat × Nat :=
  if 0 ≤ exponent then (num, den * Nat.pow 2 exponent.toNat)
  else (num * Nat.pow 2 (-exponent).toNat, den)

/-- The exponent of the last bit of the double nearest to a positive quotient. -/
def lastBitExponent (num den : Nat) : Int :=
  let guess := Int.ofNat num.log2 - Int.ofNat den.log2 - 52
  let (n, d) := inBinaryUnits num den guess
  let exact := if n < d * leastNormal then guess - 1 else guess
  max exact leastExponent

/-- The double with a sign, a mantissa of at most 53 bits and the exponent of its last bit. -/
def assemble (negative : Bool) (mantissa : Nat) (exponent : Int) : Float :=
  let (mantissa, exponent) :=
    if mantissa == 2 * leastNormal then (leastNormal, exponent + 1) else (mantissa, exponent)
  let magnitude :=
    if mantissa < leastNormal then mantissa
    else
      let field := (exponent + 1075).toNat
      if 2047 ≤ field then 2047 * Nat.pow 2 52 else field * Nat.pow 2 52 + (mantissa - leastNormal)
  Float.ofBits (UInt64.ofNat (magnitude + if negative then Nat.pow 2 63 else 0))

/-- The double nearest to a quotient, the even one of two; too large a quotient gives infinity. -/
def nearestFloat (negative : Bool) (num den : Nat) : Float :=
  if num == 0 then assemble negative 0 leastExponent
  else
    let exponent := lastBitExponent num den
    let (n, d) := inBinaryUnits num den exponent
    assemble negative (roundDiv n d) exponent

/-- The double nearest to an integer; infinite when the integer is too large. -/
def floatOfInt (value : Int) : Float :=
  nearestFloat (decide (value < 0)) value.natAbs 1

/-- The double nearest to a decimal ± digits · 10 ^ exponent. -/
def floatOfDecimal (negative : Bool) (digits : Nat) (exponent : Int) : Float :=
  let leading := exponent + Int.ofNat (digitCount digits)
  if digits == 0 then assemble negative 0 leastExponent
  else if 400 < leading then nearestFloat negative (Nat.pow 10 400) 1
  else if leading < -400 then assemble negative 0 leastExponent
  else if 0 ≤ exponent then nearestFloat negative (digits * Nat.pow 10 exponent.toNat) 1
  else nearestFloat negative digits (Nat.pow 10 (-exponent).toNat)

/-- The integer part of a finite double. -/
def truncate? (x : Float) : Option Int :=
  (Dyadic.ofFloat? x).map fun d =>
    let (n, den) := d.quotient
    let size := Int.ofNat (n / den)
    if d.negative then -size else size

/-- The integer nearest to a finite double, the even one of two. -/
def roundToInt? (x : Float) : Option Int :=
  (Dyadic.ofFloat? x).map fun d =>
    let (n, den) := d.quotient
    let size := Int.ofNat (roundDiv n den)
    if d.negative then -size else size

/-- A finite double without a fractional part. -/
def isWhole (x : Float) : Bool :=
  match Dyadic.ofFloat? x with
  | none => false
  | some d =>
    let (n, den) := d.quotient
    n % den == 0

/-- How an integer compares with a double that is a number. -/
def compareIntFloat (i : Int) (x : Float) : Ordering :=
  match Dyadic.ofFloat? x with
  | none => if isNegative x then .gt else .lt
  | some d =>
    let (n, den) := d.quotient
    let size := if d.negative then -(Int.ofNat n) else Int.ofNat n
    compare (i * Int.ofNat den) size

/-- The missing number. -/
def missingNumber : Float := 0.0 / 0.0

/-- Positive infinity. -/
def infinity : Float := 1.0 / 0.0

end WorkflowEngine.Decimal
