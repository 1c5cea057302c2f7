import WorkflowEngine.Number.Basic

/-!
# Arithmetic of numbers

Integers are exact.  An operation of an integer and a double works on doubles, and one with a complex
number works on complex numbers.  Quotients of integers are rounded once, from their exact value.
-/

namespace WorkflowEngine.Number

/-- The operator is not defined for the kinds of two numbers. -/
def unsupported {α : Type} (operator : String) (a b : Number) : Except Fault α :=
  .error (.unsupported operator a.kind b.kind)

/-- The divisor is zero. -/
def zeroDivision {α : Type} (message : String) : Except Fault α :=
  .error (.other .zeroDivision message)

/-- Both numbers as doubles. -/
def bothFloats (a b : Number) : Except Fault (Float × Float) :=
  match a.toFloat with
  | .error f => .error f
  | .ok x =>
    match b.toFloat with
    | .error f => .error f
    | .ok y => .ok (x, y)

/-- The real and imaginary part of a number. -/
def parts : Number → Except Fault (Float × Float)
  | .complex re im => .ok (re, im)
  | n => n.toFloat.map fun x => (x, 0.0)

/-- Both numbers as complex ones. -/
def bothComplex (a b : Number) : Except Fault ((Float × Float) × (Float × Float)) :=
  match a.parts with
  | .error f => .error f
  | .ok x =>
    match b.parts with
    | .error f => .error f
    | .ok y => .ok (x, y)

/-- An operation that is defined on integers, doubles and complex numbers alike. -/
def combine (ints : Int → Int → Int) (floats : Float → Float → Float)
    (pairs : Float × Float → Float × Float → Float × Float) (a b : Number) : Except Fault Number :=
  match a, b with
  | .int i, .int j => .ok (.int (ints i j))
  | .complex _ _, _ => (bothComplex a b).map fun ((x, y) : _ × _) => .complex (pairs x y).1 (pairs x y).2
  | _, .complex _ _ => (bothComplex a b).map fun ((x, y) : _ × _) => .complex (pairs x y).1 (pairs x y).2
  | _, _ => (bothFloats a b).map fun ((x, y) : _ × _) => .float (floats x y)

/-- The product of two complex numbers. -/
def pairProduct (x y : Float × Float) : Float × Float :=
  (x.1 * y.1 - x.2 * y.2, x.1 * y.2 + x.2 * y.1)

/-- The quotient of two complex numbers, scaled by the larger part of the divisor. -/
def pairQuotient (x y : Float × Float) : Float × Float :=
  if y.2.abs ≤ y.1.abs then
    let ratio := y.2 / y.1
    let den := y.1 + y.2 * ratio
    ((x.1 + x.2 * ratio) / den, (x.2 - x.1 * ratio) / den)
  else if y.1.abs ≤ y.2.abs then
    let ratio := y.1 / y.2
    let den := y.1 * ratio + y.2
    ((x.1 * ratio + x.2) / den, (x.2 * ratio - x.1) / den)
  else (Decimal.missingNumber, Decimal.missingNumber)

/-- The sum of two numbers. -/
def add : Number → Number → Except Fault Number :=
  combine (· + ·) (· + ·) fun x y => (x.1 + y.1, x.2 + y.2)

/-- The difference of two numbers. -/
def subtract : Number → Number → Except Fault Number :=
  combine (· - ·) (· - ·) fun x y => (x.1 - y.1, x.2 - y.2)

/-- The product of two numbers. -/
def multiply : Number → Number → Except Fault Number :=
  combine (· * ·) (· * ·) pairProduct

/-- The double nearest to the quotient of two integers. -/
def divideInts (i j : Int) : Except Fault Number :=
  if j == 0 then zeroDivision "division by zero"
  else
    let x := Decimal.nearestFloat (decide (i < 0) != decide (j < 0)) i.natAbs j.natAbs
    if x.isFinite then .ok (.float x)
    else .error (.other .overflow "integer division result too large for a float")

/-- The quotient of two numbers, never an integer. -/
def divide (a b : Number) : Except Fault Number :=
  let pairs : Except Fault Number :=
    match bothComplex a b with
    | .error f => .error f
    | .ok (x, y) =>
      if y.1 == 0.0 && y.2 == 0.0 then zeroDivision "complex division by zero"
      else .ok (.complex (pairQuotient x y).1 (pairQuotient x y).2)
  match a, b with
  | .int i, .int j => divideInts i j
  | .complex _ _, _ => pairs
  | _, .complex _ _ => pairs
  | _, _ =>
    match bothFloats a b with
    | .error f => .error f
    | .ok (x, y) => if y == 0.0 then zeroDivision "float division by zero" else .ok (.float (x / y))

/-- The magnitude of one double with the sign of another. -/
def copySign (magnitude sign : Float) : Float :=
  if Decimal.isNegative sign then -magnitude.abs else magnitude.abs

/-- The exact remainder of a double by another, with the sign of the first. -/
def remainder (x y : Float) : Float :=
  match Decimal.Dyadic.ofFloat? x, Decimal.Dyadic.ofFloat? y with
  | some a, some b =>
    if b.mantissa == 0 then Decimal.missingNumber
    else
      let unit := min a.exponent b.exponent
      let m := a.mantissa * Nat.pow 2 (a.exponent - unit).toNat
      let n := b.mantissa * Nat.pow 2 (b.exponent - unit).toNat
      Decimal.nearestFloat a.negative (m % n * Nat.pow 2 unit.toNat) (Nat.pow 2 (-unit).toNat)
  | some _, none => if y.isNaN then Decimal.missingNumber else x
  | none, _ => Decimal.missingNumber

/-- The remainder of a double by another that is not zero, with the sign of the second. -/
def floatModulo (x y : Float) : Float :=
  let r := remainder x y
  if r == 0.0 then copySign 0.0 y
  else if decide (y < 0.0) != decide (r < 0.0) then r + y else r

/-- The whole part, downwards, of the quotient of a double by another that is not zero. -/
def floatFloorDivide (x y : Float) : Float :=
  let r := remainder x y
  let quotient := (x - r) / y
  let quotient :=
    if !(r == 0.0) && decide (y < 0.0) != decide (r < 0.0) then quotient - 1.0 else quotient
  if quotient == 0.0 then copySign 0.0 (x / y)
  else
    let whole := quotient.floor
    if 0.5 < quotient - whole then whole + 1.0 else whole

/-- The quotient rounded downwards. -/
def floorDivide (a b : Number) : Except Fault Number :=
  match a, b with
  | .int i, .int j =>
    if j == 0 then zeroDivision "integer division or modulo by zero" else .ok (.int (i.fdiv j))
  | .complex _ _, _ => unsupported "//" a b
  | _, .complex _ _ => unsupported "//" a b
  | _, _ =>
    match bothFloats a b with
    | .error f => .error f
    | .ok (x, y) =>
      if y == 0.0 then zeroDivision "float floor division by zero"
      else .ok (.float (floatFloorDivide x y))

/-- The remainder that goes with the quotient rounded downwards. -/
def modulo (a b : Number) : Except Fault Number :=
  match a, b with
  | .int i, .int j =>
    if j == 0 then zeroDivision "integer modulo by zero" else .ok (.int (i.fmod j))
  | .complex _ _, _ => unsupported "%" a b
  | _, .complex _ _ => unsupported "%" a b
  | _, _ =>
    match bothFloats a b with
    | .error f => .error f
    | .ok (x, y) =>
      if y == 0.0 then zeroDivision "float modulo" else .ok (.float (floatModulo x y))

/-- The double is an odd integer. -/
def isOddWhole (x : Float) : Bool :=
  Decimal.isWhole x && (Decimal.truncate? x).any fun i => i % 2 != 0

/-- The distance of a complex number from zero, rounded once from its exact value. -/
def lengthOfPair (x : Float × Float) : Float :=
  match Decimal.Dyadic.ofFloat? x.1, Decimal.Dyadic.ofFloat? x.2 with
  | some a, some b =>
    let unit := min a.exponent b.exponent
    let m := a.mantissa * Nat.pow 2 (a.exponent - unit).toNat
    let n := b.mantissa * Nat.pow 2 (b.exponent - unit).toNat
    let square := (m * m + n * n) * Nat.pow 2 160
    let root := square.sqrt
    let root := if root * root == square then root * 2 else root * 2 + 1
    Decimal.nearestFloat false (root * Nat.pow 2 unit.toNat) (Nat.pow 2 81 * Nat.pow 2 (-unit).toNat)
  | _, _ =>
    if x.1.isInf || x.2.isInf then Decimal.infinity else Decimal.missingNumber

/-- A complex number multiplied with itself so many times, by repeated squaring. -/
def pairPowerNat : Nat → Float × Float → Float × Float → Nat → Float × Float
  | 0, result, _, _ => result
  | fuel + 1, result, square, count =>
    if count == 0 then result
    else
      let result := if count % 2 == 1 then pairProduct result square else result
      pairPowerNat fuel result (pairProduct square square) (count / 2)

/-- A complex number to a complex power. -/
def pairPower (x y : Float × Float) : Except Fault Number :=
  let small := y.2 == 0.0 && Decimal.isWhole y.1 && y.1.abs ≤ 100.0
  let exponent := (Decimal.truncate? y.1).getD 0
  let refused : Except Fault Number := zeroDivision "0.0 to a negative or complex power"
  let finish (z : Float × Float) : Except Fault Number :=
    if z.1.isInf || z.2.isInf then .error (.other .overflow "complex exponentiation")
    else .ok (.complex z.1 z.2)
  let zero := x.1 == 0.0 && x.2 == 0.0
  if small && 0 < exponent then
    finish (pairPowerNat 8 (1.0, 0.0) x exponent.toNat)
  else if small then
    let power := pairPowerNat 8 (1.0, 0.0) x (-exponent).toNat
    if power.1 == 0.0 && power.2 == 0.0 then refused
    else finish (pairQuotient (1.0, 0.0) power)
  else if zero then
    if !(y.2 == 0.0) || y.1 < 0.0 then refused else .ok (.complex 0.0 0.0)
  else
    let length := lengthOfPair x
    let angle := Float.atan2 x.2 x.1
    let size := Float.pow length y.1
    let size := if y.2 == 0.0 then size else size / Float.exp (angle * y.2)
    let phase := angle * y.1
    let phase := if y.2 == 0.0 then phase else phase + y.2 * Float.log length
    finish (size * Float.cos phase, size * Float.sin phase)

/-- A double to the power of a double. -/
def floatPower (x y : Float) : Except Fault Number :=
  if y == 0.0 then .ok (.float 1.0)
  else if x.isNaN then .ok (.float x)
  else if y.isNaN then .ok (.float (if x == 1.0 then 1.0 else y))
  else if y.isInf then
    let size := x.abs
    if size == 1.0 then .ok (.float 1.0)
    else if decide (0.0 < y) == decide (1.0 < size) then .ok (.float y.abs)
    else .ok (.float 0.0)
  else if x.isInf then
    let odd := isOddWhole y
    if 0.0 < y then .ok (.float (if odd then x else x.abs))
    else .ok (.float (if odd then copySign 0.0 x else 0.0))
  else if x == 0.0 then
    if y < 0.0 then zeroDivision "0.0 cannot be raised to a negative power"
    else .ok (.float (if isOddWhole y then x else 0.0))
  else if x < 0.0 && !Decimal.isWhole y then pairPower (x, 0.0) (y, 0.0)
  else
    let negative := x < 0.0 && isOddWhole y
    let size := Float.pow x.abs y
    if size.isInf then .error (.other .overflow "(34, 'Numerical result out of range')")
    else .ok (.float (if negative then -size else size))

/-- A number to the power of a number. -/
def power (a b : Number) : Except Fault Number :=
  let pairs : Except Fault Number :=
    match bothComplex a b with
    | .error f => .error f
    | .ok (x, y) => pairPower x y
  let floats : Except Fault Number :=
    match bothFloats a b with
    | .error f => .error f
    | .ok (x, y) => floatPower x y
  match a, b with
  | .int i, .int j => if 0 ≤ j then .ok (.int (Int.pow i j.toNat)) else floats
  | .complex _ _, _ => pairs
  | _, .complex _ _ => pairs
  | _, _ => floats

/-- The negated number. -/
def negate : Number → Number
  | .int i => .int (-i)
  | .float x => .float (-x)
  | .complex re im => .complex (-re) (-im)

/-- The distance of a number from zero. -/
def absolute : Number → Except Fault Number
  | .int i => .ok (.int i.natAbs)
  | .float x => .ok (.float x.abs)
  | .complex re im =>
    let length := lengthOfPair (re, im)
    if length.isInf && !re.isInf && !im.isInf then
      .error (.other .overflow "absolute value too large")
    else .ok (.float length)

/-- An operation on the integer operands of an operator; other numbers have none. -/
def onInts (operator : String) (ints : Int → Int → Except Fault Int) (a b : Number) :
    Except Fault Number :=
  match a, b with
  | .int i, .int j => (ints i j).map .int
  | _, _ => unsupported operator a b

/-- The bits of an integer below zero are those of its complement, inverted. -/
def bitwise (naturals : Nat → Nat → Nat) (leftOnly rightOnly both : Nat → Nat → Int) (i j : Int) : Int :=
  match i, j with
  | .ofNat m, .ofNat n => .ofNat (naturals m n)
  | .ofNat m, .negSucc n => leftOnly m n
  | .negSucc m, .ofNat n => rightOnly m n
  | .negSucc m, .negSucc n => both m n

/-- The bits of the first number that are not bits of the second. -/
def clearBits (m n : Nat) : Nat :=
  m ^^^ (m &&& n)

/-- The bits that both integers have. -/
def bitAnd (i j : Int) : Int :=
  bitwise (· &&& ·) (fun m n => .ofNat (clearBits m n)) (fun m n => .ofNat (clearBits n m))
    (fun m n => .negSucc (m ||| n)) i j

/-- The bits that one of the integers has. -/
def bitOr (i j : Int) : Int :=
  bitwise (· ||| ·) (fun m n => .negSucc (clearBits n m)) (fun m n => .negSucc (clearBits m n))
    (fun m n => .negSucc (m &&& n)) i j

/-- The bits that exactly one of the integers has. -/
def bitXor (i j : Int) : Int :=
  bitwise (· ^^^ ·) (fun m n => .negSucc (m ^^^ n)) (fun m n => .negSucc (m ^^^ n))
    (fun m n => .ofNat (m ^^^ n)) i j

/-- The integer moved to higher bits. -/
def shiftLeft (i j : Int) : Except Fault Int :=
  if j < 0 then .error (.valued "negative shift count") else .ok (i * Int.ofNat (Nat.pow 2 j.toNat))

/-- The integer moved to lower bits. -/
def shiftRight (i j : Int) : Except Fault Int :=
  if j < 0 then .error (.valued "negative shift count") else .ok (i.fdiv (Int.ofNat (Nat.pow 2 j.toNat)))

end WorkflowEngine.Number

/-!
## Rounding of numbers

A number is rounded to a power of ten, from its exact value; of two values as near the even one is
taken.
-/

namespace WorkflowEngine.Number

/-- The integer nearest to a double. -/
def roundToInt (x : Float) : Except Fault Int :=
  if x.isNaN then .error (.valued "cannot convert float NaN to integer")
  else
    match Decimal.roundToInt? x with
    | some i => .ok i
    | none => .error (.other .overflow "cannot convert float infinity to integer")

/-- The integer part of a double. -/
def truncate (x : Float) : Except Fault Int :=
  if x.isNaN then .error (.valued "cannot convert float NaN to integer")
  else
    match Decimal.truncate? x with
    | some i => .ok i
    | none => .error (.other .overflow "cannot convert float infinity to integer")

/-- An integer rounded to a multiple of a power of ten, where places are negative. -/
def roundInt (i places : Int) : Int :=
  if 0 ≤ places then i
  else if Int.ofNat (Decimal.digitCount i.natAbs) + 1 < -places then 0
  else
    let unit := Nat.pow 10 (-places).toNat
    let size := Int.ofNat (Decimal.roundDiv i.natAbs unit * unit)
    if i < 0 then -size else size

/-- The most places that a double can have. -/
def mostPlaces : Int := 323

/-- The fewest places, counted as negative, that leave anything of a double. -/
def fewestPlaces : Int := -308

/-- A double rounded to a number of places. -/
def roundFloat (x : Float) (places : Int) : Except Fault Float :=
  match Decimal.Dyadic.ofFloat? x with
  | none => .ok x
  | some d =>
    if mostPlaces < places then .ok x
    else if places < fewestPlaces then .ok (0.0 * x)
    else
      let (num, den) := d.quotient
      let scaled :=
        if 0 ≤ places then
          let unit := Nat.pow 10 places.toNat
          Decimal.nearestFloat d.negative (Decimal.roundDiv (num * unit) den) unit
        else
          let unit := Nat.pow 10 (-places).toNat
          Decimal.nearestFloat d.negative (Decimal.roundDiv num (den * unit) * unit) 1
      if scaled.isFinite then .ok scaled
      else .error (.other .overflow "rounded value too large to represent")

end WorkflowEngine.Number
