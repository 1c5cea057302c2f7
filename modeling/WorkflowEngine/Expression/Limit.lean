import WorkflowEngine.Value.Operator

/-!
# Limits of operators

Expressions come from outside, so the operators with which little text makes large values are bounded:
sums and repetitions of sequences by their length, powers by both operands, shifts by both operands.
-/

namespace WorkflowEngine.Expression

open Eval

/-- The longest sequence or literal. -/
def lengthLimit : Nat := 100000

/-- The largest operand of a power. -/
def powerLimit : Int := 4000000

/-- The largest count of a shift. -/
def shiftLimit : Int := 10000

/-- The largest number that is shifted: the largest double. -/
def shiftBaseLimit : Int := Int.ofNat ((Nat.pow 2 53 - 1) * Nat.pow 2 971)

/-- The most items of all comprehensions of an evaluation. -/
def itemLimit : Nat := 10000

/-- The value has a length, or is a type whose values have one. -/
def isSized : Value → Bool
  | .str _ => true
  | .bytes _ => true
  | .list _ => true
  | .tuple _ => true
  | .set _ => true
  | .dict _ => true
  | .type k => [Kind.str, .list, .tuple, .set, .dict].contains k
  | _ => false

/-- A sum, unless it would be too long. -/
def limitedAdd (a b : Value) : Eval Value := do
  if isSized a && isSized b then
    let total := (← length a) + (← length b)
    if lengthLimit < total then
      fail (.refused "Sorry, adding those two together would make something too long.")
  Value.add a b

/-- A repetition of a sequence of a given length is too long. -/
def isTooLong (count : Value) (length : Nat) : Eval Bool := do
  let total ← Value.multiply count (.int length)
  Value.compare .greater total (.int lengthLimit)

/-- A product, unless it would be too long. -/
def limitedMultiply (a b : Value) : Eval Value := do
  let refusal : Fault := .refused "Sorry, I will not evaluate something that long."
  if isSized a then
    if ← isTooLong b (← length a) then fail refusal
  if isSized b then
    if ← isTooLong a (← length b) then fail refusal
  Value.multiply a b

/-- The size of a number is beyond a bound. -/
def isBeyond (v : Value) (bound : Int) : Eval Bool := do
  Value.compare .greater (← Value.absolute v) (.int bound)

/-- The operation is refused for its operands. -/
def refuseOperands (operator : String) (a b : Value) : Eval Unit := do
  fail (.refused ("Sorry! I don't want to evaluate " ++ (← text a) ++ " " ++ operator ++ " " ++ (← text b)))

/-- A power, unless an operand is too large. -/
def limitedPower (a b : Value) : Eval Value := do
  if ← isBeyond a powerLimit then refuseOperands "**" a b
  if ← isBeyond b powerLimit then refuseOperands "**" a b
  Value.power a b

/-- A shift, unless an operand is too large. -/
def limitedShift (operator : String) (shift : Value → Value → Eval Value) (a b : Value) : Eval Value := do
  if ← isBeyond b shiftLimit then refuseOperands operator a b
  if ← isBeyond a shiftBaseLimit then refuseOperands operator a b
  shift a b

end WorkflowEngine.Expression
