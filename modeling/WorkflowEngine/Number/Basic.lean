import WorkflowEngine.Data.Text
import WorkflowEngine.Decimal.Binary64
import WorkflowEngine.Decimal.Numeral
import WorkflowEngine.Fault

/-!
# Numbers

A number is an integer of any size, a double or a complex number.  Integers and doubles compare by
their exact values.
-/

namespace WorkflowEngine

/-- A number. -/
inductive Number where
  | int (i : Int)
  | float (x : Float)
  | complex (re im : Float)
deriving Repr, Inhabited

namespace Number

/-- The kind of a number. -/
def kind : Number → Kind
  | .int _ => .int
  | .float _ => .float
  | .complex _ _ => .complex

/-- The double nearest to an integer; it has to be finite. -/
def floatOfInt (i : Int) : Except Fault Float :=
  let x := Decimal.floatOfInt i
  if x.isFinite then .ok x else .error .tooLargeForFloat

/-- The number as a double. -/
def toFloat : Number → Except Fault Float
  | .int i => floatOfInt i
  | .float x => .ok x
  | .complex _ _ => .error (.typed "float() argument must be a string or a real number, not 'complex'")

/-- The order of two real numbers; none if one of them is missing or complex. -/
def compare? : Number → Number → Option Ordering
  | .int a, .int b => some (compare a b)
  | .int a, .float y => if y.isNaN then none else some (Decimal.compareIntFloat a y)
  | .float x, .int b => if x.isNaN then none else some (Decimal.compareIntFloat b x).swap
  | .float x, .float y =>
    if x.isNaN || y.isNaN then none
    else some (if x < y then .lt else if y < x then .gt else .eq)
  | _, _ => none

/-- Two numbers have the same value. -/
def equals : Number → Number → Bool
  | .complex re im, .complex re' im' => re == re' && im == im'
  | .complex re im, .int i => im == 0.0 && compare? (.float re) (.int i) == some .eq
  | .complex re im, .float x => im == 0.0 && re == x
  | .int i, .complex re im => im == 0.0 && compare? (.float re) (.int i) == some .eq
  | .float x, .complex re im => im == 0.0 && re == x
  | a, b => compare? a b == some .eq

/-- The number is not zero. -/
def isTrue : Number → Bool
  | .int i => i != 0
  | .float x => !(x == 0.0)
  | .complex re im => !(re == 0.0 && im == 0.0)

end Number

namespace Data

/-- The number that a value counts as; truth values count as zero and one. -/
def number? : Data → Option Number
  | .bool b => some (.int (if b then 1 else 0))
  | .int i => some (.int i)
  | .float x => some (.float x)
  | .nan _ => some (.float Decimal.missingNumber)
  | .complex re im => some (.complex re im)
  | _ => none

end Data

end WorkflowEngine

/-!
## Numbers as text

A number is written as the value that it is.
-/

namespace WorkflowEngine.Number

/-- A number as data. -/
def toData : Number → Data
  | .int i => .int i
  | .float x => .float x
  | .complex re im => .complex re im

/-- The text of a number. -/
def text (n : Number) : String :=
  n.toData.text

/-- The text of a number that may be missing. -/
def textOrNone : Option Number → String
  | none => "None"
  | some n => n.text

end WorkflowEngine.Number

/-!
## Numbers spelled in texts

A text spells an integer or a double, or it does not; then the text is shown.
-/

namespace WorkflowEngine.Number

/-- The longest part of a value that a message about a number shows. -/
def shownLength : Nat := 200

/-- A value that spells no integer in a base. -/
def notAnInt (base : Nat) (shown : String) : Fault :=
  .valued ("invalid literal for int() with base " ++ toString base ++ ": " ++
    String.ofList (shown.toList.take shownLength))

/-- An integer with too many digits to be read. -/
def overlong (count : Nat) : Fault :=
  .valued ("Exceeds the limit (4300 digits) for integer string conversion: value has " ++
    toString count ++ " digits; use sys.set_int_max_str_digits() to increase the limit")

/-- A value that spells no double. -/
def notAFloat (shown : String) : Fault :=
  .valued ("could not convert string to float: " ++ shown)

/-- The integer that a text spells. -/
def spelledInt (text : String) : Except Fault Int :=
  match Decimal.readInt? 10 text with
  | none => .error (notAnInt 10 (Data.str text).source)
  | some i =>
    match Decimal.overlongDigits? text with
    | some count => .error (overlong count)
    | none => .ok i

/-- The double that a text spells. -/
def spelledFloat (text : String) : Except Fault Float :=
  match Decimal.readFloat? text with
  | none => .error (notAFloat (Data.str text).source)
  | some x => .ok x

end WorkflowEngine.Number
