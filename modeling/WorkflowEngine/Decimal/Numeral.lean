import WorkflowEngine.Decimal.Binary64
import WorkflowEngine.Text.Unicode.Ranges

/-!
# Numbers from text

A number in a text may have blanks around it, a sign in front, digits of any script and single low
lines between digits.
-/

namespace WorkflowEngine.Decimal

/-- A blank that may surround a number: every blank but the four separators of control text. -/
def isNumericBlank (c : Char) : Bool :=
  Text.Unicode.isBlank c && !(28 ≤ c.toNat && c.toNat ≤ 31)

/-- A digit of any script as the plain digit of its value; all other characters stay. -/
def plainDigit (c : Char) : Char :=
  match Text.Unicode.digitValue? c with
  | some value => Char.ofNat (48 + value)
  | none => c

/-- The characters of a number without surrounding blanks, with plain digits. -/
def numeralChars (text : String) : List Char :=
  let chars := text.toList.dropWhile isNumericBlank
  ((chars.reverse.dropWhile isNumericBlank).reverse).map plainDigit

/-- The value of a digit or letter as a digit in a base up to 36. -/
def digitInBase? (base : Nat) (c : Char) : Option Nat :=
  let value? :=
    if '0' ≤ c ∧ c ≤ '9' then some (c.toNat - 48)
    else if 'a' ≤ c ∧ c ≤ 'z' then some (c.toNat - 87)
    else if 'A' ≤ c ∧ c ≤ 'Z' then some (c.toNat - 55)
    else none
  value?.filter (· < base)

/-- Reads digits with single low lines between them; `joined` tells that a digit must come next. -/
def readDigits (base : Nat) (value : Nat) (joined : Bool) : List Char → Option Nat
  | [] => if joined then none else some value
  | '_' :: rest => if joined then none else readDigits base value true rest
  | c :: rest =>
    match digitInBase? base c with
    | some digit => readDigits base (value * base + digit) false rest
    | none => none

/-- A sign in front: whether it is negative, and what follows. -/
def takeSign : List Char → Bool × List Char
  | '-' :: rest => (true, rest)
  | '+' :: rest => (false, rest)
  | chars => (false, chars)

/-- The base that a letter behind a leading zero names. -/
def baseOfLetter? : Char → Option Nat
  | 'x' => some 16
  | 'X' => some 16
  | 'o' => some 8
  | 'O' => some 8
  | 'b' => some 2
  | 'B' => some 2
  | _ => none

/-- Drops the mark of a base in front of digits, with a low line behind it, where it fits the base. -/
def dropBaseMark (base : Nat) : List Char → Nat × Bool × List Char
  | '0' :: letter :: rest =>
    match baseOfLetter? letter with
    | some marked =>
      if base == 0 || base == marked then
        match rest with
        | '_' :: digits => (marked, true, digits)
        | digits => (marked, true, digits)
      else (base, false, '0' :: letter :: rest)
    | none => (base, false, '0' :: letter :: rest)
  | chars => (base, false, chars)

/-- The digits of a text: how many of them there are. -/
def countDigits (chars : List Char) : Nat :=
  (chars.filter (· != '_')).length

/-- The longest decimal number that is read or written. -/
def digitLimit : Nat := 4300

/-- The integer that a text spells in a base; base 0 takes the base from the mark in front. -/
def readInt? (base : Nat) (text : String) : Option Int :=
  let (negative, chars) := takeSign (numeralChars text)
  let (found, marked, digits) := dropBaseMark base chars
  let usedBase := if found == 0 then 10 else found
  match digits with
  | [] => none
  | first :: _ =>
    if first == '_' then none
    else
      match readDigits usedBase 0 false digits with
      | none => none
      | some value =>
        if base == 0 && !marked && first == '0' && value != 0 then none
        else some (if negative then -(Int.ofNat value) else Int.ofNat value)

/-- How many decimal digits a text spells, if they are too many to be read. -/
def overlongDigits? (text : String) : Option Nat :=
  let count := countDigits (takeSign (numeralChars text)).2
  if digitLimit < count then some count else none

/-- The digits in front, with single low lines between them: their value, their number, and the rest. -/
def spanDigits (value count : Nat) : List Char → Nat × Nat × List Char
  | '_' :: c :: rest =>
    if 0 < count && c.isDigit then spanDigits (value * 10 + (c.toNat - 48)) (count + 1) rest
    else (value, count, '_' :: c :: rest)
  | c :: rest =>
    if c.isDigit then spanDigits (value * 10 + (c.toNat - 48)) (count + 1) rest
    else (value, count, c :: rest)
  | [] => (value, count, [])

/-- An exponent at the end of a decimal; nothing at all stands for zero. -/
def readExponent? : List Char → Option Int
  | [] => some 0
  | mark :: rest =>
    if mark == 'e' || mark == 'E' then
      let (negative, digits) := takeSign rest
      match spanDigits 0 0 digits with
      | (value, count, []) =>
        if count == 0 then none
        else some (if negative then -(Int.ofNat value) else Int.ofNat value)
      | _ => none
    else none

/-- An unsigned decimal with optional places and exponent. -/
def readMagnitude? (negative : Bool) (chars : List Char) : Option Float :=
  let (whole, wholeCount, rest) := spanDigits 0 0 chars
  let (digits, count, places, rest) :=
    match rest with
    | '.' :: behind =>
      match behind with
      | '_' :: _ => (whole, wholeCount, 0, rest)
      | _ =>
        let (value, count, after) := spanDigits 0 0 behind
        (whole * Nat.pow 10 count + value, wholeCount + count, count, after)
    | _ => (whole, wholeCount, 0, rest)
  if count == 0 then none
  else
    (readExponent? rest).map fun exponent =>
      floatOfDecimal negative digits (exponent - Int.ofNat places)

/-- The double that a text spells: a decimal, an infinity or the missing number. -/
def readFloat? (text : String) : Option Float :=
  let (negative, chars) := takeSign (numeralChars text)
  let word := String.ofList (chars.map Char.toLower)
  if word == "inf" || word == "infinity" then
    some (if negative then -infinity else infinity)
  else if word == "nan" then some missingNumber
  else readMagnitude? negative chars

end WorkflowEngine.Decimal
