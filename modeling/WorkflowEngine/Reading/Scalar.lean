import WorkflowEngine.Decimal.Numeral
import WorkflowEngine.Number.Basic
import WorkflowEngine.Reading.Basic
import WorkflowEngine.Text.Surrogate
import WorkflowEngine.Text.Trim
import WorkflowEngine.Text.Encoding

/-!
# Reading single values

Texts are read as they are, and bytes as the text that they encode.  Truth values and numbers are also
read from texts that spell them and from one another, as long as nothing is lost.
-/

namespace WorkflowEngine.Reading

/-- The bytes encode a text. -/
def text? (bytes : List UInt8) : Option String :=
  let s := Text.Utf8.decode bytes
  if Text.Utf8.encode s == bytes then some s else none

/-- Every character of the text is a whole one. -/
def isWhole (s : String) : Bool :=
  s.toList.all fun c => (Text.Surrogate.half? c).isNone

/-- Reads a text. -/
def text : Data → Reading String
  | .str s => .ok s
  | .bytes bytes =>
    match text? bytes with
    | some s => .ok s
    | none => refuse .unreadableText
  | _ => refuse .notText

/-- The text that spells a value, if the part is one; bytes that encode no text are refused. -/
def spelling? (unreadable : Cause) : Data → Reading (Option String)
  | .str s => if isWhole s then .ok (some s) else refuse .unreadableText
  | .bytes bytes =>
    match text? bytes with
    | some s => .ok (some s)
    | none => refuse unreadable
  | _ => .ok none

/-- The words for truth. -/
def trueWords : List String := ["1", "on", "t", "true", "y", "yes"]

/-- The words for falsity. -/
def falseWords : List String := ["0", "off", "f", "false", "n", "no"]

/-- The plain letters of a word in small form. -/
def lowerPlain (s : String) : String :=
  String.ofList (s.toList.map fun c => if 'A' ≤ c && c ≤ 'Z' then Char.ofNat (c.toNat + 32) else c)

/-- The truth value of an integer. -/
def boolOfInt (i : Int) : Reading Bool :=
  if i == 0 then .ok false else if i == 1 then .ok true else refuse .unreadableBool

/-- The integer that a double is. -/
def intOfFloat (x : Float) : Reading Int :=
  if x.isNaN || x.isInf then refuse .notFinite
  else if x.floor != x then refuse .fractional
  else
    match Decimal.truncate? x with
    | some i => if -Int.ofNat (Nat.pow 2 63) < i && i < Int.ofNat (Nat.pow 2 63) then .ok i else refuse .oversized
    | none => refuse .oversized

/-- Reads a truth value. -/
def bool (d : Data) : Reading Bool :=
  match d with
  | .bool b => .ok b
  | .int i => boolOfInt i
  | .float x =>
    match intOfFloat x with
    | .ok i => boolOfInt i
    | _ => refuse .notBool
  | d =>
    (spelling? .unreadableBool d).check fun spelling =>
      match spelling with
      | none => refuse .notBool
      | some s =>
        let word := lowerPlain s
        if trueWords.contains word then .ok true
        else if falseWords.contains word then .ok false
        else refuse .unreadableBool

/-- The text without the blanks at both ends; the separators of records and fields are no blanks here. -/
def trimSpaces (chars : List Char) : List Char :=
  let isSpace (c : Char) : Bool := Text.Unicode.isBlank c && !(0x1c ≤ c.toNat && c.toNat ≤ 0x1f)
  ((chars.dropWhile isSpace).reverse.dropWhile isSpace).reverse

/-- A plain digit. -/
def isPlainDigit (c : Char) : Bool := '0' ≤ c && c ≤ '9'

/-- The number that digits spell, behind what is already read. -/
def digitsFrom (value : Nat) : List Char → Nat
  | [] => value
  | c :: rest => digitsFrom (value * 10 + (c.toNat - 48)) rest

/-- The integer that digits without loose zeros spell. -/
def plainInt? (chars : List Char) : Option Int :=
  let negative := chars.head? == some '-'
  let digits := if negative then chars.drop 1 else chars
  if digits.isEmpty || !digits.all isPlainDigit then none
  else if digits.head? == some '0' && digits.length != 1 then none
  else
    let value : Int := digitsFrom 0 digits
    some (if negative then -value else value)

/-- The digits without the zeros in front, of which one stays where no other digit follows. -/
def dropZeros (chars : List Char) : Option (List Char) :=
  match chars with
  | '0' :: _ =>
    match chars.dropWhile fun c => c == '0' || c == '_' with
    | [] => some [chars.getLast?.getD '0']
    | '.' :: rest => some ('0' :: '.' :: rest)
    | c :: rest => if isPlainDigit c then some (c :: rest) else none
  | c :: _ => if isPlainDigit c then some chars else none
  | [] => none

/-- The digits without a point that only zeros follow. -/
def dropPoint (chars : List Char) : List Char :=
  let whole := chars.takeWhile (· != '.')
  if (chars.drop (whole.length + 1)).all (· == '0') then whole else chars

/-- Two marks stand side by side. -/
def hasDoubleMark : List Char → Bool
  | '_' :: '_' :: _ => true
  | _ :: rest => hasDoubleMark rest
  | [] => false

/-- The digits without the marks between them; marks elsewhere stay. -/
def dropMarks (chars : List Char) : List Char :=
  if chars.head? == some '_' || chars.getLast? == some '_' || hasDoubleMark chars then chars
  else chars.filter (· != '_')

/-- The integer that a text spells: with a sign, zeros in front, marks between digits, and a point before zeros. -/
def looseInt? (chars : List Char) : Option Int := do
  let (negative, digits) ←
    match chars with
    | '+' :: rest => some (false, rest)
    | '-' :: rest => some (true, rest)
    | rest => some (false, rest)
  let value ← plainInt? (dropMarks (dropPoint (← dropZeros digits)))
  return if negative then -value else value

/-- The longest integer that is read from a text. -/
def lengthLimit : Nat := 4300

/-- Reads the integer that a text spells. -/
def intOfText (s : String) : Reading Int :=
  let chars := trimSpaces s.toList
  match plainInt? chars with
  | some i => if lengthLimit < chars.length then refuse .oversized else .ok i
  | none =>
    match looseInt? chars with
    | some i => .ok i
    | none => refuse .unreadableInt

/-- Reads an integer. -/
def int (d : Data) : Reading Int :=
  match d with
  | .int i => .ok i
  | .bool b => .ok (if b then 1 else 0)
  | .float x => intOfFloat x
  | .nan _ => refuse .notFinite
  | d =>
    (spelling? .unreadableInt d).check fun spelling =>
      match spelling with
      | none => refuse .notInt
      | some s => intOfText s

/-- The double that plain characters without marks spell. -/
def plainFloat? (chars : List Char) : Option Float :=
  if chars.all fun c => 32 < c.toNat && c.toNat < 127 && c != '_' then Decimal.readFloat? (String.ofList chars)
  else none

/-- Reads the double that a text spells. -/
def floatOfText (s : String) : Reading Float :=
  match plainFloat? (trimSpaces s.toList) with
  | some x => .ok x
  | none =>
    match if s.toList.contains '_' then plainFloat? (dropMarks s.toList) else none with
    | some x => .ok x
    | none => refuse .unreadableFloat

/-- Reads a double. -/
def float (d : Data) : Reading Float :=
  match d with
  | .float x => .ok x
  | .nan _ => .ok Decimal.missingNumber
  | .bool b => .ok (if b then 1.0 else 0.0)
  | .int i =>
    match Number.floatOfInt i with
    | .ok x => .ok x
    | .error _ => refuse .notFloat
  | d =>
    (spelling? .unreadableFloat d).check fun spelling =>
      match spelling with
      | none => refuse .notFloat
      | some s => floatOfText s

/-- Reads one of a few words. -/
def oneOf {α : Type} (all : List α) (name : α → String) (d : Data) : Reading α :=
  match d with
  | .str s =>
    if isWhole s then
      match all.find? fun a => name a == s with
      | some a => .ok a
      | none => refuse (.notAmong (all.map name))
    else refuse .unreadableText
  | _ => refuse (.notAmong (all.map name))

/-- Reads the name of a member of a fixed family. -/
def member {α : Type} (all : List α) (name : α → String) (d : Data) : Reading α :=
  let found? :=
    match text d with
    | .ok s => all.find? fun a => name a == s
    | _ => none
  match found? with
  | some a => .ok a
  | none => refuse (.notMember (all.map name))

/-- Reads a value, unless there is nothing. -/
def optional {α : Type} (read : Data → Reading α) (d : Data) : Reading (Option α) :=
  match d with
  | .null => .ok none
  | d => (read d).map some

end WorkflowEngine.Reading
