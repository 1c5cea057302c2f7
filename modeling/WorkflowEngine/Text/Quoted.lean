import WorkflowEngine.Decimal.Numeral
import WorkflowEngine.Text.Surrogate
import WorkflowEngine.Text.Unicode.Printable

/-!
# Quoted text

Quoted text stands between single quotes, or between double quotes when it holds a single quote and
no double one.  A backslash, the enclosing quote and every character without a visible form are
written as escapes.
-/

/-!
## Digits in base sixteen

Codes and bytes are spelled by digits in base sixteen, two of them for each byte.
-/

namespace WorkflowEngine.Text

/-- The digit with a value below sixteen, in small letters. -/
def hexDigit (value : Nat) : Char :=
  if value < 10 then Char.ofNat (48 + value) else Char.ofNat (87 + value)

/-- The last digits of a number in base sixteen, as many as asked for. -/
def hexDigits (count value : Nat) : List Char :=
  (List.range count).reverse.map fun place => hexDigit (value / Nat.pow 16 place % 16)

/-- The digits that spell bytes. -/
def hexOfBytes (bytes : List UInt8) : String :=
  String.ofList (bytes.flatMap fun byte => hexDigits 2 byte.toNat)

/-- The value of a digit, where any other character counts as zero. -/
def hexValue (c : Char) : Nat :=
  (Decimal.digitInBase? 16 c).getD 0

/-- The bytes that pairs of digits spell. -/
def bytesOfHex : List Char → List UInt8
  | a :: b :: rest => UInt8.ofNat (hexValue a * 16 + hexValue b) :: bytesOfHex rest
  | _ => []

end WorkflowEngine.Text

/-! ## Quoted text -/

namespace WorkflowEngine.Text

/-- The shortest of the three numeric escapes that can hold the code. -/
def numericEscape (code : Nat) : List Char :=
  if code < 0x100 then '\\' :: 'x' :: hexDigits 2 code
  else if code < 0x10000 then '\\' :: 'u' :: hexDigits 4 code
  else '\\' :: 'U' :: hexDigits 8 code

/-- A character between quotes of one kind. -/
def quoteChar (quote c : Char) : List Char :=
  if c == quote || c == '\\' then ['\\', c]
  else if c == '\n' then ['\\', 'n']
  else if c == '\r' then ['\\', 'r']
  else if c == '\t' then ['\\', 't']
  else if Unicode.isPrintable c then [c]
  else numericEscape (codeOfChar c)

/-- The quotes that go around the characters. -/
def quoteFor (chars : List Char) : Char :=
  if chars.contains '\'' && !chars.contains '"' then '"' else '\''

/-- The text between quotes. -/
def quoted (text : String) : String :=
  let chars := text.toList
  let quote := quoteFor chars
  String.ofList (quote :: (chars.flatMap (quoteChar quote) ++ [quote]))

/-- A byte between quotes of one kind. -/
def quoteByte (quote : Char) (byte : UInt8) : List Char :=
  let c := Char.ofNat byte.toNat
  if c == quote || c == '\\' then ['\\', c]
  else if c == '\n' then ['\\', 'n']
  else if c == '\r' then ['\\', 'r']
  else if c == '\t' then ['\\', 't']
  else if 32 ≤ byte.toNat && byte.toNat < 127 then [c]
  else '\\' :: 'x' :: hexDigits 2 byte.toNat

/-- The bytes between quotes, marked as bytes by the letter in front. -/
def quotedBytes (bytes : List UInt8) : String :=
  let quote := quoteFor (bytes.map fun byte => Char.ofNat byte.toNat)
  String.ofList ('b' :: quote :: (bytes.flatMap (quoteByte quote) ++ [quote]))

end WorkflowEngine.Text
