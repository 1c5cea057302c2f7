import WorkflowEngine.Layout.Field
import WorkflowEngine.Text.Encoding

/-!
# Writing JSON

Data is written on one line.  Characters outside the printable plain ones become escapes, or only those
that have to be escaped.  Keys that are numbers, truth values or nothing become texts.  A value that JSON
does not have is written as its text, or refused; infinities and missing numbers have words of their own,
or are refused as well.
-/

namespace WorkflowEngine.Json

/-- A way to write JSON. -/
structure Style where
  /-- A value that JSON does not have is written as its text. -/
  lenient : Bool
  itemMark : String
  keyMark : String
  /-- Only plain characters are written as they are. -/
  plainOnly : Bool
  /-- A double that is no finite number is refused. -/
  finiteOnly : Bool
deriving Repr, DecidableEq, Inhabited

/-- Blanks behind commas and colons; every value is written. -/
def lenientStyle : Style := ⟨true, ", ", ": ", true, false⟩

/-- No blanks; every value is written. -/
def compactStyle : Style := ⟨true, ",", ":", true, false⟩

/-- No blanks, and all characters as they are; only what JSON has is written. -/
def strictStyle : Style := ⟨false, ",", ":", false, true⟩

/-- The escape of a code unit. -/
def unitEscape (unit : Nat) : List Char :=
  '\\' :: 'u' :: Text.hexDigits 4 unit

/-- A character inside a string. -/
def escapeChar (c : Char) : List Char :=
  if c == '"' then ['\\', '"']
  else if c == '\\' then ['\\', '\\']
  else if c == '\n' then ['\\', 'n']
  else if c == '\r' then ['\\', 'r']
  else if c == '\t' then ['\\', 't']
  else if c.toNat == 12 then ['\\', 'f']
  else if c.toNat == 8 then ['\\', 'b']
  else if 32 ≤ c.toNat && c.toNat < 127 then [c]
  else
    let code := Text.codeOfChar c
    if code < 0x10000 then unitEscape code
    else
      let offset := code - 0x10000
      unitEscape (0xd800 + offset / 0x400) ++ unitEscape (0xdc00 + offset % 0x400)

/-- The characters of a string, in front of those already done (which stand reversed). -/
def escapeChars (done : List Char) : List Char → List Char
  | [] => done.reverse
  | c :: rest => escapeChars ((escapeChar c).reverse ++ done) rest

/-- A string between double quotes. -/
def writeString (s : String) : String :=
  String.ofList ('"' :: (escapeChars [] s.toList ++ ['"']))

/-- A character inside a string that takes all characters but quotes, backslashes and controls. -/
def escapeControl (c : Char) : List Char :=
  if 127 ≤ c.toNat then [c] else escapeChar c

/-- A string between double quotes in a style. -/
def writeStringIn (style : Style) (s : String) : String :=
  if style.plainOnly then writeString s
  else String.ofList ('"' :: (s.toList.flatMap escapeControl ++ ['"']))

/-- A double; infinities and the missing number have words of their own. -/
def writeFloat (x : Float) : String :=
  if x.isNaN then "NaN"
  else if x.isInf then (if Decimal.isNegative x then "-Infinity" else "Infinity")
  else Decimal.floatText x

/-- A double in a style. -/
def writeFloatIn (style : Style) (x : Float) : Except Fault String :=
  if style.finiteOnly && !x.isFinite then .error (.valued "Out of range float values are not JSON compliant")
  else .ok (writeFloat x)

/-- An integer, unless it is too long. -/
def writeInt (i : Int) : Except Fault String :=
  if Decimal.digitLimit < Decimal.digitCount i.natAbs then .error .tooManyDigits
  else .ok (Decimal.intText i)

/-- The text of a key. -/
def keyText (style : Style) : Data → Except Fault String
  | .str s => .ok s
  | .null => .ok "null"
  | .bool b => .ok (if b then "true" else "false")
  | .int i => writeInt i
  | .float x => writeFloatIn style x
  | .nan _ => writeFloatIn style Decimal.missingNumber
  | other =>
    .error (.typed ("keys must be str, int, float, bool or None, not " ++ other.kindOf.name))

mutual

/-- A value in a style. -/
def writeIn (style : Style) (d : Data) : Except Fault String :=
  match d with
  | .null => .ok "null"
  | .bool b => .ok (if b then "true" else "false")
  | .int i => writeInt i
  | .float x => writeFloatIn style x
  | .nan _ => writeFloatIn style Decimal.missingNumber
  | .str s => .ok (writeStringIn style s)
  | .list items =>
    match writeItems style [] items with
    | .error f => .error f
    | .ok texts => .ok ("[" ++ style.itemMark.intercalate texts ++ "]")
  | .tuple items =>
    match writeItems style [] items with
    | .error f => .error f
    | .ok texts => .ok ("[" ++ style.itemMark.intercalate texts ++ "]")
  | .dict entries =>
    match writeEntries style [] entries with
    | .error f => .error f
    | .ok texts => .ok ("\x7b" ++ style.itemMark.intercalate texts ++ "\x7d")
  | .cycle _ => .error .circular
  | other =>
    if style.lenient then other.text?.map (writeStringIn style)
    else .error (.typed ("Object of type " ++ other.kindOf.name ++ " is not JSON serializable"))

/-- The items behind those already written, which stand reversed. -/
def writeItems (style : Style) (done : List String) : List Data → Except Fault (List String)
  | [] => .ok done.reverse
  | item :: rest =>
    match writeIn style item with
    | .error f => .error f
    | .ok text => writeItems style (text :: done) rest

/-- The entries behind those already written, which stand reversed. -/
def writeEntries (style : Style) (done : List String) : List (Data × Data) → Except Fault (List String)
  | [] => .ok done.reverse
  | (key, value) :: rest =>
    match keyText style key with
    | .error f => .error f
    | .ok name =>
      match writeIn style value with
      | .error f => .error f
      | .ok text => writeEntries style ((writeStringIn style name ++ style.keyMark ++ text) :: done) rest

end

/-- A document as it is sent, which has to be a text that can be encoded. -/
def writeStrict (d : Data) : Except Fault String :=
  match writeIn strictStyle d with
  | .error f => .error f
  | .ok text =>
    match Text.encodingFault? text.toList with
    | some f => .error f
    | none => .ok text

/-- A value with every part written. -/
def write (d : Data) : Except Fault String :=
  writeIn lenientStyle d

end WorkflowEngine.Json

/-!
## Plain text of values

Where a condition or a routine works on text, every value has a plain text: nothing is empty, truth
values are small words, containers are written as JSON, and all else shows its usual text.
-/

namespace WorkflowEngine.Data

/-- The plain text of a value. -/
def plain (d : Data) : Except Fault String :=
  match d with
  | .null => .ok ""
  | .bool b => .ok (if b then "true" else "false")
  | .list _ => Json.write d
  | .tuple _ => Json.write d
  | .dict _ => Json.write d
  | other => other.text?

end WorkflowEngine.Data
