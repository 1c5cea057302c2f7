import WorkflowEngine.Json.Writer
import WorkflowEngine.Text.Encoding

/-!
# Data for other programs

Only part of the data can be told to other programs.  Tuples and sets become arrays, bytes and complex
numbers become text, every key becomes text, and a number that is infinite or missing is left out.
What works only inside a run, such as a routine or a container that holds itself, has no such form.
-/

namespace WorkflowEngine.Json

/-- The fault of data that cannot be told. -/
def untold (what : String) : Fault :=
  .other .serialization ("Unable to serialize unknown type: " ++ what)

/-- A double written out by its shortest digits, without a place behind the point where it has none. -/
def plainFloat (x : Float) : List Char :=
  match Decimal.Dyadic.ofFloat? x with
  | none => if x.isNaN then ['N', 'a', 'N'] else Decimal.specialChars x
  | some d => Decimal.withSign d.negative (Decimal.positional (Decimal.shortest d))

/-- A complex number as text; a real part of zero is left out. -/
def complexText (re im : Float) : String :=
  let imaginary := plainFloat im ++ ['j']
  if re == 0.0 then String.ofList imaginary
  else String.ofList (plainFloat re ++ (if 0.0 ≤ im then ['+'] else []) ++ imaginary)

/-- A text all of whose characters can be encoded. -/
def wholeText (s : String) : Except Fault String :=
  match Text.encodingFault? s.toList with
  | some f => .error (untold f.message)
  | none => .ok s

/-- Bytes as text. -/
def textOfBytes (bytes : List UInt8) : Except Fault String :=
  match Text.Utf8.decodeWhole? bytes with
  | some s => .ok s
  | none => .error (.other .serialization "invalid utf-8 sequence")

mutual

/-- The text of a key; the keys inside a tuple are joined by commas. -/
def publishedKey (d : Data) : Except Fault String :=
  match d with
  | .null => .ok "None"
  | .bool b => .ok (if b then "true" else "false")
  | .int i => .ok (Decimal.intText i)
  | .float x => .ok (Decimal.floatText x)
  | .nan _ => .ok (Decimal.floatText Decimal.missingNumber)
  | .complex re im => .ok (complexText re im)
  | .str s => wholeText s
  | .bytes bytes => textOfBytes bytes
  | .tuple items =>
    match publishedKeys [] items with
    | .error f => .error f
    | .ok texts => .ok (",".intercalate texts)
  | other => .error (untold other.kindOf.name)

/-- The keys behind those already done, which stand reversed. -/
def publishedKeys (done : List String) : List Data → Except Fault (List String)
  | [] => .ok done.reverse
  | item :: rest =>
    match publishedKey item with
    | .error f => .error f
    | .ok text => publishedKeys (text :: done) rest

end

mutual

/-- Data in the form in which other programs are told it. -/
def published (d : Data) : Except Fault Data :=
  match d with
  | .null => .ok .null
  | .bool b => .ok (.bool b)
  | .int i => .ok (.int i)
  | .float x => .ok (if x.isFinite then .float x else .null)
  | .nan _ => .ok .null
  | .complex re im => .ok (.str (complexText re im))
  | .str s => (wholeText s).map .str
  | .bytes bytes => (textOfBytes bytes).map .str
  | .list items => publishedItems [] items
  | .tuple items => publishedItems [] items
  | .set items => publishedItems [] items
  | .dict entries => publishedEntries [] entries
  | .cycle _ => .error (.other .serialization "Circular reference detected (id repeated)")
  | other => .error (untold other.kindOf.name)

/-- An array of the items behind those already done, which stand reversed. -/
def publishedItems (done : List Data) : List Data → Except Fault Data
  | [] => .ok (.list done.reverse)
  | item :: rest =>
    match published item with
    | .error f => .error f
    | .ok d => publishedItems (d :: done) rest

/-- An object of the entries behind those already done, which stand reversed. -/
def publishedEntries (done : List (Data × Data)) : List (Data × Data) → Except Fault Data
  | [] => .ok (.dict done.reverse)
  | (key, value) :: rest =>
    match publishedKey key with
    | .error f => .error f
    | .ok name =>
      match published value with
      | .error f => .error f
      | .ok d => publishedEntries ((.str name, d) :: done) rest

end

end WorkflowEngine.Json
