import WorkflowEngine.Call.Arguments
import WorkflowEngine.Number.Basic
import WorkflowEngine.Text.Encoding
import WorkflowEngine.Value.Container

/-!
# Conversions

A type is called to make a value of it: a text, a number or a truth value from another value, or a
container from the items of another one.
-/

namespace WorkflowEngine.Conversion

open Eval

/-- The integer of a value that stands for an index. -/
def indexOf (v : Value) : Eval Int :=
  match v.int? with
  | some i => pure i
  | none => fail (.typed ("'" ++ v.kindOf.name ++ "' object cannot be interpreted as an integer"))

/-- The names of the encodings that are known, in small letters. -/
def isUtf8 (name : String) : Bool :=
  ["utf-8", "utf8", "utf_8", "u8"].contains name.toLower

/-- The characters of bytes that stand for themselves. -/
def plainBytes (bs : List UInt8) : String :=
  String.ofList (bs.map fun b => Char.ofNat b.toNat)

/-- The text of bytes in a named encoding. -/
def decodeBytes (bs : List UInt8) (encoding : String) : Except Fault String :=
  let name := encoding.toLower
  if isUtf8 name then
    let text := Text.Utf8.decode bs
    if Text.Utf8.encode text == bs then .ok text
    else
      let place := (bs.takeWhile fun b => b.toNat < 128).length
      let byte := (bs[place]?).getD 0
      .error (.valued ("'utf-8' codec can't decode byte 0x" ++ String.ofList (Text.hexDigits 2 byte.toNat) ++
        " in position " ++ toString place ++ ": invalid start byte"))
  else if ["latin-1", "latin1", "latin_1", "iso-8859-1", "l1"].contains name then .ok (plainBytes bs)
  else if ["ascii", "us-ascii"].contains name then
    let place := (bs.takeWhile fun b => b.toNat < 128).length
    match bs[place]? with
    | none => .ok (plainBytes bs)
    | some byte =>
      .error (.valued ("'ascii' codec can't decode byte 0x" ++ String.ofList (Text.hexDigits 2 byte.toNat) ++
        " in position " ++ toString place ++ ": ordinal not in range(128)"))
  else .error (.valued ("unknown encoding: " ++ encoding))

/-- A parameter that has to be a text if it is given. -/
def optionalText (routine parameter : String) : Option Value → Eval (Option String)
  | none => pure none
  | some (.str s) => pure (some s)
  | some v =>
    fail (.typed (routine ++ "() argument '" ++ parameter ++ "' must be str, not " ++
      (if v == .null then "None" else v.kindOf.name)))

/-- A text from another value. -/
def toText (a : Arguments) : Eval Value := do
  match ← a.bind "str" 0 ["object", "encoding", "errors"] with
  | [object, encoding, errors] =>
    let encoding ← optionalText "str" "encoding" encoding
    let errors ← optionalText "str" "errors" errors
    match object with
    | none => return .str ""
    | some v =>
      if encoding.isNone && errors.isNone then return .str (← text v)
      else
        match v with
        | .bytes bs => return .str (← lift (decodeBytes bs (encoding.getD "utf-8")))
        | .str _ => fail (.typed "decoding str is not supported")
        | other =>
          fail (.typed ("decoding to str: need a bytes-like object, " ++ other.kindOf.name ++ " found"))
  | _ => return .str ""

/-- The integer that a text spells in a base; the value is shown if it spells none. -/
def parseInt (base : Nat) (spelled : String) (v : Value) : Eval Value := do
  match Decimal.readInt? base spelled with
  | some i =>
    let powerOfTwo := [2, 4, 8, 16, 32].contains base
    match Decimal.overlongDigits? spelled with
    | some count =>
      if powerOfTwo || base == 0 then return .int i
      else fail (Number.overlong count)
    | none => return .int i
  | none => fail (Number.notAnInt base (← source v))

/-- An integer from another value. -/
def toInt (a : Arguments) : Eval Value := do
  match ← a.bind "int" 1 ["", "base"] with
  | [none, none] => return .int 0
  | [none, some _] => fail (.typed "int() missing string argument")
  | [some v, none] =>
    match v with
    | .str s => parseInt 10 s v
    | .bytes bs => parseInt 10 (plainBytes bs) v
    | .float x => return .int (← lift (Number.truncate x))
    | .nan _ => return .int (← lift (Number.truncate Decimal.missingNumber))
    | v =>
      match v.int? with
      | some i => return .int i
      | none =>
        fail (.typed ("int() argument must be a string, a bytes-like object or a real number, not '" ++
          v.kindOf.name ++ "'"))
  | [some v, some b] =>
    let base ← indexOf b
    if base < 0 || base == 1 || 36 < base then
      fail (.valued "int() base must be >= 2 and <= 36, or 0")
    else
      match v with
      | .str s => parseInt base.toNat s v
      | .bytes bs => parseInt base.toNat (plainBytes bs) v
      | _ => fail (.typed "int() can't convert non-string with explicit base")
  | _ => return .int 0

/-- A double from another value. -/
def toFloat (a : Arguments) : Eval Value := do
  match ← a.optional "float" with
  | none => return .float 0.0
  | some v =>
    let parse (spelled : String) : Eval Value := do
      match Decimal.readFloat? spelled with
      | some x => Eval.float x
      | none => fail (Number.notAFloat (← source v))
    match v with
    | .str s => parse s
    | .bytes bs => parse (plainBytes bs)
    | .nan m => return .nan m
    | v =>
      match v.number? with
      | some (.int i) => return .float (← lift (Number.floatOfInt i))
      | some (.float x) => Eval.float x
      | _ =>
        fail (.typed ("float() argument must be a string or a real number, not '" ++ v.kindOf.name ++ "'"))

/-- A truth value from another value. -/
def toBool (a : Arguments) : Eval Value := do
  match ← a.optional "bool" with
  | none => return .bool false
  | some v => return .bool (← isTrue v)

/-- A list of the items of a value. -/
def toList (a : Arguments) : Eval Value := do
  match ← a.optional "list" with
  | none => newList []
  | some v => newList (← iterate v)

/-- A tuple of the items of a value. -/
def toTuple (a : Arguments) : Eval Value := do
  match ← a.optional "tuple" with
  | none => newTuple []
  | some (.tuple t) => return .tuple t
  | some v => newTuple (← iterate v)

/-- A set of the items of a value. -/
def toSet (a : Arguments) : Eval Value := do
  match ← a.optional "set" with
  | none => newSet []
  | some v => setOf (← iterate v)

/-- The items of a value, if it has any. -/
def itemsOf? (v : Value) : Eval (Option (List Value)) := do
  match v with
  | .str _ => return some (← iterate v)
  | .bytes _ => return some (← iterate v)
  | .list a => return some (← items a)
  | .tuple a => return some (← items a)
  | .set a => return some (← items a)
  | .dict a => return some ((← entries a).map Prod.fst)
  | _ => return none

/-- Adds pairs to entries, one after the other. -/
def addPairs (index : Nat) (done : List (Value × Value)) : List Value → Eval (List (Value × Value))
  | [] => pure done
  | pair :: rest => do
    match ← itemsOf? pair with
    | none =>
      fail (.typed ("cannot convert dictionary update sequence element #" ++ toString index ++
        " to a sequence"))
    | some [key, value] =>
      requireKey key
      addPairs (index + 1) ((← heap).setEntry done key value) rest
    | some other =>
      fail (.valued ("dictionary update sequence element #" ++ toString index ++ " has length " ++
        toString other.length ++ "; 2 is required"))

/-- The entries with those of another dictionary, or with pairs, added. -/
def extend (done : List (Value × Value)) (v : Value) : Eval (List (Value × Value)) := do
  match v with
  | .dict a => return (← heap).setEntries done (← entries a)
  | v => addPairs 0 done (← iterate v)

/-- A dictionary from another one or from pairs, with named values added. -/
def toDict (a : Arguments) : Eval Value := do
  let start ←
    match a.positional with
    | [] => pure []
    | [v] => extend [] v
    | values =>
      fail (.typed ("dict expected at most 1 argument, got " ++ toString values.length))
  newDict ((← heap).setEntries start (a.named.map fun entry => (.str entry.1, entry.2)))

/-- Calls a type. -/
def make (k : Kind) (a : Arguments) : Eval Value :=
  match k with
  | .str => toText a
  | .int => toInt a
  | .float => toFloat a
  | .bool => toBool a
  | .list => toList a
  | .tuple => toTuple a
  | .set => toSet a
  | .dict => toDict a
  | k => fail (.typed ("cannot create '" ++ k.name ++ "' instances"))

end WorkflowEngine.Conversion
