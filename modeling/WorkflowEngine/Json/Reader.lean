import WorkflowEngine.Data.Basic
import WorkflowEngine.Decimal.Numeral
import WorkflowEngine.Text.Surrogate

/-!
# Reading JSON

A document is read into data: objects become dictionaries in written order, where a repeated key keeps
its first place and its last value.  Besides the standard there are the words for infinities and the
missing number.  A document that cannot be read is refused with a cause and the position of the first
character that does not fit.
-/

namespace WorkflowEngine.Json

/-- Why a document cannot be read. -/
inductive Cause where
  | byteOrderMark
  | extraText
  | noValue
  | noKey
  | noColon
  | noComma
  | openString
  | controlCharacter
  | unknownEscape
  | shortEscape
  | overlongInteger
  | deepArray
  | deepObject
deriving Repr, DecidableEq, Inhabited

/-- A refusal: its cause, and how many characters are left where it arises. -/
structure Refusal where
  cause : Cause
  left : Nat
deriving Repr, DecidableEq, Inhabited

/-- Refuses the document at the given characters. -/
def refuse {α : Type} (cause : Cause) (chars : List Char) : Except Refusal α :=
  .error ⟨cause, chars.length⟩

/-- A blank between the parts of a document. -/
def isSpace (c : Char) : Bool :=
  c == ' ' || c == '\t' || c == '\n' || c == '\r'

/-- What follows the blanks. -/
def skipSpace (chars : List Char) : List Char :=
  chars.dropWhile isSpace

/-- The character of a short escape. -/
def shortEscape? : Char → Option Char
  | '"' => some '"'
  | '\\' => some '\\'
  | '/' => some '/'
  | 'b' => some (Char.ofNat 8)
  | 'f' => some (Char.ofNat 12)
  | 'n' => some '\n'
  | 'r' => some '\r'
  | 't' => some '\t'
  | _ => none

/-- The code that four digits spell, with what follows them. -/
def takeCode? : List Char → Option (Nat × List Char)
  | a :: b :: c :: d :: rest =>
    match Decimal.digitInBase? 16 a, Decimal.digitInBase? 16 b, Decimal.digitInBase? 16 c,
      Decimal.digitInBase? 16 d with
    | some a, some b, some c, some d => some (((a * 16 + b) * 16 + c) * 16 + d, rest)
    | _, _, _, _ => none
  | _ => none

/-- The second half of a surrogate pair as another escape, with what follows it. -/
def takeTrailing? : List Char → Option (Nat × List Char)
  | '\\' :: 'u' :: rest =>
    match takeCode? rest with
    | some (code, rest) =>
      if Text.Surrogate.isTrailing code && !rest.isEmpty then some (code, rest) else none
    | none => none
  | _ => none

/-- The character of a numeric escape, whose digits come next, with what follows it. -/
def takeEscapedCode? (chars : List Char) : Option (Char × List Char) :=
  match takeCode? chars with
  | none => none
  | some (code, rest) =>
    if Text.Surrogate.isLeading code then
      match takeTrailing? rest with
      | some (trailing, rest) => some (Char.ofNat (Text.Surrogate.join code trailing), rest)
      | none => some (Text.charOfCode code, rest)
    else some (Text.charOfCode code, rest)

/-- Reads a string behind its opening quote; `opening` are the characters from that quote on. -/
def readString (opening : List Char) : Nat → List Char → List Char → Except Refusal (String × List Char)
  | 0, _, _ => refuse .openString opening
  | _, _, [] => refuse .openString opening
  | _ + 1, done, '"' :: rest => .ok (String.ofList done.reverse, rest)
  | fuel + 1, done, '\\' :: rest =>
    match rest with
    | [] => refuse .openString opening
    | 'u' :: digits =>
      match takeEscapedCode? digits with
      | some (c, rest) =>
        if rest.isEmpty then refuse .shortEscape ('u' :: digits)
        else readString opening fuel (c :: done) rest
      | none => refuse .shortEscape ('u' :: digits)
    | c :: behind =>
      match shortEscape? c with
      | some c => readString opening fuel (c :: done) behind
      | none => refuse .unknownEscape ('\\' :: rest)
  | fuel + 1, done, c :: rest =>
    if c.toNat < 32 then refuse .controlCharacter (c :: rest)
    else readString opening fuel (c :: done) rest

/-- The plain digits in front, in reverse, with what follows them. -/
def takeDigits (done : List Char) : List Char → List Char × List Char
  | c :: rest => if c.isDigit then takeDigits (c :: done) rest else (done, c :: rest)
  | [] => (done, [])

/-- The value of digits that stand reversed. -/
def digitsValue (reversed : List Char) : Nat :=
  reversed.reverse.foldl (fun value c => value * 10 + (c.toNat - 48)) 0

/-- The places behind a point, if there are any. -/
def takePlaces : List Char → Option (List Char × List Char)
  | '.' :: rest =>
    match takeDigits [] rest with
    | ([], _) => none
    | found => some found
  | _ => none

/-- A written exponent, if there is one. -/
def takeExponent : List Char → Option (Int × List Char)
  | mark :: rest =>
    if mark == 'e' || mark == 'E' then
      let (negative, digits) := Decimal.takeSign rest
      match takeDigits [] digits with
      | ([], _) => none
      | (found, rest) =>
        let value := Int.ofNat (digitsValue found)
        some (if negative then -value else value, rest)
    else none
  | [] => none

/-- Reads a number; `start` are the characters from its sign on. -/
def readNumber (start : List Char) : Except Refusal (Data × List Char) :=
  let (negative, chars) :=
    match start with
    | '-' :: rest => (true, rest)
    | rest => (false, rest)
  let whole? :=
    match chars with
    | '0' :: rest => some (['0'], rest)
    | c :: rest => if c.isDigit then some (takeDigits [c] rest) else none
    | [] => none
  match whole? with
  | none => refuse .noValue start
  | some (whole, rest) =>
    let places? := takePlaces rest
    let (places, rest) := places?.getD ([], rest)
    let exponent? := takeExponent rest
    let (exponent, rest) := exponent?.getD (0, rest)
    if places?.isNone && exponent?.isNone then
      if Decimal.digitLimit < whole.length then refuse .overlongInteger start
      else
        let value := Int.ofNat (digitsValue whole)
        .ok (.int (if negative then -value else value), rest)
    else
      let value := digitsValue (places ++ whole)
      .ok (.float (Decimal.floatOfDecimal negative value (exponent - Int.ofNat places.length)), rest)

/-- What follows a word, if it stands in front. -/
def dropWord? : List Char → List Char → Option (List Char)
  | [], rest => some rest
  | w :: word, c :: rest => if w == c then dropWord? word rest else none
  | _ :: _, [] => none

/-- The words that stand for values. -/
def words : List (String × Data) :=
  [("null", .null), ("true", .bool true), ("false", .bool false), ("NaN", .nan 0),
   ("Infinity", .float Decimal.infinity), ("-Infinity", .float (-Decimal.infinity))]

/-- The value of a word in front, with what follows it. -/
def readWord? (chars : List Char) : Option (Data × List Char) :=
  words.findSome? fun word => (dropWord? word.1.toList chars).map fun rest => (word.2, rest)

/-- Sets a key among entries that stand reversed; a key that is there keeps its place. -/
def setKey (entries : List (Data × Data)) (key : String) (value : Data) : List (Data × Data) :=
  if entries.any fun entry => entry.1.str? == some key then
    entries.map fun entry => if entry.1.str? == some key then (entry.1, value) else entry
  else (.str key, value) :: entries

/-- How many containers may lie inside each other. -/
def nestingLimit : Nat := 960

mutual

/-- Reads a value; the fuel bounds the characters still to be read, and the room the containers still to be opened. -/
def readValue : Nat → Nat → List Char → Except Refusal (Data × List Char)
  | 0, _, chars => refuse .noValue chars
  | fuel + 1, room, chars =>
    match chars with
    | '"' :: rest =>
      (readString chars chars.length [] rest).map fun (s, rest) => (.str s, rest)
    | '\x7b' :: rest =>
      match room with
      | 0 => refuse .deepObject chars
      | room + 1 =>
        match skipSpace rest with
        | '\x7d' :: rest => .ok (.dict [], rest)
        | rest => readEntries fuel room [] rest
    | '[' :: rest =>
      match room with
      | 0 => refuse .deepArray chars
      | room + 1 =>
        match skipSpace rest with
        | ']' :: rest => .ok (.list [], rest)
        | rest => readItems fuel room [] rest
    | _ =>
      match readWord? chars with
      | some found => .ok found
      | none => readNumber chars

/-- Reads the items of an array behind those already read, which stand reversed. -/
def readItems : Nat → Nat → List Data → List Char → Except Refusal (Data × List Char)
  | 0, _, _, chars => refuse .noValue chars
  | fuel + 1, room, done, chars =>
    match readValue fuel room chars with
    | .error r => .error r
    | .ok (item, rest) =>
      match skipSpace rest with
      | ']' :: rest => .ok (.list (item :: done).reverse, rest)
      | ',' :: rest => readItems fuel room (item :: done) (skipSpace rest)
      | rest => refuse .noComma rest

/-- Reads the entries of an object behind those already read, which stand reversed. -/
def readEntries : Nat → Nat → List (Data × Data) → List Char → Except Refusal (Data × List Char)
  | 0, _, _, chars => refuse .noKey chars
  | fuel + 1, room, done, chars =>
    match chars with
    | '"' :: rest =>
      match readString chars chars.length [] rest with
      | .error r => .error r
      | .ok (key, rest) =>
        match skipSpace rest with
        | ':' :: rest =>
          match readValue fuel room (skipSpace rest) with
          | .error r => .error r
          | .ok (value, rest) =>
            let done := setKey done key value
            match skipSpace rest with
            | '\x7d' :: rest => .ok (.dict done.reverse, rest)
            | ',' :: rest => readEntries fuel room done (skipSpace rest)
            | rest => refuse .noComma rest
        | rest => refuse .noColon rest
    | chars => refuse .noKey chars

end

/-- Reads a whole document. -/
def readChars (chars : List Char) : Except Refusal Data :=
  match chars with
  | c :: _ =>
    if c.toNat == 0xfeff then refuse .byteOrderMark chars
    else
      match readValue (2 * chars.length + 2) nestingLimit (skipSpace chars) with
      | .error r => .error r
      | .ok (value, rest) =>
        match skipSpace rest with
        | [] => .ok value
        | rest => refuse .extraText rest
  | [] => refuse .noValue chars

/-- Reads a whole text. -/
def read (text : String) : Except Refusal Data :=
  readChars text.toList

/-- The position at which a document of a given length is refused. -/
def Refusal.position (r : Refusal) (length : Nat) : Nat :=
  length - r.left

end WorkflowEngine.Json
