import WorkflowEngine.Decimal.Numeral
import WorkflowEngine.Expression.Lexer
import WorkflowEngine.Text.Surrogate

/-!
# What quoted literals denote

A backslash opens an escape.  An escape that is not known stands for itself, backslash included.
-/

namespace WorkflowEngine.Expression

/-- The number that exactly so many digits of base sixteen spell, and the rest. -/
def takeHex (value : Nat) : Nat → List Char → Option (Nat × List Char)
  | 0, rest => some (value, rest)
  | count + 1, c :: rest =>
    match Decimal.digitInBase? 16 c with
    | some digit => takeHex (value * 16 + digit) count rest
    | none => none
  | _ + 1, [] => none

/-- The number that at most so many digits of base eight spell, and the rest. -/
def takeOctal (value : Nat) : Nat → List Char → Nat × List Char
  | 0, rest => (value, rest)
  | count + 1, c :: rest =>
    match Decimal.digitInBase? 8 c with
    | some digit => takeOctal (value * 8 + digit) count rest
    | none => (value, c :: rest)
  | _ + 1, [] => (value, [])

/-- The code of a letter that stands for one control character or for itself. -/
def simpleEscape? : Char → Option Nat
  | '\\' => some 92
  | '\'' => some 39
  | '"' => some 34
  | 'a' => some 7
  | 'b' => some 8
  | 'f' => some 12
  | 'n' => some 10
  | 'r' => some 13
  | 't' => some 9
  | 'v' => some 11
  | _ => none

/-- How many digits of base sixteen follow the letter of an escape in text. -/
def textEscapeWidth? : Char → Option Nat
  | 'x' => some 2
  | 'u' => some 4
  | 'U' => some 8
  | _ => none

/-- How many digits of base sixteen follow the letter of an escape in bytes. -/
def bytesEscapeWidth? : Char → Option Nat
  | 'x' => some 2
  | _ => none

/-- Replaces the escapes; codes stand behind those already found, which stand reversed.  The fuel bounds the characters. -/
def unescapeFrom (width? : Char → Option Nat) (named : Bool) :
    Nat → List Nat → List Char → Option (List Nat)
  | 0, done, _ => some done.reverse
  | _ + 1, done, [] => some done.reverse
  | fuel + 1, done, '\\' :: c :: rest =>
    if c == '\n' then unescapeFrom width? named fuel done rest
    else
      match simpleEscape? c with
      | some code => unescapeFrom width? named fuel (code :: done) rest
      | none =>
        if (Decimal.digitInBase? 8 c).isSome then
          let (code, after) := takeOctal 0 3 (c :: rest)
          unescapeFrom width? named fuel (code :: done) after
        else
          match width? c with
          | some count =>
            match takeHex 0 count rest with
            | some (code, after) =>
              if 0x10ffff < code then none else unescapeFrom width? named fuel (code :: done) after
            | none => none
          | none =>
            if c == 'N' && named then none
            else unescapeFrom width? named fuel (c.toNat :: 92 :: done) rest
  | fuel + 1, done, c :: rest => unescapeFrom width? named fuel (c.toNat :: done) rest

/-- The characters that the inside of a text literal denotes. -/
def textOfLiteral (raw : Bool) (body : List Char) : Option (List Char) :=
  if raw then some body
  else
    (unescapeFrom textEscapeWidth? true (body.length + 1) [] body).map fun codes =>
      codes.map Text.charOfCode

/-- The bytes that the inside of a bytes literal denotes; only basic characters may stand in it. -/
def bytesOfLiteral (raw : Bool) (body : List Char) : Option (List UInt8) :=
  if body.any fun c => 128 ≤ c.toNat then none
  else if raw then some (body.map fun c => UInt8.ofNat c.toNat)
  else
    (unescapeFrom bytesEscapeWidth? false (body.length + 1) [] body).map fun codes =>
      codes.map fun code => UInt8.ofNat code

end WorkflowEngine.Expression
