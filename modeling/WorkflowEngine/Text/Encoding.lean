import WorkflowEngine.Fault

/-!
# Bytes of texts

A text is encoded in bytes, except for lone halves of surrogate pairs, and bytes are spelled as plain letters.
-/

/-!
## Texts that cannot be encoded

A lone half of a surrogate pair has no bytes.  The fault names the first run of such halves.
-/

namespace WorkflowEngine.Text

/-- The first run of characters that cannot be encoded: where it starts, and the run. -/
def unencodable? (chars : List Char) : Option (Nat × List Char) :=
  let sound (c : Char) : Bool := (Surrogate.half? c).isNone
  match chars.dropWhile sound with
  | [] => none
  | rest => some ((chars.takeWhile sound).length, rest.takeWhile fun c => !sound c)

/-- Why a text cannot be encoded, if it cannot. -/
def encodingFault? (chars : List Char) : Option Fault :=
  match unencodable? chars with
  | some (place, [c]) =>
    some (.other .encoding ("'utf-8' codec can't encode character '" ++
      String.ofList (numericEscape (codeOfChar c)) ++ "' in position " ++ toString place ++
      ": surrogates not allowed"))
  | some (place, run) =>
    some (.other .encoding ("'utf-8' codec can't encode characters in position " ++ toString place ++ "-" ++
      toString (place + run.length - 1) ++ ": surrogates not allowed"))
  | none => none

end WorkflowEngine.Text

/-!
## Base 64

Three bytes are written as four letters of six bits each; one or two bytes left over are filled up
with zero bits and marked by equals signs.
-/

namespace WorkflowEngine.Text.Base64

/-- The letter for six bits. -/
def letter (value : Nat) : Char :=
  if value < 26 then Char.ofNat (65 + value)
  else if value < 52 then Char.ofNat (71 + value)
  else if value < 62 then Char.ofNat (value - 4)
  else if value == 62 then '+' else '/'

/-- The letter at a place of a number of 24 bits, counted from the front. -/
def letterAt (value place : Nat) : Char :=
  letter (value / Nat.pow 64 (3 - place) % 64)

/-- The letters of the bytes. -/
def encodeChars : List UInt8 → List Char
  | a :: b :: c :: rest =>
    let value := a.toNat * 65536 + b.toNat * 256 + c.toNat
    letterAt value 0 :: letterAt value 1 :: letterAt value 2 :: letterAt value 3 :: encodeChars rest
  | [a, b] =>
    let value := a.toNat * 65536 + b.toNat * 256
    [letterAt value 0, letterAt value 1, letterAt value 2, '=']
  | [a] =>
    let value := a.toNat * 65536
    [letterAt value 0, letterAt value 1, '=', '=']
  | [] => []

/-- The bytes in base 64. -/
def encode (bytes : List UInt8) : String :=
  String.ofList (encodeChars bytes)

end WorkflowEngine.Text.Base64

/-!
## Bytes as text

Well formed sequences give their characters.  Of an ill formed one the longest start of some well
formed sequence gives a single replacement character, and reading goes on behind it.
-/

namespace WorkflowEngine.Text.Utf8

/-- The character that stands for bytes that are no text. -/
def replacement : Char := Char.ofNat 0xfffd

/-- A byte that continues a sequence. -/
def isContinuation (byte : UInt8) : Bool :=
  0x80 ≤ byte.toNat && byte.toNat < 0xc0

/-- The six bits of a continuation. -/
def continuationBits (byte : UInt8) : Nat :=
  byte.toNat - 0x80

/-- What a first byte announces: the bits it holds, the number of bytes to follow, and the range of the next byte. -/
def lead? (byte : UInt8) : Option (Nat × Nat × Nat × Nat) :=
  let b := byte.toNat
  if b < 0xc2 then none
  else if b < 0xe0 then some (b - 0xc0, 1, 0x80, 0xbf)
  else if b == 0xe0 then some (0, 2, 0xa0, 0xbf)
  else if b == 0xed then some (0xd, 2, 0x80, 0x9f)
  else if b < 0xf0 then some (b - 0xe0, 2, 0x80, 0xbf)
  else if b == 0xf0 then some (0, 3, 0x90, 0xbf)
  else if b < 0xf4 then some (b - 0xf0, 3, 0x80, 0xbf)
  else if b == 0xf4 then some (4, 3, 0x80, 0x8f)
  else none

/-- A sequence under way: the bits so far, the bytes still due, and the range of the next one. -/
structure Pending where
  bits : Nat
  due : Nat
  low : Nat
  high : Nat

/-- Reads the byte that opens a sequence: a character at once, or what is pending after it. -/
def openSequence (byte : UInt8) : Char ⊕ Pending :=
  if byte.toNat < 0x80 then .inl (Char.ofNat byte.toNat)
  else
    match lead? byte with
    | some (bits, due, low, high) => .inr ⟨bits, due, low, high⟩
    | none => .inl replacement

/-- The characters of the bytes, with what is pending before them; those done stand reversed. -/
def decodeFrom (pending : Option Pending) (done : List Char) : List UInt8 → List Char
  | [] =>
    match pending with
    | some _ => (replacement :: done).reverse
    | none => done.reverse
  | byte :: rest =>
    match pending with
    | none =>
      match openSequence byte with
      | .inl c => decodeFrom none (c :: done) rest
      | .inr next => decodeFrom (some next) done rest
    | some p =>
      if p.low ≤ byte.toNat && byte.toNat ≤ p.high then
        let bits := p.bits * 64 + continuationBits byte
        if p.due ≤ 1 then decodeFrom none (Char.ofNat bits :: done) rest
        else decodeFrom (some ⟨bits, p.due - 1, 0x80, 0xbf⟩) done rest
      else
        match openSequence byte with
        | .inl c => decodeFrom none (c :: replacement :: done) rest
        | .inr next => decodeFrom (some next) (replacement :: done) rest

/-- The text of the bytes. -/
def decode (bytes : List UInt8) : String :=
  String.ofList (decodeFrom none [] bytes)

/-- The bytes of a text. -/
def encode (text : String) : List UInt8 :=
  text.toUTF8.toList

/-- The text of bytes all of whose sequences are well formed. -/
def decodeWhole? (bytes : List UInt8) : Option String :=
  let text := decode bytes
  if encode text == bytes then some text else none

end WorkflowEngine.Text.Utf8
