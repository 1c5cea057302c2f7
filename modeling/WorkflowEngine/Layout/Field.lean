import WorkflowEngine.Decimal.Numeral
import WorkflowEngine.Layout.Spec
import WorkflowEngine.Number.Arithmetic

/-!
# Values in fields

Texts and numbers are written as a layout says.  A number is a sign, marks in front of the digits, the
digits, which may be grouped, and what follows them; zero padding that goes between sign and digits is
grouped with the digits.
-/

namespace WorkflowEngine.Layout

/-- The layout with a field that is filled out; what is longer still is longer than any template. -/
def Spec.bounded (s : Spec) : Spec :=
  { s with width := min s.width longest }

/-- Puts a text into a field of the layout's width. -/
def Spec.place (s : Spec) (head body : List Char) : List Char :=
  let count := s.width - (head.length + body.length)
  let filling (n : Nat) := List.replicate n s.fill
  match s.alignment with
  | .left => head ++ body ++ filling count
  | .right => filling count ++ head ++ body
  | .center => filling (count / 2) ++ head ++ body ++ filling (count - count / 2)
  | .inner => head ++ filling count ++ body

/-- A text in its field. -/
def Spec.text (s : Spec) (chars : List Char) : Except Fault (List Char) :=
  match s.presentation with
  | some 's' =>
    match s.sign with
    | some ' ' => .error (.valued "Space not allowed in string format specifier")
    | some _ => .error (.valued "Sign not allowed in string format specifier")
    | none =>
      if s.positiveZero then
        .error (.valued "Negative zero coercion (z) not allowed in string format specifier")
      else if s.alternate then
        .error (.valued "Alternate form (#) not allowed in string format specifier")
      else if s.alignment == .inner then
        .error (.valued "'=' alignment not allowed in string format specifier")
      else
        match s.precision with
        | some count => .ok (s.place [] (chars.take count))
        | none => .ok (s.place [] chars)
  | some c => unknownLetter c .str
  | none => .ok (s.place [] chars)

/-- The sign of a number that is shown. -/
def signChars (negative : Bool) (sign : Option Char) : List Char :=
  if negative then ['-']
  else
    match sign with
    | some '+' => ['+']
    | some ' ' => [' ']
    | _ => []

/-- Digits, given from the last one, in groups with a mark between them and zeros up to a width; the
fuel bounds the groups. -/
def groupFrom (size : Nat) (mark : Char) : Nat → Int → List Char → List Char → List Char
  | 0, _, done, digits => digits.reverse ++ done
  | fuel + 1, least, done, digits =>
    let count := min size (max (max digits.length least.toNat) 1)
    let group := digits.take count
    let zeros := List.replicate (count - group.length) '0'
    let done := zeros ++ group.reverse ++ done
    let rest := digits.drop count
    let least := least - Int.ofNat count
    if rest.isEmpty && least ≤ 0 then done
    else groupFrom size mark fuel (least - 1) (mark :: done) rest

/-- The digits of a number in groups, with zeros up to a width. -/
def groupDigits (grouping : Option Char) (size : Nat) (least : Nat) (digits : List Char) : List Char :=
  match grouping with
  | none => Decimal.padZeros least digits
  | some mark => groupFrom size mark (digits.length + least + 1) least [] digits.reverse

/-- A number in its field: what stands in front, the digits, and what follows. -/
def Spec.number (s : Spec) (size : Nat) (head digits tail : List Char) : List Char :=
  let least :=
    if s.fill == '0' && s.alignment == .inner then s.width - head.length - tail.length else 0
  let grouped := if digits.isEmpty then [] else groupDigits s.grouping size least digits
  s.place head (grouped ++ tail)

/-- The digits of a natural number in a base, in small letters. -/
def digitsIn (base value : Nat) : List Char :=
  if base == 10 then Decimal.digitChars value else Nat.toDigits base value

/-- The base that a letter names, and the mark of its alternate form. -/
def baseOf? : Char → Option (Nat × List Char)
  | 'd' => some (10, [])
  | 'n' => some (10, [])
  | 'b' => some (2, ['0', 'b'])
  | 'o' => some (8, ['0', 'o'])
  | 'x' => some (16, ['0', 'x'])
  | 'X' => some (16, ['0', 'X'])
  | _ => none

/-- An integer as the character that it names. -/
def Spec.character (s : Spec) (value : Int) : Except Fault (List Char) :=
  if s.sign.isSome then .error (.valued "Sign not allowed with integer format specifier 'c'")
  else if s.alternate then
    .error (.valued "Alternate form (#) not allowed with integer format specifier 'c'")
  else if value < -Int.ofNat (Nat.pow 2 63) || Int.ofNat (Nat.pow 2 63) ≤ value then
    .error (.other .overflow "Python int too large to convert to C long")
  else if value < 0 || 0x110000 ≤ value then
    .error (.other .overflow "%c arg not in range(0x110000)")
  else .ok (s.place [] [Text.charOfCode value.toNat])

/-- An integer in its field, by the letter of a base. -/
def Spec.integer (s : Spec) (value : Int) (base : Nat) (mark : List Char) (capital : Bool) :
    Except Fault (List Char) :=
  if base == 10 && Decimal.digitLimit < Decimal.digitCount value.natAbs then .error .tooManyDigits
  else
    let digits := digitsIn base value.natAbs
    let digits := if capital then digits.map Char.toUpper else digits
    let head := signChars (decide (value < 0)) s.sign ++ if s.alternate then mark else []
    .ok (s.number (if base == 10 then 3 else 4) head digits [])

/-- The written form of a finite magnitude or of a special double, without a sign. -/
def magnitudeText (x : Float) (letter : Option Char) (precision : Option Nat) (alternate : Bool) :
    List Char :=
  match Decimal.Dyadic.ofFloat? x with
  | none => if x.isNaN then ['n', 'a', 'n'] else ['i', 'n', 'f']
  | some d =>
    let places := precision.getD 6
    let point (chars : List Char) :=
      if alternate && !chars.contains '.' then chars ++ ['.'] else chars
    match letter with
    | some 'e' => Decimal.exponentialChars d places alternate
    | some 'f' => point (Decimal.fixedChars d places)
    | some _ =>
      let count := max places 1
      Decimal.generalChars d count count alternate
    | none =>
      match precision with
      | none => Decimal.magnitudeChars d
      | some places =>
        let count := max places 1
        let chars := Decimal.generalChars d count (Int.ofNat count - 1) alternate
        if chars.contains '.' || chars.contains 'e' then chars else chars ++ ['.', '0']

/-- All characters of a written number that are zero digits. -/
def showsZero (chars : List Char) : Bool :=
  (chars.takeWhile (· != 'e')).all fun c => c == '0' || c == '.'

/-- The digits in front of a written number, and what follows them. -/
def splitDigits (chars : List Char) : List Char × List Char :=
  (chars.takeWhile Char.isDigit, chars.dropWhile Char.isDigit)

/-- A double in its field. -/
def Spec.float (s : Spec) (x : Float) (kind : Kind) : Except Fault (List Char) :=
  let write (letter : Option Char) (capital : Bool) (x : Float) (percent : List Char) :
      Except Fault (List Char) :=
    let chars := magnitudeText x letter (s.precision.map (min longest)) s.alternate
    let chars := if capital then chars.map Char.toUpper else chars
    let negative := Decimal.isNegative x && !x.isNaN && !(s.positiveZero && showsZero chars)
    let (digits, tail) := splitDigits chars
    .ok (s.number 3 (signChars negative s.sign) digits (tail ++ percent))
  if s.precision.any fun p => precisionLimit < p then .error (.valued "precision too big")
  else
    match s.presentation with
    | none => write none false x []
    | some 'e' => write (some 'e') false x []
    | some 'E' => write (some 'e') true x []
    | some 'f' => write (some 'f') false x []
    | some 'F' => write (some 'f') true x []
    | some 'g' => write (some 'g') false x []
    | some 'n' => write (some 'g') false x []
    | some 'G' => write (some 'g') true x []
    | some '%' => write (some 'f') false (x * 100.0) ['%']
    | some c => unknownLetter c kind

/-- An integer in its field: as digits of a base, as a character or as a double. -/
def Spec.anyInteger (s : Spec) (value : Int) (kind : Kind) : Except Fault (List Char) :=
  let digits (base : Nat) (mark : List Char) (capital : Bool) : Except Fault (List Char) :=
    if s.precision.isSome then .error (.valued "Precision not allowed in integer format specifier")
    else if s.positiveZero then
      .error (.valued "Negative zero coercion (z) not allowed in integer format specifier")
    else if base == 0 then s.character value
    else s.integer value base mark capital
  match s.presentation with
  | none => digits 10 [] false
  | some 'c' => digits 0 [] false
  | some c =>
    match baseOf? c with
    | some (base, mark) => digits base mark (c == 'X')
    | none =>
      if ['e', 'E', 'f', 'F', 'g', 'G', '%'].contains c then
        match Number.floatOfInt value with
        | .error f => .error f
        | .ok x => s.float x kind
      else unknownLetter c kind

/-- A complex number in its field. -/
def Spec.complex (s : Spec) (re im : Float) : Except Fault (List Char) :=
  if s.fill == '0' then .error (.valued "Zero padding is not allowed in complex format specifier")
  else if s.alignment == .inner then
    .error (.valued "'=' alignment flag is not allowed in complex format specifier")
  else
    let bare : Spec := { s with fill := ' ', alignment := .left, width := 0 }
    let letters : List Char := ['e', 'E', 'f', 'F', 'g', 'G', 'n']
    if s.presentation.all fun c => letters.contains c then
      let skipped := s.presentation.isNone && re == 0.0 && !Decimal.isNegative re
      let part (spec : Spec) (x : Float) : Except Fault (List Char) :=
        (spec.float x .complex).map fun chars =>
          if s.presentation.isNone && s.precision.isNone then
            String.toList (if (String.ofList chars).endsWith ".0" then
              String.ofList (chars.take (chars.length - 2)) else String.ofList chars)
          else chars
      match part bare re, part (if skipped then bare else { bare with sign := some '+' }) im with
      | .ok first, .ok second =>
        let body :=
          if skipped then second ++ ['j']
          else if s.presentation.isNone then '(' :: (first ++ second ++ ['j', ')'])
          else first ++ second ++ ['j']
        .ok (s.place [] body)
      | .error f, _ => .error f
      | _, .error f => .error f
    else unknownLetter (s.presentation.getD ' ') .complex

end WorkflowEngine.Layout

namespace WorkflowEngine.Data

mutual

/-- An integer among the parts has more digits than may be written. -/
def isOverlong : Data → Bool
  | .int i => Decimal.digitLimit < Decimal.digitCount i.natAbs
  | .list items => anyOverlong items
  | .tuple items => anyOverlong items
  | .set items => anyOverlong items
  | .dict entries => anyOverlongEntry entries
  | _ => false

/-- One of the items is overlong. -/
def anyOverlong : List Data → Bool
  | [] => false
  | item :: rest => isOverlong item || anyOverlong rest

/-- One of the entries is overlong. -/
def anyOverlongEntry : List (Data × Data) → Bool
  | [] => false
  | (key, value) :: rest => isOverlong key || isOverlong value || anyOverlongEntry rest

end

/-- The text of a value, unless an integer in it is too long. -/
def text? (d : Data) : Except Fault String :=
  if d.isOverlong then .error .tooManyDigits else .ok d.text

/-- The text of a value with its parts told apart, unless an integer in it is too long. -/
def source? (d : Data) : Except Fault String :=
  if d.isOverlong then .error .tooManyDigits else .ok d.source

/-- A value laid out in a field; without a layout it is its text. -/
def layout (d : Data) (spec : String) : Except Fault String :=
  if spec == "" then d.text?
  else
    let within (kind : Kind) (alignment : Layout.Alignment) (letter : Option Char)
        (write : Layout.Spec → Except Fault (List Char)) : Except Fault String := do
      let s ← Layout.Spec.read kind alignment letter spec.toList
      let written ← write s.bounded
      if Layout.memoryLimit < s.width then .error .exhausted
      return String.ofList written
    match d with
    | .str s => within .str .left (some 's') (·.text s.toList)
    | .bool b => within .bool .right (some 'd') (·.anyInteger (if b then 1 else 0) .bool)
    | .int i => within .int .right (some 'd') (·.anyInteger i .int)
    | .float x => within .float .right none (·.float x .float)
    | .nan _ => within .float .right none (·.float Decimal.missingNumber .float)
    | .complex re im => within .complex .right none (·.complex re im)
    | other => .error (.typed ("unsupported format string passed to " ++ other.kindOf.name ++ ".__format__"))

end WorkflowEngine.Data
