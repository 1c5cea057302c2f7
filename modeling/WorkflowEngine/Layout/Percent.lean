import WorkflowEngine.Layout.Field

/-!
# Texts with percent marks

In a text with percent marks every mark stands for a value: the next item of a tuple, an entry of a
dictionary that is named in parentheses, or the single value given.  Flags, width and precision follow
the mark, and a letter says how the value is written.
-/

namespace WorkflowEngine.Layout

/-- What is still to be written: values in order, and the dictionary that names refer to. -/
structure Supply where
  queue : List Data
  named : Option Data
deriving Inhabited

/-- A mark with its flags, width and precision. -/
structure Mark where
  left : Bool
  signed : Bool
  spaced : Bool
  alternate : Bool
  zeros : Bool
  width : Nat
  precision : Option Nat
deriving Inhabited

/-- The values that a text with marks is given. -/
def Supply.ofData : Data → Supply
  | .tuple items => ⟨items, none⟩
  | .dict entries => ⟨[.dict entries], some (.dict entries)⟩
  | .list items => ⟨[.list items], some (.list items)⟩
  | .bytes bs => ⟨[.bytes bs], some (.bytes bs)⟩
  | d => ⟨[d], none⟩

/-- The next value. -/
def Supply.next (s : Supply) : Except Fault (Data × Supply) :=
  match s.queue with
  | d :: rest => .ok (d, { s with queue := rest })
  | [] => .error (.typed "not enough arguments for format string")

/-- A format ends too early. -/
def incomplete {α : Type} : Except Fault α :=
  .error (.valued "incomplete format")

/-- The name in parentheses, which may hold balanced parentheses, with what follows. -/
def takeName (depth : Nat) (done : List Char) : List Char → Except Fault (String × List Char)
  | [] => .error (.valued "incomplete format key")
  | ')' :: rest =>
    match depth with
    | 0 => .ok (String.ofList done.reverse, rest)
    | depth + 1 => takeName depth (')' :: done) rest
  | '(' :: rest => takeName (depth + 1) ('(' :: done) rest
  | c :: rest => takeName depth (c :: done) rest

/-- The value that a name refers to becomes the next one. -/
def Supply.select (s : Supply) (name : String) : Except Fault Supply :=
  match s.named with
  | some (.dict entries) =>
    match Data.field? entries name with
    | some d => .ok { s with queue := [d] }
    | none => .error (.missingKey (.str name))
  | some (.bytes _) => .error (.typed "byte indices must be integers or slices, not str")
  | some _ => .error (.typed "list indices must be integers or slices, not str")
  | none => .error (.typed "format requires a mapping")

/-- The flags in front. -/
def takeFlags (m : Mark) : List Char → Mark × List Char
  | '-' :: rest => takeFlags { m with left := true } rest
  | '+' :: rest => takeFlags { m with signed := true } rest
  | ' ' :: rest => takeFlags { m with spaced := true } rest
  | '#' :: rest => takeFlags { m with alternate := true } rest
  | '0' :: rest => takeFlags { m with zeros := true } rest
  | rest => (m, rest)

/-- The plain digits in front, as a number. -/
def takeDigits (value : Nat) : List Char → Nat × List Char
  | c :: rest => if c.isDigit then takeDigits (value * 10 + (c.toNat - 48)) rest else (value, c :: rest)
  | [] => (value, [])

/-- A width or precision that is taken from the values. -/
def Supply.nextInt (s : Supply) : Except Fault (Int × Supply) :=
  match s.next with
  | .error f => .error f
  | .ok (.int i, s) => .ok (i, s)
  | .ok (.bool b, s) => .ok (if b then 1 else 0, s)
  | .ok _ => .error (.typed "* wants int")

/-- The width in front. -/
def takeWidth (m : Mark) (s : Supply) : List Char → Except Fault (Mark × Supply × List Char)
  | '*' :: rest => do
    let (i, s) ← s.nextInt
    if i < -Int.ofNat numberLimit - 1 || Int.ofNat numberLimit < i then
      .error (.other .overflow "Python int too large to convert to C ssize_t")
    else .ok ({ m with left := m.left || i < 0, width := i.natAbs }, s, rest)
  | chars =>
    let (value, rest) := takeDigits 0 chars
    if numberLimit < value then .error (.valued "width too big")
    else .ok ({ m with width := value }, s, rest)

/-- The precision in front. -/
def takePlaces (m : Mark) (s : Supply) : List Char → Except Fault (Mark × Supply × List Char)
  | '.' :: '*' :: rest => do
    let (i, s) ← s.nextInt
    if i < -Int.ofNat precisionLimit - 1 || Int.ofNat precisionLimit < i then
      .error (.other .overflow "Python int too large to convert to C int")
    else .ok ({ m with precision := some i.toNat }, s, rest)
  | '.' :: chars =>
    let (value, rest) := takeDigits 0 chars
    if precisionLimit < value then .error (.valued "precision too big")
    else .ok ({ m with precision := some value }, s, rest)
  | chars => .ok (m, s, chars)

/-- Drops a letter for the size of a number, which has no meaning here. -/
def dropSize : List Char → List Char
  | 'h' :: rest => rest
  | 'l' :: rest => rest
  | 'L' :: rest => rest
  | rest => rest

/-- Characters without those that are not plain, which become escapes. -/
def plainChars (chars : List Char) : List Char :=
  chars.flatMap fun c => if c.toNat < 128 then [c] else Text.numericEscape (Text.codeOfChar c)

/-- A written value in its field. -/
def Mark.place (m : Mark) (zeros : Bool) (head body : List Char) : List Char :=
  let count := m.width - (head.length + body.length)
  if m.left then head ++ body ++ List.replicate count ' '
  else if zeros then head ++ List.replicate count '0' ++ body
  else List.replicate count ' ' ++ head ++ body

/-- The sign of a number under a mark. -/
def Mark.signChars (m : Mark) (negative : Bool) : List Char :=
  if negative then ['-'] else if m.signed then ['+'] else if m.spaced then [' '] else []

/-- The value that a mark for integers takes. -/
def integerOf (letter : Char) (d : Data) : Except Fault Int :=
  let strict := ['o', 'x', 'X'].contains letter
  let wrong : Except Fault Int :=
    let wanted := if strict then "an integer" else "a real number"
    .error (.typed ("%" ++ String.singleton letter ++ " format: " ++ wanted ++ " is required, not " ++
      d.kindOf.name))
  match d with
  | .bool b => .ok (if b then 1 else 0)
  | .int i => .ok i
  | .float x => if strict then wrong else Number.truncate x
  | .nan _ => if strict then wrong else Number.truncate Decimal.missingNumber
  | _ => wrong

/-- An integer under a mark. -/
def Mark.integer (m : Mark) (letter : Char) (value : Int) : Except Fault (List Char) :=
  let base := if letter == 'o' then 8 else if letter == 'x' || letter == 'X' then 16 else 10
  if base == 10 && Decimal.digitLimit < Decimal.digitCount value.natAbs then .error .tooManyDigits
  else
    let digits := Decimal.padZeros (m.precision.getD 1) (digitsIn base value.natAbs)
    let digits := if letter == 'X' then digits.map Char.toUpper else digits
    let front := if m.alternate && base != 10 then ['0', letter] else []
    .ok (m.place m.zeros (m.signChars (decide (value < 0)) ++ front) digits)

/-- A double under a mark. -/
def Mark.float (m : Mark) (letter : Char) (x : Float) : List Char :=
  let chars := magnitudeText x (some letter.toLower) m.precision m.alternate
  let chars := if letter.isUpper then chars.map Char.toUpper else chars
  m.place m.zeros (m.signChars (Decimal.isNegative x && !x.isNaN)) chars

/-- A character under a mark: a text of one character or a code. -/
def characterOf (d : Data) : Except Fault Char :=
  let code (i : Int) : Except Fault Char :=
    if 0 ≤ i && i < 0x110000 then .ok (Text.charOfCode i.toNat)
    else .error (.other .overflow "%c arg not in range(0x110000)")
  match d with
  | .str s =>
    match s.toList with
    | [c] => .ok c
    | _ => .error (.typed "%c requires int or char")
  | .bool b => code (if b then 1 else 0)
  | .int i => code i
  | _ => .error (.typed "%c requires int or char")

/-- The field, or the places of a number, are longer than what is filled out. -/
def Mark.isExhausting (m : Mark) (letter : Char) : Bool :=
  decide (longest < m.width) ||
    (!(['s', 'r', 'a', 'c'].contains letter) && m.precision.any fun count => decide (longest < count))

/-- The mark with a field, and a number of places, that can be filled out. -/
def Mark.bounded (m : Mark) : Mark :=
  { m with width := min m.width longest, precision := m.precision.map (min longest) }

/-- Writes a value under a mark; the place of the letter is named when it is unknown. -/
def Mark.write (m : Mark) (letter : Char) (index : Nat) (d : Data) : Except Fault (List Char) :=
  let cut (chars : List Char) : List Char :=
    match m.precision with
    | some count => chars.take count
    | none => chars
  if letter == 's' then d.text?.map fun t => m.place false [] (cut t.toList)
  else if letter == 'r' then d.source?.map fun t => m.place false [] (cut t.toList)
  else if letter == 'a' then d.source?.map fun t => m.place false [] (cut (plainChars t.toList))
  else if letter == 'c' then (characterOf d).map fun c => m.place false [] [c]
  else if ['d', 'i', 'u', 'o', 'x', 'X'].contains letter then
    match integerOf letter d with
    | .error f => .error f
    | .ok i => m.integer letter i
  else if ['e', 'E', 'f', 'F', 'g', 'G'].contains letter then
    match d.number? with
    | some (.int i) => (Number.floatOfInt i).map (m.float letter)
    | some (.float x) => .ok (m.float letter x)
    | _ => .error (.typed ("must be real number, not " ++ d.kindOf.name))
  else
    let shown := if 31 ≤ letter.toNat && letter.toNat < 126 then letter else '?'
    let code := String.ofList (Nat.toDigits 16 (Text.codeOfChar letter))
    .error (.valued ("unsupported format character '" ++ String.singleton shown ++ "' (0x" ++ code ++
      ") at index " ++ toString index))

/-- What stands behind a percent sign: the characters it gives, the values left, and the rest. -/
def takeMarked (total : Nat) (s : Supply) (chars : List Char) :
    Except Fault (List Char × Supply × List Char) := do
  let (s, chars) ←
    match chars with
    | '(' :: rest =>
      if s.named.isNone then .error (.typed "format requires a mapping")
      else
        let (name, rest) ← takeName 0 [] rest
        pure (← s.select name, rest)
    | chars => pure (s, chars)
  let (m, chars) := takeFlags ⟨false, false, false, false, false, 0, none⟩ chars
  let (m, s, chars) ← takeWidth m s chars
  let (m, s, chars) ← takePlaces m s chars
  match dropSize chars with
  | [] => incomplete
  | '%' :: rest => return (['%'], s, rest)
  | letter :: rest =>
    let (d, s) ← s.next
    let written ← m.bounded.write letter (total - rest.length - 1) d
    if m.isExhausting letter then .error .exhausted
    return (written, s, rest)

/-- Fills in the marks of a text; the fuel bounds the marks. -/
def fillMarks (total : Nat) : Nat → Supply → List Char → List Char → Except Fault (List Char × Supply)
  | 0, s, done, _ => .ok (done.reverse, s)
  | fuel + 1, s, done, chars =>
    let done := (chars.takeWhile (· != '%')).reverse ++ done
    match chars.dropWhile (· != '%') with
    | [] => .ok (done.reverse, s)
    | _ :: rest =>
      match takeMarked total s rest with
      | .error f => .error f
      | .ok (written, s, rest) => fillMarks total fuel s (written.reverse ++ done) rest

/-- A text with its marks filled in from values. -/
def percent (text : String) (values : Data) : Except Fault String :=
  let chars := text.toList
  match fillMarks chars.length (chars.length + 1) (Supply.ofData values) [] chars with
  | .error f => .error f
  | .ok (done, s) =>
    if s.queue.isEmpty || s.named.isSome then .ok (String.ofList done)
    else .error (.typed "not all arguments converted during string formatting")

end WorkflowEngine.Layout
