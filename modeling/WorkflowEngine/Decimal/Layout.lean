import WorkflowEngine.Decimal.Binary64

/-!
# Decimals as text

Digits with an exponent are laid out positionally or with a written exponent.  `floatText` lays out the
shortest digits of a double; the other functions round to a given number of places or digits first.
-/

/-!
## The shortest digits of a double

A double stands for every real number that is nearer to it than to its neighbours.  The digits found
here are the fewest whose number lies among these, and of those with equally few digits the nearest.
-/

namespace WorkflowEngine.Decimal

/-- Digits and the exponent of their unit. -/
structure Scientific where
  digits : Nat
  exponent : Int
deriving Repr, DecidableEq

/-- Drops zeros at the end of the digits; the fuel bounds their number. -/
def Scientific.dropZeros : Nat → Scientific → Scientific
  | 0, s => s
  | fuel + 1, s =>
    if s.digits != 0 && s.digits % 10 == 0 then dropZeros fuel ⟨s.digits / 10, s.exponent + 1⟩ else s

/-- The numbers that read as one double: bounds and value in one unit, ends included or not. -/
structure Neighbourhood where
  low : Nat
  value : Nat
  high : Nat
  unit : Nat
  closed : Bool

/-- The neighbourhood of a positive double. -/
def Neighbourhood.ofDyadic (d : Dyadic) : Neighbourhood :=
  let below := if d.mantissa == leastNormal && leastExponent < d.exponent then 1 else 2
  let exponent := d.exponent - 2
  let scale := if 0 ≤ exponent then Nat.pow 2 exponent.toNat else 1
  let unit := if 0 ≤ exponent then 1 else Nat.pow 2 (-exponent).toNat
  ⟨(4 * d.mantissa - below) * scale, 4 * d.mantissa * scale, (4 * d.mantissa + 2) * scale, unit,
    d.mantissa % 2 == 0⟩

/-- The grid point of the given unit nearest to the value, if one of its two neighbours is near enough. -/
def Neighbourhood.gridPoint? (n : Neighbourhood) (exponent : Int) : Option Nat :=
  let (value, unit) := inUnits n.value n.unit exponent
  let low := (inUnits n.low n.unit exponent).1
  let high := (inUnits n.high n.unit exponent).1
  let point := value / unit
  let rest := value % unit
  let belowFits := if n.closed then low ≤ point * unit else low < point * unit
  let aboveFits := if n.closed then (point + 1) * unit ≤ high else (point + 1) * unit < high
  if belowFits then
    if aboveFits then
      if 2 * rest < unit then some point
      else if unit < 2 * rest then some (point + 1)
      else if point % 2 == 0 then some point else some (point + 1)
    else some point
  else if aboveFits then some (point + 1) else none

/-- Tries one digit more at a time, below the leading exponent. -/
def Neighbourhood.shortestFrom (n : Neighbourhood) (leading : Int) : Nat → Nat → Scientific
  | 0, count => ⟨(n.gridPoint? (leading - Int.ofNat count)).getD 0, leading - Int.ofNat count⟩
  | fuel + 1, count =>
    match n.gridPoint? (leading - Int.ofNat count) with
    | some point => ⟨point, leading - Int.ofNat count⟩
    | none => shortestFrom n leading fuel (count + 1)

/-- The fewest digits that read back as the double. -/
def shortest (d : Dyadic) : Scientific :=
  if d.mantissa == 0 then ⟨0, 0⟩
  else
    let n := Neighbourhood.ofDyadic d
    (n.shortestFrom (leadingExponent n.value n.unit) 17 0).dropZeros 400

end WorkflowEngine.Decimal

/-! ## Digits laid out -/

namespace WorkflowEngine.Decimal

/-- The decimal digits of a number. -/
def digitChars (value : Nat) : List Char :=
  value.repr.toList

/-- The characters with zeros in front, up to a width. -/
def padZeros (width : Nat) (chars : List Char) : List Char :=
  List.replicate (width - chars.length) '0' ++ chars

/-- Digits below a unit of 10 ^ -places, with the point before the last places. -/
def withPoint (places : Nat) (value : Nat) : List Char :=
  let chars := padZeros (places + 1) (digitChars value)
  if places == 0 then chars
  else
    let whole := chars.length - places
    chars.take whole ++ '.' :: chars.drop whole

/-- The number digits · 10 ^ exponent written out. -/
def positional (s : Scientific) : List Char :=
  if 0 ≤ s.exponent then digitChars s.digits ++ List.replicate s.exponent.toNat '0'
  else withPoint (-s.exponent).toNat s.digits

/-- An exponent with its sign and at least two digits. -/
def exponentChars (exponent : Int) : List Char :=
  (if exponent < 0 then '-' else '+') :: padZeros 2 (digitChars exponent.natAbs)

/-- The number with a point behind its first digit and a written exponent. -/
def exponential (s : Scientific) : List Char :=
  let chars := digitChars s.digits
  let leading := s.exponent + Int.ofNat chars.length - 1
  let mantissa :=
    match chars with
    | first :: [] => [first]
    | first :: rest => first :: '.' :: rest
    | [] => []
  mantissa ++ 'e' :: exponentChars leading

/-- The exponent of the first digit. -/
def Scientific.leading (s : Scientific) : Int :=
  s.exponent + Int.ofNat (digitCount s.digits) - 1

/-- Positional text with at least one place behind the point. -/
def withPlace (chars : List Char) : List Char :=
  if chars.contains '.' then chars else chars ++ ['.', '0']

/-- The default text of a finite magnitude: positional from 10 ^ -4 up to below 10 ^ 16. -/
def magnitudeChars (d : Dyadic) : List Char :=
  let s := shortest d
  if -4 ≤ s.leading && s.leading < 16 then withPlace (positional s) else exponential s

/-- A sign in front of the text of a magnitude. -/
def withSign (negative : Bool) (chars : List Char) : List Char :=
  if negative then '-' :: chars else chars

/-- The text of an infinity or of the missing number. -/
def specialChars (x : Float) : List Char :=
  if x.isNaN then ['n', 'a', 'n'] else withSign (isNegative x) ['i', 'n', 'f']

/-- The default text of a double: its shortest digits. -/
def floatText (x : Float) : String :=
  match Dyadic.ofFloat? x with
  | none => String.ofList (specialChars x)
  | some d => String.ofList (withSign d.negative (magnitudeChars d))

/-- A double has fewer places, and fewer digits, than this, so that beyond it all are zeros. -/
def exactPlaces : Nat := 1100

/-- The zeros that follow the last place which may differ from zero. -/
def zerosBeyond (places : Nat) : List Char :=
  List.replicate (places - exactPlaces) '0'

/-- A magnitude rounded to a number of places behind the point. -/
def fixedChars (d : Dyadic) (places : Nat) : List Char :=
  let (num, den) := d.quotient
  let near := min places exactPlaces
  withPoint near (roundDiv (num * Nat.pow 10 near) den) ++ zerosBeyond places

/-- A positive quotient rounded to a number of digits. -/
def roundToDigits (num den count : Nat) : Scientific :=
  let unit := leadingExponent num den - Int.ofNat count + 1
  let (n, d) := inUnits num den unit
  let rounded := roundDiv n d
  if rounded == Nat.pow 10 count then ⟨Nat.pow 10 (count - 1), unit + 1⟩ else ⟨rounded, unit⟩

/-- A magnitude rounded to a number of digits; zero keeps as many zeros. -/
def Dyadic.toDigits (d : Dyadic) (count : Nat) : Scientific :=
  let (num, den) := d.quotient
  if num == 0 then ⟨0, 1 - Int.ofNat count⟩ else roundToDigits num den count

/-- Digits as exactly so many characters. -/
def fullDigits (count value : Nat) : List Char :=
  padZeros count (digitChars value)

/-- A magnitude with a written exponent and a number of places behind the point. -/
def exponentialChars (d : Dyadic) (places : Nat) (keepPoint : Bool) : List Char :=
  let near := min places exactPlaces
  let s := d.toDigits (near + 1)
  let chars := fullDigits (near + 1) s.digits
  let mantissa :=
    match chars with
    | first :: [] => if keepPoint then [first, '.'] else [first]
    | first :: rest => first :: '.' :: rest
    | [] => []
  mantissa ++ zerosBeyond places ++ 'e' :: exponentChars (s.exponent + Int.ofNat near)

/-- Drops zeros at the end of places behind the point, and the point if no place is left. -/
def dropPlaces (chars : List Char) : List Char :=
  if chars.contains '.' then
    ((chars.reverse.dropWhile (· == '0')).dropWhile (· == '.')).reverse
  else chars

/-- A magnitude rounded to a number of digits: positional while the leading exponent is from -4 to below the bound. -/
def generalChars (d : Dyadic) (count : Nat) (below : Int) (keepZeros : Bool) : List Char :=
  let near := min count exactPlaces
  let s := d.toDigits near
  let leading := s.exponent + Int.ofNat near - 1
  if -4 ≤ leading && leading < below then
    let chars :=
      if 0 ≤ s.exponent then positional s
      else withPoint (-s.exponent).toNat s.digits
    if keepZeros then (if chars.contains '.' then chars ++ zerosBeyond count else chars ++ ['.'])
    else dropPlaces chars
  else
    let mantissa :=
      match fullDigits near s.digits with
      | first :: [] => if keepZeros then [first, '.'] else [first]
      | first :: rest =>
        if keepZeros then first :: '.' :: rest ++ zerosBeyond count else dropPlaces (first :: '.' :: rest)
      | [] => []
    mantissa ++ 'e' :: exponentChars leading

/-- The decimal text of an integer. -/
def intText (value : Int) : String :=
  String.ofList (withSign (decide (value < 0)) (digitChars value.natAbs))

end WorkflowEngine.Decimal
