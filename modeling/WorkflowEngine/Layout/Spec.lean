import WorkflowEngine.Fault
import WorkflowEngine.Text.Unicode.Ranges

/-!
# Layout specifications

A layout says how a value is written into a field of text.  Its parts stand in a fixed order, and
every part may be missing: fill and alignment, sign, coercion of a negative zero, alternate form, zero
padding, width, grouping, precision and a letter for the presentation.
-/

namespace WorkflowEngine.Layout

/-- Where a text stands in its field; `inner` puts the filling between sign and digits. -/
inductive Alignment where
  | left
  | right
  | center
  | inner
deriving Repr, DecidableEq, Inhabited

/-- The alignment that a character names. -/
def alignment? : Char → Option Alignment
  | '<' => some .left
  | '>' => some .right
  | '^' => some .center
  | '=' => some .inner
  | _ => none

/-- A layout. -/
structure Spec where
  fill : Char
  alignment : Alignment
  sign : Option Char
  positiveZero : Bool
  alternate : Bool
  width : Nat
  grouping : Option Char
  precision : Option Nat
  presentation : Option Char
deriving Repr, DecidableEq, Inhabited

/-- The digits in front: whether there are any, their value, and what follows. -/
def takeNumber (found : Bool) (value : Nat) : List Char → Bool × Nat × List Char
  | c :: rest =>
    match Text.Unicode.digitValue? c with
    | some digit => takeNumber true (value * 10 + digit) rest
    | none => (found, value, c :: rest)
  | [] => (found, value, [])

/-- The largest width or precision. -/
def numberLimit : Nat := Nat.pow 2 63 - 1

/-- The largest number of places of a double. -/
def precisionLimit : Nat := Nat.pow 2 31 - 1

/-- The longest text that is filled out. -/
def longest : Nat := 4000000

/-- No text that is longer than this can be held. -/
def memoryLimit : Nat := Nat.pow 2 40

/-- Fill and alignment at the front, with what follows. -/
def takeAlignment : List Char → Option Char × Option Alignment × List Char
  | fill :: mark :: rest =>
    match alignment? mark with
    | some a => (some fill, some a, rest)
    | none =>
      match alignment? fill with
      | some a => (none, some a, mark :: rest)
      | none => (none, none, fill :: mark :: rest)
  | [mark] =>
    match alignment? mark with
    | some a => (none, some a, [])
    | none => (none, none, [mark])
  | [] => (none, none, [])

/-- A sign option at the front. -/
def takeSignOption : List Char → Option Char × List Char
  | c :: rest => if c == '+' || c == '-' || c == ' ' then (some c, rest) else (none, c :: rest)
  | [] => (none, [])

/-- A single mark at the front. -/
def takeMark (mark : Char) : List Char → Bool × List Char
  | c :: rest => if c == mark then (true, rest) else (false, c :: rest)
  | [] => (false, [])

/-- A grouping option at the front. -/
def takeGrouping (chars : List Char) : Except Fault (Option Char × List Char) :=
  let both : Fault := .valued "Cannot specify both ',' and '_'."
  match chars with
  | ',' :: '_' :: _ => .error both
  | '_' :: ',' :: _ => .error both
  | ',' :: rest => .ok (some ',', rest)
  | '_' :: rest => .ok (some '_', rest)
  | rest => .ok (none, rest)

/-- A precision at the front. -/
def takePrecision : List Char → Except Fault (Option Nat × List Char)
  | '.' :: rest =>
    match takeNumber false 0 rest with
    | (false, _, _) => .error (.valued "Format specifier missing precision")
    | (true, value, rest) =>
      if numberLimit < value then .error (.valued "Too many decimal digits in format string")
      else .ok (some value, rest)
  | rest => .ok (none, rest)

/-- How a presentation letter is shown in messages. -/
def letterText (c : Char) : String :=
  if 32 < c.toNat && c.toNat < 128 then String.singleton c
  else "\\x" ++ String.ofList (Nat.toDigits 16 (Text.codeOfChar c))

/-- Grouping goes with some presentations only; the low line also with digits of other bases. -/
def groupingFits (grouping presentation : Char) : Bool :=
  ['d', 'e', 'f', 'g', 'E', 'G', '%', 'F'].contains presentation ||
    (grouping == '_' && ['b', 'o', 'x', 'X'].contains presentation)

/-- Reads the layout for a kind of value, which says how values stand without an alignment and what is
presented without a letter. -/
def Spec.read (kind : Kind) (alignment : Alignment) (presentation : Option Char) (chars : List Char) :
    Except Fault Spec := do
  let (fill, aligned, rest) := takeAlignment chars
  let (sign, rest) := takeSignOption rest
  let (positiveZero, rest) := takeMark 'z' rest
  let (alternate, rest) := takeMark '#' rest
  let (padded, rest) := if fill.isNone then takeMark '0' rest else (false, rest)
  let (_, width, rest) := takeNumber false 0 rest
  if numberLimit < width then .error (.valued "Too many decimal digits in format string")
  let (grouping, rest) ← takeGrouping rest
  let (precision, rest) ← takePrecision rest
  let letter ←
    match rest with
    | [] => .ok presentation
    | [c] => .ok (some c)
    | _ =>
      .error (.valued ("Invalid format specifier '" ++ String.ofList chars ++ "' for object of type '" ++
        kind.name ++ "'"))
  match grouping, letter with
  | some mark, some c =>
    if !groupingFits mark c then
      .error (.valued ("Cannot specify '" ++ String.singleton mark ++ "' with '" ++ letterText c ++ "'."))
  | _, _ => pure ()
  let standing :=
    match aligned with
    | some a => a
    | none => if padded && alignment == .right then .inner else alignment
  return ⟨fill.getD (if padded then '0' else ' '), standing, sign, positiveZero, alternate, width, grouping,
    precision, letter⟩

/-- The presentation letter is not known for a kind of value. -/
def unknownLetter {α : Type} (c : Char) (kind : Kind) : Except Fault α :=
  .error (.valued ("Unknown format code '" ++ letterText c ++ "' for object of type '" ++ kind.name ++ "'"))

end WorkflowEngine.Layout
