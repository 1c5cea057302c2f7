/-!
# Sorted intervals of code points

A character class is a table of closed intervals in increasing order, searched by halving.
-/

namespace WorkflowEngine.Text.Unicode

/-- Closed intervals of code points, in increasing order and apart from each other. -/
abbrev Ranges := Array (Nat × Nat)

namespace Ranges

/-- The interval around a code point, looked for between two indexes; the fuel bounds the halvings. -/
def search (table : Ranges) (code : Nat) : Nat → Nat → Nat → Option (Nat × Nat)
  | 0, _, _ => none
  | fuel + 1, low, high =>
    if low < high then
      let middle := (low + high) / 2
      match table[middle]? with
      | none => none
      | some range =>
        if code < range.1 then search table code fuel low middle
        else if range.2 < code then search table code fuel (middle + 1) high
        else some range
    else none

/-- The start of the interval that holds the code point. -/
def startOf? (table : Ranges) (code : Nat) : Option Nat :=
  (search table code 12 0 table.size).map Prod.fst

/-- Some interval holds the code point. -/
def covers (table : Ranges) (code : Nat) : Bool :=
  (search table code 12 0 table.size).isSome

/-- An interval that the search finds holds the code point. -/
theorem search_bounds {table : Ranges} {code fuel low high : Nat} {range : Nat × Nat}
    (found : search table code fuel low high = some range) :
    range.1 ≤ code ∧ code ≤ range.2 := by
  induction fuel generalizing low high with
  | zero => simp [search] at found
  | succ fuel ih =>
    simp only [search] at found
    split at found
    · split at found
      · simp at found
      · split at found
        · exact ih found
        · split at found
          · exact ih found
          · cases found
            omega
    · simp at found

end Ranges

end WorkflowEngine.Text.Unicode

/-!
## Blank characters

The characters that trimming removes and that separate words.
-/

namespace WorkflowEngine.Text.Unicode

/-- Space characters, line and field separators. -/
def blankRanges : Ranges := #[
  (0x9, 0xd), (0x1c, 0x20), (0x85, 0x85), (0xa0, 0xa0), (0x1680, 0x1680), (0x2000, 0x200a),
  (0x2028, 0x2029), (0x202f, 0x202f), (0x205f, 0x205f), (0x3000, 0x3000)]

/-- A character without ink that separates words. -/
def isBlank (c : Char) : Bool :=
  blankRanges.covers c.toNat

end WorkflowEngine.Text.Unicode

/-!
## Decimal digits

Every run of decimal digits starts at a zero and is a multiple of ten long, so a digit's value is
its offset in the run modulo ten.
-/

namespace WorkflowEngine.Text.Unicode

/-- Runs of decimal digits of all scripts. -/
def decimalRanges : Ranges := #[
  (0x30, 0x39), (0x660, 0x669), (0x6f0, 0x6f9), (0x7c0, 0x7c9), (0x966, 0x96f), (0x9e6, 0x9ef),
  (0xa66, 0xa6f), (0xae6, 0xaef), (0xb66, 0xb6f), (0xbe6, 0xbef), (0xc66, 0xc6f), (0xce6, 0xcef),
  (0xd66, 0xd6f), (0xde6, 0xdef), (0xe50, 0xe59), (0xed0, 0xed9), (0xf20, 0xf29),
  (0x1040, 0x1049), (0x1090, 0x1099), (0x17e0, 0x17e9), (0x1810, 0x1819), (0x1946, 0x194f),
  (0x19d0, 0x19d9), (0x1a80, 0x1a89), (0x1a90, 0x1a99), (0x1b50, 0x1b59), (0x1bb0, 0x1bb9),
  (0x1c40, 0x1c49), (0x1c50, 0x1c59), (0xa620, 0xa629), (0xa8d0, 0xa8d9), (0xa900, 0xa909),
  (0xa9d0, 0xa9d9), (0xa9f0, 0xa9f9), (0xaa50, 0xaa59), (0xabf0, 0xabf9), (0xff10, 0xff19),
  (0x104a0, 0x104a9), (0x10d30, 0x10d39), (0x11066, 0x1106f), (0x110f0, 0x110f9),
  (0x11136, 0x1113f), (0x111d0, 0x111d9), (0x112f0, 0x112f9), (0x11450, 0x11459),
  (0x114d0, 0x114d9), (0x11650, 0x11659), (0x116c0, 0x116c9), (0x11730, 0x11739),
  (0x118e0, 0x118e9), (0x11950, 0x11959), (0x11c50, 0x11c59), (0x11d50, 0x11d59),
  (0x11da0, 0x11da9), (0x16a60, 0x16a69), (0x16ac0, 0x16ac9), (0x16b50, 0x16b59),
  (0x1d7ce, 0x1d7ff), (0x1e140, 0x1e149), (0x1e2f0, 0x1e2f9), (0x1e950, 0x1e959),
  (0x1fbf0, 0x1fbf9)]

/-- Digits that stand in no decimal run: superscripts, circled digits and the like. -/
def otherDigitRanges : Ranges := #[
  (0xb2, 0xb3), (0xb9, 0xb9), (0x1369, 0x1371), (0x19da, 0x19da), (0x2070, 0x2070),
  (0x2074, 0x2079), (0x2080, 0x2089), (0x2460, 0x2468), (0x2474, 0x247c), (0x2488, 0x2490),
  (0x24ea, 0x24ea), (0x24f5, 0x24fd), (0x24ff, 0x24ff), (0x2776, 0x277e), (0x2780, 0x2788),
  (0x278a, 0x2792), (0x10a40, 0x10a43), (0x10e60, 0x10e68), (0x11052, 0x1105a), (0x1f100, 0x1f10a)]

/-- The value of a decimal digit of any script. -/
def digitValue? (c : Char) : Option Nat :=
  if c.toNat < 128 then
    if '0' ≤ c ∧ c ≤ '9' then some (c.toNat - 48) else none
  else
    (decimalRanges.startOf? c.toNat).map fun start => (c.toNat - start) % 10

/-- A digit that positional notation may use. -/
def isDecimal (c : Char) : Bool :=
  (digitValue? c).isSome

/-- Any digit, also one that positional notation does not use. -/
def isDigit (c : Char) : Bool :=
  isDecimal c || otherDigitRanges.covers c.toNat

end WorkflowEngine.Text.Unicode
