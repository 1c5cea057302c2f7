/-!
# Unpaired surrogates

An escape sequence may name one half of a surrogate pair on its own.  Such a half is no character, so
text holds a private use character in its place: the last 2048 code points of the last plane stand for
the 2048 halves, in order.
-/

namespace WorkflowEngine.Text

namespace Surrogate

/-- The first code point that stands for a half. -/
def base : Nat := 0x10f800

/-- The number of halves. -/
def count : Nat := 0x800

/-- The code is a half of a surrogate pair. -/
def isHalf (code : Nat) : Bool :=
  0xd800 ≤ code && code < 0xd800 + count

/-- The code opens a surrogate pair. -/
def isLeading (code : Nat) : Bool :=
  0xd800 ≤ code && code < 0xdc00

/-- The code closes a surrogate pair. -/
def isTrailing (code : Nat) : Bool :=
  0xdc00 ≤ code && code < 0xe000

/-- The code point that a full pair names. -/
def join (leading trailing : Nat) : Nat :=
  0x10000 + (leading - 0xd800) * 0x400 + (trailing - 0xdc00)

/-- The half that a character stands for, if it stands for one. -/
def half? (c : Char) : Option Nat :=
  if base ≤ c.toNat then
    if c.toNat < base + count then some (0xd800 + (c.toNat - base)) else none
  else none

end Surrogate

/-- The character with a code, where an unpaired half gets its stand-in. -/
def charOfCode (code : Nat) : Char :=
  if Surrogate.isHalf code then Char.ofNat (Surrogate.base + (code - 0xd800)) else Char.ofNat code

/-- The code of a character, where a stand-in gives its half. -/
def codeOfChar (c : Char) : Nat :=
  match Surrogate.half? c with
  | some half => half
  | none => c.toNat

end WorkflowEngine.Text
