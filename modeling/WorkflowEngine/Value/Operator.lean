import WorkflowEngine.Data.Comparison
import WorkflowEngine.Layout.Percent
import WorkflowEngine.Value.Container

/-!
# Operators on values

Numbers are computed with, sequences are joined and repeated, sets are combined and dictionaries
merged.  An operator without a meaning for its operands ends in a fault that names their kinds.
-/

namespace WorkflowEngine.Value

open Eval

/-- The operator has no meaning for the operands. -/
def unsupported (operator : String) (a b : Value) : Eval Value :=
  fail (.unsupported operator a.kindOf b.kindOf)

/-- An operation on numbers; `otherwise` stands for all other operands. -/
def arithmetic (operation : Number → Number → Except Fault Number) (otherwise : Eval Value)
    (a b : Value) : Eval Value :=
  match a.number?, b.number? with
  | some x, some y => do number (← lift (operation x y))
  | _, _ => otherwise

/-- The largest count of a repetition, in either direction. -/
def countLimit : Int := Int.ofNat (Nat.pow 2 63)

/-- The sum of two values: of numbers, or one sequence behind the other. -/
def add (a b : Value) : Eval Value :=
  arithmetic Number.add
    (match a, b with
    | .str s, .str t => pure (.str (s ++ t))
    | .str _, _ => fail (.typed ("can only concatenate str (not \"" ++ b.kindOf.name ++ "\") to str"))
    | .bytes s, .bytes t => pure (.bytes (s ++ t))
    | .bytes _, _ => fail (.typed ("can't concat " ++ b.kindOf.name ++ " to bytes"))
    | .list x, .list y => do newList ((← items x) ++ (← items y))
    | .list _, _ => fail (.typed ("can only concatenate list (not \"" ++ b.kindOf.name ++ "\") to list"))
    | .tuple x, .tuple y => do newTuple ((← items x) ++ (← items y))
    | .tuple _, _ =>
      fail (.typed ("can only concatenate tuple (not \"" ++ b.kindOf.name ++ "\") to tuple"))
    | _, _ => unsupported "+" a b) a b

/-- The members of the first set that the second does not have. -/
def without (h : Heap) (x y : List Value) : List Value :=
  x.filter fun v => !h.isMember y v

/-- The difference of two numbers or sets. -/
def subtract (a b : Value) : Eval Value :=
  arithmetic Number.subtract
    (match a, b with
    | .set x, .set y => do
      newSet (without (← heap) (← items x) (← items y))
    | _, _ => unsupported "-" a b) a b

/-- The value has items in order, which can be repeated. -/
def isSequence : Value → Bool
  | .str _ => true
  | .bytes _ => true
  | .list _ => true
  | .tuple _ => true
  | _ => false

/-- A sequence so many times. -/
def replicate (sequence : Value) (count : Int) : Eval Value :=
  if count < -countLimit || countLimit ≤ count then
    fail (.other .overflow "cannot fit 'int' into an index-sized integer")
  else
    let n := count.toNat
    match sequence with
    | .str s => pure (.str (String.ofList (List.replicate n s.toList).flatten))
    | .bytes bs => pure (.bytes (List.replicate n bs).flatten)
    | .list a => do newList (List.replicate n (← items a)).flatten
    | .tuple a => do
      let values ← items a
      if n == 1 then pure sequence else newTuple (List.replicate n values).flatten
    | v => pure v

/-- The product of two numbers, or a repeated sequence. -/
def multiply (a b : Value) : Eval Value :=
  arithmetic Number.multiply
    (if a.isSequence then
      match b.int? with
      | some i => replicate a i
      | none => fail (.typed ("can't multiply sequence by non-int of type '" ++ b.kindOf.name ++ "'"))
    else if b.isSequence then
      match a.int? with
      | some i => replicate b i
      | none => fail (.typed ("can't multiply sequence by non-int of type '" ++ a.kindOf.name ++ "'"))
    else unsupported "*" a b) a b

/-- The quotient of two numbers. -/
def divide (a b : Value) : Eval Value :=
  arithmetic Number.divide (unsupported "/" a b) a b

/-- The whole quotient of two numbers. -/
def floorDivide (a b : Value) : Eval Value :=
  arithmetic Number.floorDivide (unsupported "//" a b) a b

/-- The remainder of two numbers, or a text with its percent marks filled in. -/
def modulo (a b : Value) : Eval Value :=
  match a with
  | .str s => do return .str (← lift (Layout.percent s (← view b)))
  | _ => arithmetic Number.modulo (unsupported "%" a b) a b

/-- The power of two numbers. -/
def power (a b : Value) : Eval Value :=
  arithmetic Number.power (unsupported "** or pow()" a b) a b

/-- An operation on integers, which keeps truth values if it has a form for them. -/
def integral (operator : String) (onInts : Int → Int → Except Fault Int)
    (onBools : Option (Bool → Bool → Bool)) (otherwise : Eval Value) (a b : Value) : Eval Value :=
  match onBools, a, b with
  | some f, .bool x, .bool y => pure (.bool (f x y))
  | _, _, _ =>
    match a.int?, b.int? with
    | some i, some j => do return .int (← lift (onInts i j))
    | _, _ =>
      match a.number?, b.number? with
      | some _, some _ => unsupported operator a b
      | _, _ => otherwise

/-- The integer moved to higher bits. -/
def shiftLeft (a b : Value) : Eval Value :=
  integral "<<" Number.shiftLeft none (unsupported "<<" a b) a b

/-- The integer moved to lower bits. -/
def shiftRight (a b : Value) : Eval Value :=
  integral ">>" Number.shiftRight none (unsupported ">>" a b) a b

/-- The common bits of integers or members of sets. -/
def bitAnd (a b : Value) : Eval Value :=
  integral "&" (fun i j => .ok (Number.bitAnd i j)) (some (· && ·))
    (match a, b with
    | .set x, .set y => do
      let h ← heap
      let others := h.items y
      newSet (settle ((h.items x).filter fun v => h.isMember others v))
    | _, _ => unsupported "&" a b) a b

/-- The united bits of integers, members of sets or entries of dictionaries. -/
def bitOr (a b : Value) : Eval Value :=
  integral "|" (fun i j => .ok (Number.bitOr i j)) (some (· || ·))
    (match a, b with
    | .set x, .set y => do
      let h ← heap
      newSet (settle (h.items x ++ without h (h.items y) (h.items x)))
    | .dict x, .dict y => do
      let h ← heap
      newDict (h.setEntries (h.entries x) (h.entries y))
    | _, _ => unsupported "|" a b) a b

/-- The bits of integers or members of sets that only one operand has. -/
def bitXor (a b : Value) : Eval Value :=
  integral "^" (fun i j => .ok (Number.bitXor i j)) (some Bool.xor)
    (match a, b with
    | .set x, .set y => do
      let h ← heap
      let left := h.items x
      let right := h.items y
      newSet (settle (without h left right ++ without h right left))
    | _, _ => unsupported "^" a b) a b

/-- An operation on one number. -/
def onNumber (operator : String) (operation : Number → Except Fault Number) (v : Value) : Eval Value :=
  match v.number? with
  | some n => do number (← lift (operation n))
  | none => fail (.unsupportedUnary operator v.kindOf)

/-- The negated number. -/
def negate : Value → Eval Value :=
  onNumber "unary -" fun n => .ok n.negate

/-- The number itself. -/
def keepSign : Value → Eval Value :=
  onNumber "unary +" .ok

/-- The inverted bits of an integer. -/
def invert (v : Value) : Eval Value :=
  match v.int? with
  | some i => pure (.int (-i - 1))
  | none => fail (.unsupportedUnary "unary ~" v.kindOf)

/-- The distance of a number from zero. -/
def absolute : Value → Eval Value :=
  onNumber "abs()" Number.absolute

/-- A comparison by order. -/
def compare (c : Comparison) (a b : Value) : Eval Bool :=
  match a, b with
  | .int i, .int j => pure (c.holds (Ord.compare i j))
  | _, _ => do lift (Data.compareBy c (← view a) (← view b))

/-- The first list stands somewhere in the second. -/
def occursIn {α : Type} [BEq α] (part : List α) : List α → Bool
  | [] => part.isEmpty
  | a :: rest => part.isPrefixOf (a :: rest) || occursIn part rest

/-- The value is contained in a text, a sequence, a set or the keys of a dictionary. -/
def contains (container v : Value) : Eval Bool :=
  match container with
  | .str s =>
    match v with
    | .str t => pure (occursIn t.toList s.toList)
    | _ => fail (.typed ("'in <string>' requires string as left operand, not " ++ v.kindOf.name))
  | .bytes bs =>
    match v with
    | .bytes part => pure (occursIn part bs)
    | _ =>
      match v.int? with
      | some i =>
        if 0 ≤ i && i < 256 then pure (bs.any fun b => Int.ofNat b.toNat == i)
        else fail (.valued "byte must be in range(0, 256)")
      | none => fail (.typed ("a bytes-like object is required, not '" ++ v.kindOf.name ++ "'"))
  | .list a => do return (← heap).isMember (← items a) v
  | .tuple a => do return (← heap).isMember (← items a) v
  | .set a => do
    match v with
    | .set _ => pure ()
    | v => requireKey v
    return (← heap).isMember (← items a) v
  | .dict a => do
    requireKey v
    return ((← heap).lookup (← entries a) v).isSome
  | other => fail (.notContainer other.kindOf)

end WorkflowEngine.Value
