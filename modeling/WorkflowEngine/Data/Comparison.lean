import WorkflowEngine.Number.Basic

/-!
# Comparison of values

Values are compared part by part: whether they are equal, and which comes first.
-/

/-!
## Equality of values

Numbers are equal by value, whatever their kind, and truth values count as numbers.  Containers of one
kind are equal when their parts are the same; the very same missing number is the same part, though a
missing number is not equal to itself.
-/

namespace WorkflowEngine.Data

mutual

/-- Two parts of containers are the same: equal, or one missing number. -/
def same (a b : Data) : Bool :=
  match a with
  | .null => match b with
    | .null => true
    | _ => false
  | .bool x => match b.number? with
    | some n => Number.equals (.int (if x then 1 else 0)) n
    | none => false
  | .int i => match b.number? with
    | some n => Number.equals (.int i) n
    | none => false
  | .float x => match b.number? with
    | some n => Number.equals (.float x) n
    | none => false
  | .nan m => match b with
    | .nan m' => m == m'
    | _ => false
  | .complex re im => match b.number? with
    | some n => Number.equals (.complex re im) n
    | none => false
  | .str s => match b with
    | .str t => s == t
    | _ => false
  | .bytes s => match b with
    | .bytes t => s == t
    | _ => false
  | .list items => match b with
    | .list others => allSame items others
    | _ => false
  | .tuple items => match b with
    | .tuple others => allSame items others
    | _ => false
  | .set items => match b with
    | .set others => items.length == others.length && allMembers items others
    | _ => false
  | .dict entries => match b with
    | .dict others => entries.length == others.length && allEntries entries others
    | _ => false
  | .routine r => match b with
    | .routine r' => r == r'
    | _ => false
  | .type k => match b with
    | .type k' => k == k'
    | _ => false
  | .method owner name mark => match b with
    | .method owner' name' mark' => owner == owner' && name == name' && mark == mark'
    | _ => false
  | .descriptor owner name => match b with
    | .descriptor owner' name' => owner == owner' && name == name'
    | _ => false
  | .slice lower upper step => match b with
    | .slice lower' upper' step' => same lower lower' && same upper upper' && same step step'
    | _ => false
  | .ellipsis => match b with
    | .ellipsis => true
    | _ => false
  | .lock => match b with
    | .lock => true
    | _ => false
  | .cycle n => match b with
    | .cycle m => n == m
    | _ => false
termination_by structural a

/-- Two lists have the same parts in the same places. -/
def allSame : List Data → List Data → Bool
  | [], [] => true
  | a :: rest, b :: others => same a b && allSame rest others
  | _, _ => false
termination_by structural items => items

/-- Every part of the first list is a part of the second. -/
def allMembers : List Data → List Data → Bool
  | [], _ => true
  | a :: rest, others => others.any (fun b => same a b) && allMembers rest others
termination_by structural items => items

/-- Every entry of the first list has its key and value among the second. -/
def allEntries : List (Data × Data) → List (Data × Data) → Bool
  | [], _ => true
  | (key, value) :: rest, others =>
    others.any (fun entry => same key entry.1 && same value entry.2) && allEntries rest others
termination_by structural items => items

end

/-- Two values are equal. -/
def equals (a b : Data) : Bool :=
  match a with
  | .nan _ => false
  | _ => same a b

end WorkflowEngine.Data

/-!
## Order of values

Numbers are ordered by value, texts by their characters, lists and tuples by the first place where they
differ, and sets by inclusion.  Values of other or different kinds have no order.
-/

namespace WorkflowEngine

/-- The four comparisons by order. -/
inductive Comparison where
  | less
  | lessEqual
  | greater
  | greaterEqual
deriving Repr, DecidableEq, Inhabited

namespace Comparison

/-- The sign of a comparison. -/
def sign : Comparison → String
  | .less => "<"
  | .lessEqual => "<="
  | .greater => ">"
  | .greaterEqual => ">="

/-- The comparison holds for an outcome. -/
def holds : Comparison → Ordering → Bool
  | .less, o => o == .lt
  | .lessEqual, o => o != .gt
  | .greater, o => o == .gt
  | .greaterEqual, o => o != .lt

end Comparison

namespace Data

/-- The order of two texts, by the codes of their characters. -/
def compareChars : List Char → List Char → Ordering
  | [], [] => .eq
  | [], _ :: _ => .lt
  | _ :: _, [] => .gt
  | a :: rest, b :: others =>
    match compare (Text.codeOfChar a) (Text.codeOfChar b) with
    | .eq => compareChars rest others
    | o => o

/-- The order of two byte strings. -/
def compareBytes : List UInt8 → List UInt8 → Ordering
  | [], [] => .eq
  | [], _ :: _ => .lt
  | _ :: _, [] => .gt
  | a :: rest, b :: others =>
    match compare a.toNat b.toNat with
    | .eq => compareBytes rest others
    | o => o

/-- A set comparison: inclusion in one direction, with a larger set where it is strict. -/
def compareSets (c : Comparison) (items others : List Data) : Bool :=
  match c with
  | .less => items.length < others.length && allMembers items others
  | .lessEqual => allMembers items others
  | .greater => others.length < items.length && allMembers others items
  | .greaterEqual => allMembers others items

mutual

/-- The outcome of a comparison, or the fault that the values have no order. -/
def compareBy (c : Comparison) (a b : Data) : Except Fault Bool :=
  match a with
  | .list items => match b with
    | .list others => compareItems c items others
    | other => .error (.unordered c.sign .list other.kindOf)
  | .tuple items => match b with
    | .tuple others => compareItems c items others
    | other => .error (.unordered c.sign .tuple other.kindOf)
  | .set items => match b with
    | .set others => .ok (compareSets c items others)
    | other => .error (.unordered c.sign .set other.kindOf)
  | .str s => match b with
    | .str t => .ok (c.holds (compareChars s.toList t.toList))
    | other => .error (.unordered c.sign .str other.kindOf)
  | .bytes s => match b with
    | .bytes t => .ok (c.holds (compareBytes s t))
    | other => .error (.unordered c.sign .bytes other.kindOf)
  | .complex _ _ => .error (.unordered c.sign .complex b.kindOf)
  | a =>
    match a.number?, b.number? with
    | some _, some (.complex _ _) => .error (.unordered c.sign a.kindOf b.kindOf)
    | some x, some y =>
      match x.compare? y with
      | some o => .ok (c.holds o)
      | none => .ok false
    | _, _ => .error (.unordered c.sign a.kindOf b.kindOf)

/-- Compares two lists at the first place where they differ. -/
def compareItems (c : Comparison) : List Data → List Data → Except Fault Bool
  | [], [] => .ok (c.holds .eq)
  | [], _ :: _ => .ok (c.holds .lt)
  | _ :: _, [] => .ok (c.holds .gt)
  | a :: rest, b :: others =>
    if same a b then compareItems c rest others else compareBy c a b

end

end Data

end WorkflowEngine
