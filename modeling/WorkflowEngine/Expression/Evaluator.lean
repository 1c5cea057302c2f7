import WorkflowEngine.Call.Routine
import WorkflowEngine.Expression.Limit
import WorkflowEngine.Expression.Program
import WorkflowEngine.Value.Attribute
import WorkflowEngine.Value.Selection

/-!
# Evaluating expressions

Expressions are evaluated over named values and a list of functions.  Only functions of the list may be
called, and only by their names; attributes give parts and methods, or else the entry of that name.
Statements other than values and constructs that could reach further are refused.
-/

namespace WorkflowEngine.Expression

open Eval

/-- What an expression is evaluated over, how keys are applied, and its text for messages. -/
structure Setting where
  values : List (String × Value)
  functions : List (String × Value)
  apply : Aggregate.Apply
  source : String
deriving Inhabited

/-- The names that comprehensions bind: those of the innermost one, and those around it. -/
structure Bindings where
  own : List (String × Value)
  outer : List (String × Value)
deriving Inhabited

namespace Bindings

/-- No names are bound. -/
def empty : Bindings := ⟨[], []⟩

/-- The start of a comprehension inside. -/
def enter (b : Bindings) : Bindings := ⟨[], b.own ++ b.outer⟩

/-- Sets a name among entries. -/
def setName (name : String) (v : Value) : List (String × Value) → List (String × Value)
  | [] => [(name, v)]
  | entry :: rest => if entry.1 == name then (name, v) :: rest else entry :: setName name v rest

/-- Binds a name of the innermost comprehension. -/
def bind (b : Bindings) (name : String) (v : Value) : Bindings :=
  { b with own := setName name v b.own }

/-- The value that a name is bound to. -/
def find? (b : Bindings) (name : String) : Option Value :=
  match b.own.lookup name with
  | some v => some v
  | none => b.outer.lookup name

end Bindings

/-- A construct that expressions may not use. -/
def notAvailable (construct : String) : Fault :=
  .refused ("Sorry, " ++ construct ++ " is not available in this evaluator")

/-- The value of a name. -/
def nameValue (s : Setting) (b : Bindings) (name : String) : Eval Value :=
  match b.find? name with
  | some v => pure v
  | none =>
    match s.values.lookup name with
    | some v => pure v
    | none =>
      match s.functions.lookup name with
      | some v => pure v
      | none => fail (.refused ("'" ++ name ++ "' is not defined for expression '" ++ s.source ++ "'"))

/-- The value of something that is written out. -/
def constantValue : Constant → Eval Value
  | .null => pure .null
  | .bool b => pure (.bool b)
  | .int i => pure (.int i)
  | .float x => Eval.float x
  | .imaginary x => pure (.complex 0.0 x)
  | .str t =>
    if lengthLimit < t.length then
      fail (.refused ("Literal in statement is too long! (" ++ toString t.length ++ ", when " ++
        toString lengthLimit ++ " is max)"))
    else pure (.str t)
  | .bytes bs =>
    if lengthLimit < bs.length then
      fail (.refused ("Literal in statement is too long! (" ++ toString bs.length ++ ", when " ++
        toString lengthLimit ++ " is max)"))
    else pure (.bytes bs)
  | .ellipsis => pure .ellipsis

/-- The names of attributes that would give more than a part of a value. -/
def forbiddenNames : List String :=
  ["format", "format_map", "mro", "tb_frame", "gi_frame", "ag_frame", "cr_frame", "exec"]

/-- An attribute that may not be asked for. -/
def forbidden? (name : String) : Option Fault :=
  if "_".isPrefixOf name || "func_".isPrefixOf name then
    some (.refused ("Sorry, access to __attributes  or func_ attributes is not available. (" ++ name ++ ")"))
  else if forbiddenNames.contains name then
    some (.refused ("Sorry, this method is not available. (" ++ name ++ ")"))
  else none

/-- The entry of a dictionary under a text. -/
def entryOf? (v : Value) (name : String) : Eval (Option Value) := do
  match v with
  | .dict a =>
    let h ← heap
    return h.lookup (h.entries a) (.str name)
  | _ => return none

/-- The attribute of a value: a part, a method, or an entry. -/
def attributeValue (s : Setting) (v : Value) (name : String) : Eval Value := do
  match v.attribute? name with
  | some found => return found
  | none =>
    match ← entryOf? v name with
    | some found => return found
    | none =>
      fail (.refused ("Attribute '" ++ name ++ "' does not exist in expression '" ++ s.source ++ "'"))

/-- Applies an operator in front of an operand. -/
def applyUnary (operator : UnaryOperator) (v : Value) : Eval Value :=
  match operator with
  | .minus => v.negate
  | .plus => v.keepSign
  | .complement => v.invert
  | .negation => do return .bool !(← isTrue v)

/-- Applies an operator between two operands. -/
def applyBinary (operator : BinaryOperator) (a b : Value) : Eval Value :=
  match operator with
  | .add => limitedAdd a b
  | .subtract => Value.subtract a b
  | .multiply => limitedMultiply a b
  | .divide => Value.divide a b
  | .floorDivide => Value.floorDivide a b
  | .modulo => Value.modulo a b
  | .power => limitedPower a b
  | .shiftLeft => limitedShift "<<" Value.shiftLeft a b
  | .shiftRight => limitedShift ">>" Value.shiftRight a b
  | .bitOr => Value.bitOr a b
  | .bitXor => Value.bitXor a b
  | .bitAnd => Value.bitAnd a b
  | .matrix => pure .null

/-- Compares two values by a link of a chain. -/
def applyLink (link : Link) (a b : Value) : Eval Bool :=
  match link with
  | .equal => equals a b
  | .notEqual => do return !(← equals a b)
  | .less => Value.compare .less a b
  | .lessEqual => Value.compare .lessEqual a b
  | .greater => Value.compare .greater a b
  | .greaterEqual => Value.compare .greaterEqual a b
  | .isIn => Value.contains b a
  | .isNotIn => do return !(← Value.contains b a)
  | .isSame => do return Value.isSame (← heap) a b
  | .isNotSame => do return !Value.isSame (← heap) a b

/-- The braces of a layout: where the field that it belongs to ends before its own end, and whether
there are braces inside. -/
def scanBraces (depth : Nat) (nested : Bool) (done : List Char) : List Char → Option (List Char) × Bool × Nat
  | [] => (none, nested, depth)
  | '\x7b' :: rest => scanBraces (depth + 1) true ('\x7b' :: done) rest
  | '\x7d' :: rest =>
    match depth with
    | 0 => (some done.reverse, nested, 0)
    | depth + 1 => scanBraces depth nested ('\x7d' :: done) rest
  | c :: rest => scanBraces depth nested (c :: done) rest

/-- A value in a field of a template. -/
def fieldValue (v : Value) (layout : String) : Eval Value := do
  match scanBraces 0 false [] layout.toList with
  | (some front, _, _) =>
    let _ ← lift ((← view v).layout (String.ofList front))
    fail (.valued "Single '\x7d' encountered in format string")
  | (none, true, 0) =>
    fail (.other .index "Replacement index 1 out of range for positional args tuple")
  | (none, true, _) => fail (.valued "expected '\x7d' before end of string")
  | (none, false, _) => return .str (← lift ((← view v).layout layout))

/-- Binds targets to values, place by place; what is left over on either side is passed over. -/
def bindTarget (fuel : Nat) (b : Bindings) (target : Target) (v : Value) : Eval Bindings :=
  match fuel with
  | 0 => pure b
  | fuel + 1 =>
    match target with
    | .name text => pure (b.bind text v)
    | .items targets => do
      (targets.zip (← iterate v)).foldlM (fun b pair => bindTarget fuel b pair.1 pair.2) b
    | .refused construct =>
      fail (.other .attribute ("'" ++ construct ++ "' object has no attribute 'elts'"))

/-- How deep targets may be nested. -/
def targetDepth : Nat := 200

/-- What a comprehension has made so far: items that stand reversed, or entries. -/
inductive Yield where
  | items (reversed : List Value)
  | entries (entries : List (Value × Value))
deriving Inhabited

/-- Counts an item of a comprehension. -/
def countItem : Eval Unit := do
  let m ← get
  set { m with steps := m.steps + 1 }
  if itemLimit < m.steps + 1 then fail (.refused "Comprehension generates too many elements")

/-- Goes through the items behind a cursor; the fuel bounds the items. -/
def eachItem (target : Target)
    (body : Bindings → Yield → Eval (Bindings × Yield)) :
    Nat → Bindings → Yield → Cursor → Eval (Bindings × Yield)
  | 0, b, y, _ => do
    countItem
    return (b, y)
  | fuel + 1, b, y, cursor => do
    match ← cursor.next with
    | none => return (b, y)
    | some (v, cursor) =>
      countItem
      let b ← bindTarget targetDepth b target v
      let (b, y) ← body b y
      eachItem target body fuel b y cursor

/-- Named arguments that are given twice keep the last value. -/
def lastNamed (named : List (String × Value)) : List (String × Value) :=
  named.foldl (fun done entry => Bindings.setName entry.1 entry.2 done) []

/-- A call whose last name is no text fails, some functions counting what they are given before that. -/
def refuseSpread (f : Value) (positional named : Nat) : Eval Value :=
  let counted? : Option (String × Nat × Nat) :=
    match f with
    | .type .str => some ("str", 3, positional)
    | .type .int => some ("int", 2, positional)
    | .routine .minimum => some ("min", 2, 0)
    | .routine .maximum => some ("max", 2, 0)
    | _ => none
  let comparing : Bool := f == .routine .minimum || f == .routine .maximum
  match counted? with
  | some (routine, most, places) =>
    if comparing && positional == 0 then fail (.typed (routine ++ " expected at least 1 argument, got 0"))
    else if most < places + named then
      fail (.typed (routine ++ "() takes at most " ++ toString most ++
        (if places == 0 then " keyword arguments (" else " arguments (") ++ toString (places + named) ++ " given)"))
    else fail (.typed "keywords must be strings")
  | none => fail (.typed "keywords must be strings")

/-- Calls a function of the list. -/
def callFunction (apply : Aggregate.Apply) (f : Value) (positional : List Value) (named : List (Option String × Value)) :
    Eval Value := do
  let spread := named.any fun entry => entry.1.isNone
  let names := lastNamed (named.filterMap fun entry => entry.1.map fun name => (name, entry.2))
  if spread then refuseSpread f positional.length (names.length + 1)
  else f.callWith apply ⟨positional, names⟩

mutual

/-- The value of an expression. -/
def evaluateTree (s : Setting) (b : Bindings) (tree : Tree) : Eval Value :=
  match tree with
  | .absent => pure .null
  | .constant c => constantValue c
  | .name text => nameValue s b text
  | .unary operator operand => do
    applyUnary operator (← evaluateTree s b operand)
  | .binary operator left right =>
    if operator == .matrix then
      fail (.refused ("Operator '<ast.MatMult object at 0x0>' does not exist in expression '" ++ s.source ++
        "'"))
    else do
      let a ← evaluateTree s b left
      let c ← evaluateTree s b right
      applyBinary operator a c
  | .conjunction operands => evaluateUntil s b false (.bool false) operands
  | .disjunction operands => evaluateUntil s b true (.bool false) operands
  | .comparison first links operands => do
    let a ← evaluateTree s b first
    evaluateLinks s b a (.bool true) links operands
  | .choice test positive negative => do
    if ← isTrue (← evaluateTree s b test) then evaluateTree s b positive else evaluateTree s b negative
  | .call callee arguments names named =>
    match callee with
    | .name f =>
      match s.functions.lookup f with
      | none => fail (.refused ("Function '" ++ f ++ "' is not available"))
      | some function => do
        let positional ← evaluateTrees s b [] arguments
        let values ← evaluateTrees s b [] named
        callFunction s.apply function positional (names.zip values)
    | _ => fail (.refused "Only whitelisted functions may be called; method calls are not allowed")
  | .subscript container index => do
    let c ← evaluateTree s b container
    let i ← evaluateTree s b index
    c.select i
  | .attribute owner name =>
    match forbidden? name with
    | some f => fail f
    | none => do attributeValue s (← evaluateTree s b owner) name
  | .slice lower upper step => do
    let l ← evaluateTree s b lower
    let u ← evaluateTree s b upper
    let t ← evaluateTree s b step
    return .slice l u t
  | .template parts => do
    return .str (String.join (← evaluateParts s b [] parts))
  | .placeholder value layout =>
    match layout with
    | .absent => evaluateTree s b value
    | layout => do
      match ← evaluateTree s b layout with
      | .str spec => fieldValue (← evaluateTree s b value) spec
      | _ => return .null
  | .dict entries => do
    newDict (← evaluateEntries s b [] entries)
  | .tuple items => do
    newTuple (← evaluateTrees s b [] items)
  | .list items => do
    newList (← evaluateSpread s b [] items)
  | .set items => do
    newSet (settle (← evaluateMembers s b [] items))
  | .listOf item clauses => do
    let step (b : Bindings) (y : Yield) : Eval (Bindings × Yield) := do
      let v ← evaluateTree s b item
      match y with
      | .items done => return (b, .items (v :: done))
      | y => return (b, y)
    match (← evaluateClauses s step b.enter (.items []) clauses).2 with
    | .items done => newList done.reverse
    | .entries _ => newList []
  | .dictOf key value clauses => do
    let step (b : Bindings) (y : Yield) : Eval (Bindings × Yield) := do
      let v ← evaluateTree s b value
      let k ← evaluateTree s b key
      requireKey k
      match y with
      | .entries done => return (b, .entries ((← heap).setEntry done k v))
      | y => return (b, y)
    match (← evaluateClauses s step b.enter (.entries []) clauses).2 with
    | .entries done => newDict done
    | .items _ => newDict []
  | .starred _ => fail (notAvailable "Starred")
  | .refused construct => fail (notAvailable construct)

/-- The values of expressions behind those already found, which stand reversed. -/
def evaluateTrees (s : Setting) (b : Bindings) (done : List Value) : List Tree → Eval (List Value)
  | [] => pure done.reverse
  | tree :: rest => do
    let v ← evaluateTree s b tree
    evaluateTrees s b (v :: done) rest

/-- The first value that decides: one that counts as the given truth value, or else the last. -/
def evaluateUntil (s : Setting) (b : Bindings) (deciding : Bool) (last : Value) : List Tree → Eval Value
  | [] => pure last
  | tree :: rest => do
    let v ← evaluateTree s b tree
    if (← isTrue v) == deciding then return v else evaluateUntil s b deciding v rest

/-- A chain of comparisons from a left operand on, which ends at the first that does not hold. -/
def evaluateLinks (s : Setting) (b : Bindings) (left last : Value) (links : List Link) :
    List Tree → Eval Value
  | [] => pure last
  | tree :: rest =>
    match links with
    | [] => pure last
    | link :: links => do
      let right ← evaluateTree s b tree
      if ← applyLink link left right then evaluateLinks s b right (.bool true) links rest
      else return .bool false

/-- The texts of the parts of a template behind those already found, which stand reversed. -/
def evaluateParts (s : Setting) (b : Bindings) (done : List String) : List Tree → Eval (List String)
  | [] => pure done.reverse
  | tree :: rest => do
    let t ← text (← evaluateTree s b tree)
    if lengthLimit < t.length then fail (.refused "Sorry, I will not evaluate something this long.")
    evaluateParts s b (t :: done) rest

/-- The entries of a dictionary behind those already found. -/
def evaluateEntries (s : Setting) (b : Bindings) (done : List (Value × Value)) :
    List Entry → Eval (List (Value × Value))
  | [] => pure done
  | .spread value :: rest => do
    let v ← evaluateTree s b value
    evaluateEntries s b (← Conversion.extend done v) rest
  | .pair key value :: rest => do
    let v ← evaluateTree s b value
    let k ← evaluateTree s b key
    requireKey k
    evaluateEntries s b ((← heap).setEntry done k v) rest

/-- The items of a list behind those already found, which stand reversed; a spread value gives all of
its items. -/
def evaluateSpread (s : Setting) (b : Bindings) (done : List Value) : List Tree → Eval (List Value)
  | [] => pure done.reverse
  | .starred operand :: rest => do
    let v ← evaluateTree s b operand
    evaluateSpread s b ((← iterate v).reverse ++ done) rest
  | tree :: rest => do
    let v ← evaluateTree s b tree
    evaluateSpread s b (v :: done) rest

/-- The members of a set behind those already found. -/
def evaluateMembers (s : Setting) (b : Bindings) (done : List Value) : List Tree → Eval (List Value)
  | [] => pure done
  | tree :: rest => do
    let v ← evaluateTree s b tree
    requireKey v
    let done := if (← heap).isMember done v then done else done ++ [v]
    evaluateMembers s b done rest

/-- All tests hold. -/
def evaluateTests (s : Setting) (b : Bindings) : List Tree → Eval Bool
  | [] => pure true
  | tree :: rest => do
    if ← isTrue (← evaluateTree s b tree) then evaluateTests s b rest else return false

/-- Goes through the sources of a comprehension, each inside the ones before it, and makes a step for
every choice of items that passes the tests. -/
def evaluateClauses (s : Setting) (step : Bindings → Yield → Eval (Bindings × Yield)) (b : Bindings)
    (y : Yield) : List Clause → Eval (Bindings × Yield)
  | [] => step b y
  | .mk target source tests :: rest => do
    let cursor ← Cursor.start (← evaluateTree s b source)
    let body (b : Bindings) (y : Yield) : Eval (Bindings × Yield) := do
      if ← evaluateTests s b tests then evaluateClauses s step b y rest else return (b, y)
    eachItem target body (itemLimit + 1) b y cursor

end

/-- The value of the first statement. -/
def evaluateStatement (s : Setting) : Statement → Eval Value
  | .value tree => evaluateTree s .empty tree
  | .importing => fail (.refused "Sorry, 'import' is not allowed.")
  | .refused construct => fail (notAvailable construct)

end WorkflowEngine.Expression
