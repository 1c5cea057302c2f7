import WorkflowEngine.Call.Conversion
import WorkflowEngine.Data.Comparison
import WorkflowEngine.Json.Writer
import WorkflowEngine.Pattern.Matcher
import WorkflowEngine.Text.Case
import WorkflowEngine.Text.Trim
import WorkflowEngine.Value.Container

/-!
# Conditions

A condition compares a variable with an expected value.  Variables are looked up in the input first and
then among the variables of the run; a dotted name is a path, unless some key is spelled just like it.
-/

namespace WorkflowEngine

/-- How a variable is compared. -/
inductive Operator where
  | equals
  | notEquals
  | greaterThan
  | lessThan
  | contains
  | regex
  | isEmpty
  | isNotEmpty
  /-- An operator that is not known, which never holds. -/
  | unknown (name : String)
deriving Repr, DecidableEq, Inhabited

namespace Operator

/-- The operators that are known. -/
def known : List Operator :=
  [.equals, .notEquals, .greaterThan, .lessThan, .contains, .regex, .isEmpty, .isNotEmpty]

/-- The name of an operator. -/
def name : Operator → String
  | .equals => "equals"
  | .notEquals => "not_equals"
  | .greaterThan => "greater_than"
  | .lessThan => "less_than"
  | .contains => "contains"
  | .regex => "regex"
  | .isEmpty => "is_empty"
  | .isNotEmpty => "is_not_empty"
  | .unknown name => name

/-- The operator with a name. -/
def ofName (name : String) : Operator :=
  (known.find? fun o => o.name == name).getD (.unknown name)

end Operator

/-- A comparison of a variable with an expected value. -/
structure Condition where
  subject : String
  operator : Operator
  value : Data
  caseSensitive : Bool
deriving Repr, Inhabited

namespace Condition

/-- The parts of a name between dots. -/
def pathOf (name : String) : List String :=
  (name.toList.splitOn '.').map String.ofList

/-- The index that a part of a path spells; a digit that is not decimal is a fault. -/
def indexOf (part : String) : Except Fault Nat :=
  (Number.spelledInt part).map Int.toNat

/-- All characters of a part are digits. -/
def isIndex (part : String) : Bool :=
  part != "" && part.toList.all Text.Unicode.isDigit

/-- The item of a sequence that a part names, if it names one. -/
def itemAt {α : Type} (items : List α) (part : String) : Except Fault (Option α) :=
  if isIndex part then (indexOf part).map fun i => items[i]?
  else .ok none

end Condition

/-- How a path leads into values: into dictionaries by the names of entries, and into sequences by the places of items. -/
structure Opening (α : Type) where
  /-- The entry of a dictionary under a name. -/
  entry? : α → String → Option α
  /-- The items of a sequence. -/
  items? : α → Option (List α)

namespace Opening

variable {α : Type} (o : Opening α)

/-- What a part of a path leads to. -/
def step (value : α) (part : String) : Except Fault (Option α) :=
  match o.entry? value part with
  | some next => .ok (some next)
  | none =>
    match o.items? value with
    | some items => Condition.itemAt items part
    | none => .ok none

/-- What a path leads to. -/
def walk (value : α) : List String → Except Fault (Option α)
  | [] => .ok (some value)
  | part :: rest =>
    match o.step value part with
    | .error f => .error f
    | .ok none => .ok none
    | .ok (some next) => walk next rest

/-- What a name stands for in one source: an entry spelled just like it, or what its path leads to. -/
def findIn (source : α) (name : String) : Except Fault (Option α) :=
  match o.entry? source name with
  | some value => .ok (some value)
  | none => o.walk source (Condition.pathOf name)

/-- What a name stands for: in the input, or else among the variables. -/
def find (name : String) (input vars : α) : Except Fault (Option α) :=
  match o.findIn input name with
  | .error f => .error f
  | .ok (some value) => .ok (some value)
  | .ok none => o.findIn vars name

end Opening

/-- How a path leads into data. -/
def Data.opening : Opening Data where
  entry?
    | .dict entries, name => Data.field? entries name
    | _, _ => none
  items?
    | .list items => some items
    | .tuple items => some items
    | _ => none

/-- How a path leads into the values on a heap. -/
def Heap.opening (h : Heap) : Opening Value where
  entry?
    | .dict a, name => h.lookup (h.entries a) (.str name)
    | _, _ => none
  items?
    | .list a => some (h.items a)
    | .tuple a => some (h.items a)
    | _ => none

namespace Condition

/-- What a name stands for in data; an unknown one stands for nothing. -/
def resolve (name : String) (input vars : Data) : Except Fault Data :=
  (Data.opening.find name input vars).map fun found => found.getD .null

/-- What a name stands for on a heap; an unknown one stands for nothing. -/
def resolveOn (h : Heap) (name : String) (input vars : Value) : Except Fault Value :=
  (h.opening.find name input vars).map fun found => found.getD .null

/-- A value as a number; what is no number counts as the missing one. -/
def toNumber (value : Data) : Except Fault Float :=
  match value with
  | .bool b => .ok (if b then 1.0 else 0.0)
  | .int i => Number.floatOfInt i
  | .float x => .ok x
  | .str s =>
    let text := Text.trim s
    if text == "" then .ok 0.0 else .ok ((Decimal.readFloat? text).getD Decimal.missingNumber)
  | _ => .ok Decimal.missingNumber

/-- The value is a truth value. -/
def isBool : Data → Bool
  | .bool _ => true
  | _ => false

/-- Equality by which truth values are no numbers. -/
def strictlyEqual (a b : Data) : Bool :=
  isBool a == isBool b && Data.equals a b

/-- There is nothing in the value. -/
def isEmpty : Data → Bool
  | .null => true
  | .str s => s == ""
  | .list items => items.isEmpty
  | .tuple items => items.isEmpty
  | .set items => items.isEmpty
  | .dict entries => entries.isEmpty
  | _ => false

mutual

/-- A value of a definition beside those of a run: its missing numbers are none of theirs, and it has no methods. -/
def foreign : Data → Data
  | .nan _ => .float Decimal.missingNumber
  | .list items => .list (foreignItems items)
  | .tuple items => .tuple (foreignItems items)
  | .set items => .set (foreignItems items)
  | .dict entries => .dict (foreignEntries entries)
  | .method _ _ _ => .null
  | .slice lower upper step => .slice (foreign lower) (foreign upper) (foreign step)
  | d => d

/-- Items of a definition beside those of a run. -/
def foreignItems : List Data → List Data
  | [] => []
  | item :: rest => foreign item :: foreignItems rest

/-- Entries of a definition beside those of a run. -/
def foreignEntries : List (Data × Data) → List (Data × Data)
  | [] => []
  | (key, value) :: rest => (foreign key, foreign value) :: foreignEntries rest

end

/-- The variable equals the expected value; texts may be compared without regard to case. -/
def equalsExpected (c : Condition) (value : Data) : Bool :=
  match value, c.value with
  | .str a, .str b =>
    if c.caseSensitive then a == b else Text.lower a == Text.lower b
  | a, b => strictlyEqual a (foreign b)

/-- The first list stands somewhere in the second. -/
def occursIn (part : List Char) : List Char → Bool
  | [] => part.isEmpty
  | c :: rest => part.isPrefixOf (c :: rest) || occursIn part rest

/-- The plain text of the value contains that of the expected one. -/
def containsExpected (c : Condition) (value : Data) : Except Fault Bool := do
  let whole ← value.plain
  let part ← c.value.plain
  if c.caseSensitive then return occursIn part.toList whole.toList
  else return occursIn (Text.lower part).toList (Text.lower whole).toList

/-- The words for a pattern that cannot be used, or another fault. -/
def explainPattern (value : Data) (pattern : String) (p : Pattern.Problem) : Except Fault String := do
  let reason ← p.explain pattern
  return "Invalid regular expression '" ++ (← value.text?) ++ "': " ++ reason

/-- The expected value, read as a pattern, fits some part of the plain text of the value. -/
def matchesExpected (c : Condition) (value : Data) : Except Fault Bool := do
  let pattern ← c.value.plain
  let text ← value.plain
  let options := { Pattern.Options.none with ignoreCase := !c.caseSensitive }
  match Pattern.compile options pattern with
  | .ok parsed => return Pattern.search parsed text
  | .error p =>
    throw (.other .expression (← explainPattern c.value pattern p))

/-- The condition holds, given what names stand for. -/
def holds (c : Condition) (find : String → Except Fault Data) : Except Fault Bool := do
  let value ← find c.subject
  match c.operator with
  | .equals => return c.equalsExpected value
  | .notEquals => return !c.equalsExpected value
  | .greaterThan =>
    let a ← toNumber value
    let b ← toNumber c.value
    return b < a
  | .lessThan =>
    let a ← toNumber value
    let b ← toNumber c.value
    return a < b
  | .contains => c.containsExpected value
  | .regex => c.matchesExpected value
  | .isEmpty => return isEmpty value
  | .isNotEmpty => return !isEmpty value
  | .unknown _ => return false

/-- Whether every condition holds. -/
def results (find : String → Except Fault Data) (done : List Bool) : List Condition → Except Fault (List Bool)
  | [] => .ok done.reverse
  | c :: rest =>
    match c.holds find with
    | .error f => .error f
    | .ok b => results find (b :: done) rest

/-- The conditions hold together: all of them under "AND", and some of them otherwise. -/
def judge (logical : String) (find : String → Except Fault Data) (conditions : List Condition) :
    Except Fault (Bool × List Bool) :=
  (results find [] conditions).map fun found =>
    (if logical == "AND" then found.all id else found.any id, found)

/-- Conditions on an input and variables that are data. -/
def evaluate (logical : String) (input vars : Data) (conditions : List Condition) :
    Except Fault (Bool × List Bool) :=
  judge logical (fun name => resolve name input vars) conditions

/-- Conditions on an input and variables on a heap. -/
def evaluateOn (h : Heap) (logical : String) (input vars : Value) (conditions : List Condition) :
    Except Fault (Bool × List Bool) :=
  judge logical (fun name => (resolveOn h name input vars).map h.view) conditions

/-- What is wrong with a value as a pattern, if anything is. -/
def patternProblem? (value : Data) : Except Fault (Option String) := do
  let pattern ← value.plain
  match Pattern.compile .none pattern with
  | .ok _ => return none
  | .error p => return some (← explainPattern value pattern p)

end Condition

end WorkflowEngine
