import WorkflowEngine.Expression.Evaluator
import WorkflowEngine.Text.Encoding

/-!
# Expressions over an input and variables

An expression sees the entries of its input and the variables under their names, where the input comes
first, and both as a whole.  A text is refused as a whole when it is not well formed.
-/

namespace WorkflowEngine.Expression

open Eval

/-- The functions that expressions may call. -/
def standardFunctions : List (String × Value) :=
  [("len", .routine .length), ("str", .type .str), ("int", .type .int), ("float", .type .float),
   ("bool", .type .bool), ("abs", .routine .absolute), ("min", .routine .minimum),
   ("max", .routine .maximum), ("round", .routine .rounding), ("sum", .routine .total),
   ("sorted", .routine .sorting), ("lower", .routine .lowering), ("upper", .routine .raising),
   ("strip", .routine .trimming), ("list", .type .list), ("tuple", .type .tuple),
   ("dict", .type .dict), ("set", .type .set)]

/-- The names that stand for values everywhere. -/
def literalNames : List (String × Value) :=
  [("true", .bool true), ("false", .bool false), ("null", .null)]

/-- The entries of a dictionary under texts; other values have none. -/
def textEntries (h : Heap) : Value → List (String × Value)
  | .dict a =>
    (h.entries a).filterMap fun entry =>
      match entry.1 with
      | .str name => some (name, entry.2)
      | _ => none
  | _ => []

/-- The named values of an expression. -/
def namedValues (h : Heap) (input vars : Value) : List (String × Value) :=
  ("input", input) :: ("data", input) :: ("variables", vars) ::
    (textEntries h input ++ textEntries h vars ++ literalNames)

/-- A text that cannot be read at all: it holds a lone surrogate or a null character. -/
def unreadable? (chars : List Char) : Option Fault :=
  match Text.encodingFault? chars with
  | some f => some f
  | none =>
    if chars.any fun c => c.toNat == 0 then some (.valued "source code string cannot contain null bytes")
    else none

/-- The text is not well formed. -/
def malformed : Fault := .other .grammar "invalid syntax (<syntax>)"

/-- The value of an expression over an input and variables, given how keys are applied. -/
def evaluateWith (apply : Aggregate.Apply) (functions : List (String × Value)) (expression : String)
    (input vars : Value) : Eval Value := do
  let vars ← if ← isTrue vars then pure vars else newDict []
  let chars := Text.trimChars expression.toList
  match unreadable? chars with
  | some f => fail f
  | none =>
    match readProgram chars with
    | none => fail malformed
    | some none => fail (.refused "Sorry, cannot evaluate empty string")
    | some (some statement) =>
      evaluateStatement ⟨namedValues (← heap) input vars, functions, apply, String.ofList chars⟩ statement

/-- The value of an expression over an input and variables. -/
def evaluate (functions : List (String × Value)) (expression : String) (input vars : Value) : Eval Value :=
  evaluateWith Value.applyKey functions expression input vars

/-- What is wrong with the text of an expression, if anything is. -/
def problem? (expression : String) : Except Fault (Option String) :=
  let chars := Text.trimChars expression.toList
  match unreadable? chars with
  | some f => .error f
  | none =>
    if Parser.isExpressionText chars then .ok none
    else .ok (some ("Invalid expression '" ++ expression ++ "': <syntax>"))

end WorkflowEngine.Expression
