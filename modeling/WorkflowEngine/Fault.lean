import WorkflowEngine.Data.Text

/-!
# Faults

A fault is the cause for which an operation on values gives no result.  Each has a class, by which it
may be caught, and a message.
-/

namespace WorkflowEngine

/-- The classes of faults. -/
inductive FaultClass where
  | type
  | value
  | key
  | index
  | zeroDivision
  | overflow
  | attribute
  | runtime
  | recursion
  | timeout
  | refusal
  | grammar
  | network
  | encoding
  | expression
  | serialization
  | memory
deriving Repr, DecidableEq, Inhabited

/-- The word for a class of faults. -/
def FaultClass.name : FaultClass → String
  | .type => "TypeError"
  | .value => "ValueError"
  | .key => "KeyError"
  | .index => "IndexError"
  | .zeroDivision => "ZeroDivisionError"
  | .overflow => "OverflowError"
  | .attribute => "AttributeError"
  | .runtime => "RuntimeError"
  | .recursion => "RecursionError"
  | .timeout => "TimeoutError"
  | .refusal => "InvalidExpression"
  | .grammar => "SyntaxError"
  | .network => "ClientError"
  | .encoding => "UnicodeEncodeError"
  | .expression => "ExpressionError"
  | .serialization => "PydanticSerializationError"
  | .memory => "MemoryError"

/-- Why an operation on values has no result. -/
inductive Fault where
  /-- A binary operator is not defined for the kinds of its operands. -/
  | unsupported (operator : String) (left right : Kind)
  /-- A unary operator is not defined for the kind of its operand. -/
  | unsupportedUnary (operator : String) (kind : Kind)
  /-- Two values have no order. -/
  | unordered (operator : String) (left right : Kind)
  /-- The value has no items to go through. -/
  | notIterable (kind : Kind)
  /-- The value cannot be asked for a member. -/
  | notContainer (kind : Kind)
  /-- The value has no length. -/
  | noLength (kind : Kind)
  /-- The value has no parts to select. -/
  | notSubscriptable (kind : Kind)
  /-- The value cannot be a key of a dictionary or a member of a set. -/
  | unhashable (kind : Kind)
  /-- The index lies outside the sequence, which is named. -/
  | outOfRange (sequence : String)
  /-- The dictionary has no such key. -/
  | missingKey (key : Data)
  /-- An integer lies beyond every double. -/
  | tooLargeForFloat
  /-- An integer has more digits than may be written. -/
  | tooManyDigits
  /-- A container holds itself where a finite tree is needed. -/
  | circular
  /-- The value cannot be copied. -/
  | notCopyable (name : String)
  /-- Any other cause, with its class and message. -/
  | other (cls : FaultClass) (message : String)
deriving Repr, Inhabited, BEq

namespace Fault

/-- A fault in the kind of a value. -/
abbrev typed (message : String) : Fault := .other .type message

/-- A fault in a value of the right kind. -/
abbrev valued (message : String) : Fault := .other .value message

/-- A construct that expressions may not use. -/
abbrev refused (message : String) : Fault := .other .refusal message

/-- A value is too long to be held. -/
abbrev exhausted : Fault := .other .memory ""

/-- The class of a fault. -/
def cls : Fault → FaultClass
  | .outOfRange _ => .index
  | .missingKey _ => .key
  | .tooLargeForFloat => .overflow
  | .tooManyDigits => .value
  | .circular => .value
  | .other c _ => c
  | _ => .type

/-- The message of a fault. -/
def message : Fault → String
  | .unsupported operator left right =>
    s!"unsupported operand type(s) for {operator}: '" ++ left.name ++ "' and '" ++ right.name ++ "'"
  | .unsupportedUnary operator kind =>
    s!"bad operand type for {operator}: '" ++ kind.name ++ "'"
  | .unordered operator left right =>
    s!"'{operator}' not supported between instances of '" ++ left.name ++ "' and '" ++ right.name ++ "'"
  | .notIterable kind => "'" ++ kind.name ++ "' object is not iterable"
  | .notContainer kind => "argument of type '" ++ kind.name ++ "' is not iterable"
  | .noLength kind => "object of type '" ++ kind.name ++ "' has no len()"
  | .notSubscriptable kind => "'" ++ kind.name ++ "' object is not subscriptable"
  | .unhashable kind => "unhashable type: '" ++ kind.name ++ "'"
  | .outOfRange sequence => s!"{sequence} index out of range"
  | .missingKey key => key.source
  | .tooLargeForFloat => "int too large to convert to float"
  | .tooManyDigits => "Exceeds the limit (4300 digits) for integer string conversion"
  | .circular => "Circular reference detected"
  | .notCopyable name => s!"cannot pickle '{name}' object"
  | .other _ message => message

/-- The message, or the class where the message is empty. -/
def summary (f : Fault) : String :=
  if f.message == "" then f.cls.name else f.message

end Fault

end WorkflowEngine
