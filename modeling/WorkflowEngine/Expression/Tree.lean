/-!
# Expressions as trees

A tree keeps what evaluation needs.  A construct that expressions may not use keeps only its name,
under which it is refused.
-/

namespace WorkflowEngine.Expression

/-- The operators in front of an operand. -/
inductive UnaryOperator where
  | minus
  | plus
  | complement
  | negation
deriving Repr, DecidableEq, Inhabited

/-- The operators between two operands. -/
inductive BinaryOperator where
  | add
  | subtract
  | multiply
  | divide
  | floorDivide
  | modulo
  | power
  | shiftLeft
  | shiftRight
  | bitOr
  | bitXor
  | bitAnd
  | matrix
deriving Repr, DecidableEq, Inhabited

/-- The links of a chain of comparisons. -/
inductive Link where
  | equal
  | notEqual
  | less
  | lessEqual
  | greater
  | greaterEqual
  | isIn
  | isNotIn
  | isSame
  | isNotSame
deriving Repr, DecidableEq, Inhabited

/-- Values that are written out. -/
inductive Constant where
  | null
  | bool (b : Bool)
  | int (i : Int)
  | float (x : Float)
  | imaginary (x : Float)
  | str (s : String)
  | bytes (bs : List UInt8)
  | ellipsis
deriving Repr, Inhabited, BEq

/-- What the items of a comprehension are bound to. -/
inductive Target where
  | name (text : String)
  | items (targets : List Target)
  | refused (construct : String)
deriving Repr, Inhabited, BEq

mutual

/-- An expression. -/
inductive Tree where
  /-- A part that is not written, such as a missing bound of a range. -/
  | absent
  | constant (c : Constant)
  | name (text : String)
  | unary (operator : UnaryOperator) (operand : Tree)
  | binary (operator : BinaryOperator) (left right : Tree)
  | conjunction (operands : List Tree)
  | disjunction (operands : List Tree)
  /-- A first operand, and as many links as further operands. -/
  | comparison (first : Tree) (links : List Link) (operands : List Tree)
  | choice (test positive negative : Tree)
  /-- A call; a named argument without a name spreads a dictionary. -/
  | call (callee : Tree) (arguments : List Tree) (names : List (Option String)) (named : List Tree)
  | subscript (container index : Tree)
  | attribute (owner : Tree) (name : String)
  | slice (lower upper step : Tree)
  /-- A template, as the parts that are put together. -/
  | template (parts : List Tree)
  /-- A part of a template, with the template of its layout if there is one. -/
  | placeholder (value : Tree) (layout : Tree)
  | dict (entries : List Entry)
  | tuple (items : List Tree)
  | list (items : List Tree)
  | set (items : List Tree)
  | listOf (item : Tree) (clauses : List Clause)
  | dictOf (key value : Tree) (clauses : List Clause)
  | starred (operand : Tree)
  | refused (construct : String)

/-- An entry of a dictionary, or a dictionary that is spread. -/
inductive Entry where
  | pair (key value : Tree)
  | spread (value : Tree)

/-- One source of a comprehension, with the tests that its items have to pass. -/
inductive Clause where
  | mk (target : Target) (source : Tree) (tests : List Tree)

end

instance : Inhabited Tree := ⟨.absent⟩

instance : Inhabited Entry := ⟨.spread .absent⟩

instance : Inhabited Clause := ⟨.mk default .absent []⟩

/-- A statement, of which only a value matters. -/
inductive Statement where
  | value (tree : Tree)
  | importing
  | refused (construct : String)
deriving Inhabited

end WorkflowEngine.Expression
