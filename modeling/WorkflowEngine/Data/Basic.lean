/-!
# Data

Data is a value at rest: a finite tree, as it is read from a document, kept in a record and written
into an answer.  A container that holds itself is cut where it would repeat, and the cut says how many
levels up the container stands.  A missing number carries a mark that tells it from other ones.
-/

/-!
## Kinds of values

Every value has one kind.  Messages name kinds by the words given here.
-/

namespace WorkflowEngine

/-- The kinds of values that expressions and actions meet. -/
inductive Kind where
  | null
  | bool
  | int
  | float
  | complex
  | str
  | bytes
  | list
  | tuple
  | dict
  | set
  | routine
  | builtin
  | descriptor
  | field
  | type
  | slice
  | ellipsis
  | lock
deriving Repr, DecidableEq, Inhabited

/-- The word for a kind in messages. -/
def Kind.name : Kind → String
  | .null => "NoneType"
  | .bool => "bool"
  | .int => "int"
  | .float => "float"
  | .complex => "complex"
  | .str => "str"
  | .bytes => "bytes"
  | .list => "list"
  | .tuple => "tuple"
  | .dict => "dict"
  | .set => "set"
  | .routine => "function"
  | .builtin => "builtin_function_or_method"
  | .descriptor => "method_descriptor"
  | .field => "getset_descriptor"
  | .type => "type"
  | .slice => "slice"
  | .ellipsis => "ellipsis"
  | .lock => "_thread.lock"

/-- The parts of numbers that can be asked for by name. -/
def partNames : List String := ["real", "imag", "numerator", "denominator"]

/-- What a type gives for a name: one of the parts of its values or one of its methods. -/
def descriptorKind (name : String) : Kind :=
  if partNames.contains name then .field else .descriptor

/-- The routines that expressions may call by name. -/
inductive Routine where
  | length
  | absolute
  | minimum
  | maximum
  | rounding
  | total
  | sorting
  | lowering
  | raising
  | trimming
  | doubling
deriving Repr, DecidableEq, Inhabited

/-- The name under which a routine shows itself. -/
def Routine.name : Routine → String
  | .length => "len"
  | .absolute => "abs"
  | .minimum => "min"
  | .maximum => "max"
  | .rounding => "round"
  | .total => "sum"
  | .sorting => "sorted"
  | .lowering => "_lower"
  | .raising => "_upper"
  | .trimming => "_strip"
  | .doubling => "<lambda>"

/-- The routine belongs to the built-in ones. -/
def Routine.isBuiltin : Routine → Bool
  | .lowering => false
  | .raising => false
  | .trimming => false
  | .doubling => false
  | _ => true

/-- The kind of a routine as a value. -/
def Routine.kind (r : Routine) : Kind :=
  if r.isBuiltin then .builtin else .routine

end WorkflowEngine

/-! ## Values at rest -/

namespace WorkflowEngine

/-- A value written out as a finite tree. -/
inductive Data where
  | null
  | bool (b : Bool)
  | int (i : Int)
  | float (x : Float)
  | nan (mark : Nat)
  | complex (re im : Float)
  | str (s : String)
  | bytes (bs : List UInt8)
  | list (items : List Data)
  | tuple (items : List Data)
  | set (items : List Data)
  | dict (entries : List (Data × Data))
  | routine (r : Routine)
  | type (k : Kind)
  | method (owner : Kind) (name : String) (mark : Nat)
  | descriptor (owner : Kind) (name : String)
  | slice (lower upper step : Data)
  | ellipsis
  | lock
  | cycle (levels : Nat)
deriving Repr, Inhabited, BEq

namespace Data

/-- The kind of a value; a cut counts as a dictionary. -/
def kindOf : Data → Kind
  | .null => .null
  | .bool _ => .bool
  | .int _ => .int
  | .float _ => .float
  | .nan _ => .float
  | .complex _ _ => .complex
  | .str _ => .str
  | .bytes _ => .bytes
  | .list _ => .list
  | .tuple _ => .tuple
  | .set _ => .set
  | .dict _ => .dict
  | .routine r => r.kind
  | .type _ => .type
  | .method _ _ _ => .builtin
  | .descriptor _ name => descriptorKind name
  | .slice _ _ _ => .slice
  | .ellipsis => .ellipsis
  | .lock => .lock
  | .cycle _ => .dict

/-- The text, if the value is a text. -/
def str? : Data → Option String
  | .str s => some s
  | _ => none

/-- The entries, if the value is a dictionary. -/
def dict? : Data → Option (List (Data × Data))
  | .dict entries => some entries
  | _ => none

/-- The entry of a dictionary under a text key. -/
def field? (entries : List (Data × Data)) (name : String) : Option Data :=
  (entries.find? fun entry => entry.1.str? == some name).map Prod.snd

/-- Gives a text key its value, at the place of the key or behind all others. -/
def setField (name : String) (value : Data) : List (Data × Data) → List (Data × Data)
  | [] => [(.str name, value)]
  | (key, old) :: rest =>
    if key.str? == some name then (key, value) :: rest else (key, old) :: setField name value rest

/-- A dictionary with text keys. -/
def ofFields (fields : List (String × Data)) : Data :=
  .dict (fields.map fun field => (.str field.1, field.2))

/-- A dictionary of texts under texts. -/
def ofTexts (entries : List (String × String)) : Data :=
  ofFields (entries.map fun entry => (entry.1, .str entry.2))

/-- A text or nothing. -/
def ofStr? : Option String → Data
  | some s => .str s
  | none => .null

end Data

end WorkflowEngine
