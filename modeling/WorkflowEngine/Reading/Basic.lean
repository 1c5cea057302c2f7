import WorkflowEngine.Fault

/-!
# Reading documents

Reading a part of a document yields a value, or is refused for a list of issues, or ends in a fault.
Parts that stand beside each other are read with `<*>`, which lists the issues of all of them in order;
`Reading.check` goes on only with a value.
-/

/-!
## Issues

An issue says what is wrong with a part of a document: its cause, and the path to the part.
-/

namespace WorkflowEngine

/-- What can be wrong with a part of a document. -/
inductive Cause where
  /-- A field that has to be there is not. -/
  | missing
  | notText
  /-- The bytes or halves of characters are no text. -/
  | unreadableText
  | notDictionary
  | notList
  /-- The part cannot be the named record. -/
  | notRecord (name : String)
  /-- The part has no fields at all. -/
  | noFields
  | notBool
  | unreadableBool
  | notInt
  | unreadableInt
  /-- The number has a fractional part. -/
  | fractional
  /-- The integer has too many digits or lies too far out. -/
  | oversized
  | notFinite
  | notFloat
  | unreadableFloat
  | negative
  /-- The text is none of the choices. -/
  | notAmong (choices : List String)
  /-- The text names no member of a fixed family. -/
  | notMember (choices : List String)
  /-- The tag selects none of the variants. -/
  | wrongTag (shown : String) (tags : List String)
  /-- A rule of the record is broken, in the words of the rule. -/
  | stated (message : String)
  /-- The record cannot be changed. -/
  | fixed
  /-- The document is no JSON. -/
  | malformed
deriving Repr, DecidableEq, Inhabited

namespace Cause

/-- The choices between quotes, with a word before the last. -/
def choiceText : List String → String
  | [] => ""
  | [only] => "'" ++ only ++ "'"
  | [first, last] => "'" ++ first ++ "' or '" ++ last ++ "'"
  | first :: rest => "'" ++ first ++ "', " ++ choiceText rest

/-- The tags between quotes. -/
def tagText (tags : List String) : String :=
  ", ".intercalate (tags.map fun tag => "'" ++ tag ++ "'")

/-- The word for a cause. -/
def kind : Cause → String
  | .missing => "missing"
  | .notText => "string_type"
  | .unreadableText => "string_unicode"
  | .notDictionary => "dict_type"
  | .notList => "list_type"
  | .notRecord _ => "model_type"
  | .noFields => "model_attributes_type"
  | .notBool => "bool_type"
  | .unreadableBool => "bool_parsing"
  | .notInt => "int_type"
  | .unreadableInt => "int_parsing"
  | .fractional => "int_from_float"
  | .oversized => "int_parsing_size"
  | .notFinite => "finite_number"
  | .notFloat => "float_type"
  | .unreadableFloat => "float_parsing"
  | .negative => "greater_than_equal"
  | .notAmong _ => "literal_error"
  | .notMember _ => "enum"
  | .wrongTag _ _ => "union_tag_invalid"
  | .stated _ => "value_error"
  | .fixed => "frozen_instance"
  | .malformed => "json_invalid"

/-- The message for a cause. -/
def message : Cause → String
  | .missing => "Field required"
  | .notText => "Input should be a valid string"
  | .unreadableText => "Input should be a valid string, unable to parse raw data as a unicode string"
  | .notDictionary => "Input should be a valid dictionary"
  | .notList => "Input should be a valid list"
  | .notRecord name => "Input should be a valid dictionary or instance of " ++ name
  | .noFields => "Input should be a valid dictionary or object to extract fields from"
  | .notBool => "Input should be a valid boolean"
  | .unreadableBool => "Input should be a valid boolean, unable to interpret input"
  | .notInt => "Input should be a valid integer"
  | .unreadableInt => "Input should be a valid integer, unable to parse string as an integer"
  | .fractional => "Input should be a valid integer, got a number with a fractional part"
  | .oversized => "Unable to parse input string as an integer, exceeded maximum size"
  | .notFinite => "Input should be a finite number"
  | .notFloat => "Input should be a valid number"
  | .unreadableFloat => "Input should be a valid number, unable to parse string as a number"
  | .negative => "Input should be greater than or equal to 0"
  | .notAmong choices => "Input should be " ++ choiceText choices
  | .notMember choices => "Input should be " ++ choiceText choices
  | .wrongTag shown tags =>
    "Input tag '" ++ shown ++ "' found using 'type' does not match any of the expected tags: " ++ tagText tags
  | .stated message => "Value error, " ++ message
  | .fixed => "Instance is frozen"
  | .malformed => "JSON decode error"

end Cause

/-- Something wrong with a part of a document. -/
structure Issue where
  cause : Cause
  path : List String
deriving Repr, DecidableEq, Inhabited

namespace Issue

/-- The issue as seen from a container around the document. -/
def inside (step : String) (i : Issue) : Issue :=
  { i with path := step :: i.path }

end Issue

end WorkflowEngine

/-! ## Reading documents -/

namespace WorkflowEngine

/-- What reading a part of a document comes to. -/
inductive Reading (α : Type) where
  | ok (value : α)
  | refused (issues : List Issue)
  | failed (f : Fault)
deriving Repr, Inhabited

namespace Reading

/-- Refuses the part itself. -/
def refuse {α : Type} (cause : Cause) : Reading α :=
  .refused [⟨cause, []⟩]

/-- A rule of the record is broken. -/
def state {α : Type} (message : String) : Reading α :=
  refuse (.stated message)

/-- Changes the value. -/
def map {α β : Type} (f : α → β) : Reading α → Reading β
  | .ok a => .ok (f a)
  | .refused issues => .refused issues
  | .failed f => .failed f

/-- Goes on with the value, if there is one. -/
def check {α β : Type} (r : Reading α) (next : α → Reading β) : Reading β :=
  match r with
  | .ok a => next a
  | .refused issues => .refused issues
  | .failed f => .failed f

/-- Reads two parts, listing the issues of both; the first fault ends reading. -/
def both {α β : Type} (a : Reading α) (b : Unit → Reading β) : Reading (α × β) :=
  match a with
  | .failed f => .failed f
  | .ok x =>
    match b () with
    | .ok y => .ok (x, y)
    | .refused issues => .refused issues
    | .failed f => .failed f
  | .refused first =>
    match b () with
    | .ok _ => .refused first
    | .refused second => .refused (first ++ second)
    | .failed f => .failed f

instance : Functor Reading where
  map := map

instance : Pure Reading where
  pure := .ok

instance : Applicative Reading where
  seq f a := (both f a).map fun pair => pair.1 pair.2

/-- The part lies inside a container. -/
def inside {α : Type} (step : String) : Reading α → Reading α
  | .ok a => .ok a
  | .refused issues => .refused (issues.map (Issue.inside step))
  | .failed f => .failed f

/-- The outcome as a fault, a list of issues or a value. -/
def toExcept {α : Type} : Reading α → Except Fault (Except (List Issue) α)
  | .ok a => .ok (.ok a)
  | .refused issues => .ok (.error issues)
  | .failed f => .error f

/-- Two parts read beside each other give a value exactly when both do. -/
theorem both_eq_ok_iff {α β : Type} {a : Reading α} {b : Unit → Reading β} {x : α} {y : β} :
    both a b = .ok (x, y) ↔ a = .ok x ∧ b () = .ok y := by
  cases a <;> cases h : b () <;> simp [both, h]

end Reading

end WorkflowEngine
