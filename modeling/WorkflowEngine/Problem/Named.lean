import WorkflowEngine.Fault
import WorkflowEngine.Number.Basic
import WorkflowEngine.Problem.Basic

/-!
# Problems from named parts

A problem is made of a message and parts under names.  Every class has some parts of its own, which end
up in the context or among the details.  A class that says itself how bad its problems are, or where
they arise, cannot be told so once more.
-/

namespace WorkflowEngine

/-- A value that counts as something. -/
def Data.isPresent : Data → Bool
  | .null => false
  | .str s => s != ""
  | .bytes bs => !bs.isEmpty
  | .list items => !items.isEmpty
  | .tuple items => !items.isEmpty
  | .set items => !items.isEmpty
  | .dict entries => !entries.isEmpty
  | d => (d.number?.map Number.isTrue).getD true

/-- Where a part of a problem ends up. -/
inductive PartPlace where
  | context
  | details
deriving Repr, DecidableEq, Inhabited

/-- A part of a problem that a class knows. -/
structure ProblemPart where
  name : String
  place : PartPlace
  /-- Any value but nothing is kept, not only one that counts as something. -/
  keepsAll : Bool
deriving Repr, DecidableEq, Inhabited

namespace ProblemPart

/-- A part that ends up in the context. -/
def inContext (name : String) : ProblemPart := ⟨name, .context, false⟩

/-- The value is kept. -/
def keeps (part : ProblemPart) (d : Data) : Bool :=
  if part.keepsAll then
    match d with
    | .null => false
    | _ => true
  else d.isPresent

end ProblemPart

namespace ProblemClass

/-- The parts that failures of nodes know. -/
def nodeParts : List ProblemPart := [.inContext "node_id", .inContext "execution_id"]

/-- The parts that a class knows, in the order in which they are added. -/
def parts : ProblemClass → List ProblemPart
  | .general => []
  | .validation => [.inContext "workflow_id", ⟨"validation_errors", .details, false⟩]
  | .node => nodeParts
  | .expression => nodeParts ++ [⟨"expression", .details, true⟩]
  | .dispatch => nodeParts ++ [.inContext "action_type"]
  | .request => nodeParts ++ [.inContext "url", ⟨"status_code", .details, true⟩]
  | .run => [.inContext "execution_id", .inContext "workflow_id"]
  | .registry => [.inContext "action_type", .inContext "operation"]
  | .configuration => [.inContext "config_key"]

/-- The parts that every problem knows. -/
def commonParts : List String := ["error_code", "severity", "category", "details", "recoverable", "context"]

/-- The parts that a class settles itself, and the class that is told of them. -/
def settled : ProblemClass → List String × ProblemClass
  | .general => ([], .general)
  | .node => ([], .general)
  | .expression => (["category"], .node)
  | .dispatch => (["category"], .node)
  | .request => (["category"], .node)
  | _ => (["severity", "category"], .general)

/-- What is wrong with the names of parts, if anything is. -/
def complaint? (c : ProblemClass) (names : List String) : Option Fault :=
  let (settled, told) := c.settled
  let own := c.parts.map ProblemPart.name
  match names.find? settled.contains with
  | some name =>
    some (.typed ("nodeflow.core.exceptions." ++ told.name ++
      ".__init__() got multiple values for keyword argument '" ++ name ++ "'"))
  | none =>
    (names.find? fun name => !own.contains name && !commonParts.contains name).map fun name =>
      if name == "message" then .typed (c.name ++ ".__init__() got multiple values for argument 'message'")
      else .typed (general.name ++ ".__init__() got an unexpected keyword argument '" ++ name ++ "'")

end ProblemClass

namespace Problem

/-- The member of a family that a part names. -/
def memberPart {α : Type} (family : String) (all : List α) (name : α → String) (fallback : α) :
    Option Data → Except Fault α
  | none => .ok fallback
  | some d =>
    match all.find? fun a => d.str? == some (name a) with
    | some a => .ok a
    | none => .error (.valued (d.source ++ " is not a valid " ++ family))

/-- The entries of a part, if there are any. -/
def entriesPart : Option Data → List (Data × Data)
  | some (.dict entries) => entries
  | _ => []

/-- The named parts that a class keeps in a place. -/
def partsIn (c : ProblemClass) (place : PartPlace) (named : List (String × Data)) : List (String × Data) :=
  c.parts.filterMap fun part =>
    if part.place == place then
      (named.lookup part.name).bind fun d => if part.keeps d then some (part.name, d) else none
    else none

/-- Makes a problem of a message and named parts. -/
def make (c : ProblemClass) (message : Data) (named : List (String × Data)) (now : Instant) : Except Fault Problem := do
  let severity ← memberPart "ErrorSeverity" Severity.all Severity.name c.severity (named.lookup "severity")
  let category ← memberPart "ErrorCategory" Category.all Category.name c.category (named.lookup "category")
  match c.complaint? (named.map Prod.fst) with
  | some f => throw f
  | none =>
    let code := (named.lookup "error_code").getD .null
    let plain : Problem :=
      ⟨c, message, if code.isPresent then code else .str c.name, severity, category,
       entriesPart (named.lookup "details"), (named.lookup "recoverable").getD (.bool false),
       entriesPart (named.lookup "context"), now⟩
    return (plain.addContext (partsIn c .context named)).addDetails (partsIn c .details named)

end Problem

end WorkflowEngine
