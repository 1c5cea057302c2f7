import WorkflowEngine.Definition.Reader
import WorkflowEngine.Json.Reader
import WorkflowEngine.Reading.Container

/-!
# Requests

A request has a method, a path and, maybe, a body, which is read as a JSON document.  What is wrong with
the document is listed part by part, each with what stands there.
-/

namespace WorkflowEngine

/-- A request to the service. -/
structure Request where
  method : String
  path : String
  body : Option String
deriving Repr, DecidableEq, Inhabited

/-- What the body of a request holds. -/
inductive RequestBody where
  | empty
  | document (d : Data)
  /-- No document; the first character that does not fit stands at the position. -/
  | malformed (position : Nat)
  /-- A document, but too large in some part. -/
  | excessive
deriving Repr, Inhabited

namespace RequestBody

/-- The characters behind a byte order mark, if there is one. -/
def withoutMark : List Char → List Char
  | c :: rest => if c.toNat == 0xfeff then rest else c :: rest
  | [] => []

/-- Reads the characters of a document. -/
def ofChars (chars : List Char) : RequestBody :=
  match Json.readChars chars with
  | .ok d => .document d
  | .error ⟨.overlongInteger, _⟩ => .excessive
  | .error ⟨.deepArray, _⟩ => .excessive
  | .error ⟨.deepObject, _⟩ => .excessive
  | .error r => .malformed (r.position chars.length)

/-- What a body holds. -/
def ofText? : Option String → RequestBody
  | none => .empty
  | some text => if text.isEmpty then .empty else ofChars (withoutMark text.toList)

end RequestBody

namespace Finding

/-- The part of a document at a path; a step that leads nowhere is left out. -/
def partAt : List String → Data → Data
  | [], d => d
  | step :: rest, .dict entries =>
    match Data.field? entries step with
    | some part => partAt rest part
    | none => partAt rest (.dict entries)
  | step :: rest, .list items =>
    match step.toNat?.bind fun index => items[index]? with
    | some part => partAt rest part
    | none => partAt rest (.list items)
  | _ :: _, d => d

/-- An issue of a document that has to have fields wherever there is to be a record. -/
def ofIssue (document : Data) (i : Issue) : Finding :=
  let cause := match i.cause with
    | .notRecord _ => .noFields
    | cause => cause
  ⟨⟨cause, i.path⟩, partAt i.path document⟩

/-- No document where there has to be one. -/
def noDocument : Finding := ⟨⟨.missing, []⟩, .null⟩

/-- A body that is no document from a position on. -/
def malformedAt (position : Nat) : Finding := ⟨⟨.malformed, [toString position]⟩, .dict []⟩

end Finding

/-- What is asked when a workflow is to be run. -/
structure RunRequest where
  workflow : Workflow
  input : List (String × Data)
  triggeredBy : String
deriving Inhabited

namespace RunRequest

open Reading

/-- Who triggers a run where nobody is named. -/
def usualTrigger : String := "system"

/-- Reads the entries of a request for a run. -/
def ofEntries (entries : List (Data × Data)) : Reading RunRequest :=
  .mk <$> required .joined entries "workflow" Workflow.read
    <*> withDefault .joined entries "input" [] (dict any)
    <*> withDefault .joined entries "triggered_by" usualTrigger text

/-- Reads a request for a run. -/
def read : Data → Reading RunRequest :=
  record "ExecuteWorkflowRequest" ofEntries

end RunRequest

end WorkflowEngine

/-!
## Routes

A path names one of the things that the service offers, and each of them is asked for by one method.
A path that would name something with a mark more or less at its end is answered with a direction there.
-/

namespace WorkflowEngine

/-- What the service offers. -/
inductive Route where
  /-- The name and the version of the application. -/
  | title
  /-- A check of a definition. -/
  | validation
  /-- A run of a workflow. -/
  | execution
  /-- The record of a run with its log. -/
  | record (id : String)
  /-- The log of a run. -/
  | log (id : String)
  /-- The actions that workflows may use. -/
  | actions
  /-- How the service is doing. -/
  | health
deriving Repr, DecidableEq, Inhabited

namespace Route

/-- The method by which a route is asked for. -/
def method : Route → String
  | .validation => "POST"
  | .execution => "POST"
  | _ => "GET"

/-- Where all routes but the title begin. -/
def base : String := "/api/v1"

/-- The routes that hold no id, with their paths. -/
def fixed : List (String × Route) :=
  [("/", .title), (base ++ "/workflows/validate", .validation), (base ++ "/workflows/execute", .execution),
   (base ++ "/actions", .actions), (base ++ "/health", .health)]

/-- What follows the beginning of a text, if the text begins so. -/
def behind? : List Char → List Char → Option (List Char)
  | [], rest => some rest
  | _ :: _, [] => none
  | a :: start, b :: rest => if a == b then behind? start rest else none

/-- The route to the parts of a record, from the characters of its id on. -/
def ofRecordPath? (chars : List Char) : Option Route :=
  let id := chars.takeWhile (· != '/')
  if id.isEmpty then none
  else
    match chars.drop id.length with
    | [] => some (.record (String.ofList id))
    | rest => if rest == "/logs".toList then some (.log (String.ofList id)) else none

/-- The route that a path names. -/
def ofPath? (path : String) : Option Route :=
  match fixed.lookup path with
  | some route => some route
  | none => (behind? (base ++ "/executions/").toList path.toList).bind ofRecordPath?

/-- A path without the marks at its end, or with one if it has none. -/
def turned (path : String) : String :=
  let reversed := path.toList.reverse
  if reversed.head? == some '/' then String.ofList (reversed.dropWhile (· == '/')).reverse else path.push '/'

end Route

/-- Where a request goes. -/
inductive Routing where
  | found (route : Route)
  /-- There is something at the path, but not by this method. -/
  | barred
  /-- There is something at a neighbouring path. -/
  | elsewhere
  | unknown
deriving Repr, DecidableEq, Inhabited

/-- Where a request with a method and a path goes. -/
def Routing.of (method path : String) : Routing :=
  match Route.ofPath? path with
  | some route => if route.method == method then .found route else .barred
  | none => if path != "/" && (Route.ofPath? (Route.turned path)).isSome then .elsewhere else .unknown

end WorkflowEngine
