import WorkflowEngine.Journal.Entry
import WorkflowEngine.Json.Published
import WorkflowEngine.Problem.Basic
import WorkflowEngine.Reading.Container
import WorkflowEngine.Service.Request

/-!
# Replies

A reply has a status and, mostly, a document.  A document that cannot be written makes no reply.
-/

namespace WorkflowEngine

/-- What the service answers to a request. -/
structure Reply where
  status : Int
  body : Option Data
  /-- The caller is told how long the work took. -/
  isTimed : Bool
deriving Repr, Inhabited

namespace Reply

/-- A reply with a document that holds nothing but what JSON has. -/
def plain (status : Int) (d : Data) : Except Fault Reply :=
  (Json.writeStrict d).map fun _ => ⟨status, some d, true⟩

/-- A reply with a document that is brought into the form in which other programs are told it. -/
def published (d : Data) : Except Fault Reply :=
  (Json.published d).map fun told => ⟨200, some told, true⟩

/-- A reply that says why there is no other one. -/
def refusal (status : Int) (why : Data) : Except Fault Reply :=
  plain status (Data.ofFields [("detail", why)])

/-- A reply that points to a neighbouring path. -/
def elsewhere : Reply := ⟨307, none, true⟩

/-- A reply about a record that is not there. -/
def absent (id : String) : Except Fault Reply :=
  refusal 404 (Data.ofFields
    [("error", .str "ExecutionNotFound"), ("message", .str ("Execution with ID '" ++ id ++ "' not found")),
     ("details", Data.ofFields [("execution_id", .str id)])])

/-- A finding as data, seen from the request around the document. -/
def findingData (f : Finding) : Data :=
  Data.ofFields
    [("type", .str f.issue.cause.kind), ("loc", .list ((f.issue.inside "body").path.map .str)),
     ("msg", .str f.issue.cause.message), ("input", f.given)]

/-- A reply about what is wrong with the document of a request. -/
def unreadable (findings : List Finding) : Except Fault Reply :=
  refusal 422 (.list (findings.map findingData))

end Reply

end WorkflowEngine

/-!
## Escapes

The work on a request may end in a failure instead of a reply.  Such an escape is made a reply: a problem
tells about itself, and of anything else the caller learns no more than its class.  While the work is
done, the context of the journal names the request.
-/

namespace WorkflowEngine

/-- How the work on a request ends other than with a reply. -/
inductive Escape where
  | problem (p : Problem)
  | failure (cls : String)
deriving Repr, Inhabited

/-- What stands for the id of a request. -/
def Request.mark : String := "<id>"

namespace Reply

/-- What the caller is told of a failure that nothing was prepared for. -/
def broken (now : Instant) (cls : String) : Reply :=
  ⟨500, some (Data.ofFields
    [("error", .str "InternalServerError"), ("message", .str "An unexpected error occurred"),
     ("details", Data.ofFields [("error_type", .str cls), ("timestamp", .str now.text)]),
     ("request_id", .str Request.mark)]), false⟩

/-- A reply about a problem, unless what the problem holds cannot be written. -/
def ofProblem (p : Problem) : Except Fault Reply :=
  (Json.writeStrict p.response).map fun _ => ⟨p.cls.status, some p.response, false⟩

/-- The reply that an escape is made. -/
def ofEscape (now : Instant) : Escape → Except Fault Reply
  | .problem p => ofProblem p
  | .failure cls => .ok (broken now cls)

end Reply

namespace Request

/-- The path without what follows a mark of a query or a fragment. -/
def plainPath (r : Request) : String :=
  String.ofList (r.path.toList.takeWhile fun c => c != '?' && c != '#')

/-- What names the request in the context of the journal. -/
def context (r : Request) : List (String × Data) :=
  [("request_id", .str mark), ("method", .str r.method), ("path", .str r.plainPath)]

/-- Does the work on the request in a context that names it, which is gone afterwards. -/
def within (r : Request) (now : Instant) (c : JournalContext) (work : JournalContext → Except Escape Reply) :
    Except Fault Reply × JournalContext :=
  let inner := c.set r.context
  let reply := match work inner with
    | .ok reply => .ok reply
    | .error e => Reply.ofEscape now e
  (reply, (inner.restore c.tokens.length).toOption.getD inner)

end Request

end WorkflowEngine
