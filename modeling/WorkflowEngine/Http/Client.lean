import WorkflowEngine.Definition.Basic
import WorkflowEngine.Json.Reader
import WorkflowEngine.Number.Basic
import WorkflowEngine.Text.Case
import WorkflowEngine.Text.Encoding

/-!
# Requests

A client sends requests through a transport and decodes the replies.  The transport keeps what was sent
and holds what is to come back; when nothing is left it answers every request alike.
-/

namespace WorkflowEngine.Http

/-- A request as it is sent. -/
structure Request where
  method : String
  url : String
  timeout : Number
  headers : Option (List (String × String))
  body : Option Data
deriving Repr, Inhabited

/-- A request as data. -/
def Request.toData (r : Request) : Data :=
  Data.ofFields ([("method", .str r.method), ("url", .str r.url), ("timeout", r.timeout.toData),
    ("headers", (r.headers.map Data.ofTexts).getD .null)] ++
    match r.body with
    | some d => [("json", d)]
    | none => [])

/-- A reply as it comes back. -/
structure Reply where
  status : Int
  reason : Data
  headers : List (String × String)
  body : List UInt8
deriving Repr, Inhabited

/-- What a request comes to. -/
inductive Outcome where
  | reply (r : Reply)
  /-- Nothing came back in time. -/
  | timeout
  /-- The connection failed. -/
  | disconnected (message : String)
  /-- The request could not be sent at all. -/
  | fault (f : Fault)
deriving Repr, Inhabited

/-- What is to come back, and what was sent, the latest first. -/
structure Transport where
  replies : List Outcome
  sent : List Request
deriving Repr, Inhabited

namespace Transport

/-- What comes back when nothing else is left. -/
def usual : Outcome :=
  .reply ⟨200, .str "OK", [], Text.Utf8.encode "\x7b\"ok\": true\x7d"⟩

/-- Sends a request. -/
def exchange (t : Transport) (r : Request) : Outcome × Transport :=
  match t.replies with
  | [] => (usual, { t with sent := r :: t.sent })
  | o :: rest => (o, ⟨rest, r :: t.sent⟩)

end Transport

/-- A reply as it is decoded. -/
structure Response where
  status : Int
  headers : List (String × String)
  data : Data
deriving Repr, Inhabited

/-- Why a request has no response: in words, where it went, and with which status. -/
structure RequestError where
  message : String
  url : String
  status : Option Int
deriving Repr, DecidableEq, Inhabited

namespace RequestError

/-- Where the request went, if that is known. -/
def context (e : RequestError) : List (String × String) :=
  if e.url == "" then [] else [("url", e.url)]

/-- The status of the reply, if there was one. -/
def details (e : RequestError) : List (String × Int) :=
  match e.status with
  | some status => [("status_code", status)]
  | none => []

end RequestError

/-- How a request ends other than with a response. -/
inductive Failure where
  | refused (e : RequestError)
  | fault (f : Fault)
deriving Repr, Inhabited

/-- What is said of a document with too many containers inside each other. -/
def nestingFault (container : String) : Fault :=
  .other .recursion ("maximum recursion depth exceeded while decoding a JSON " ++ container ++
    " from a unicode string")

/-- The body of a reply: nothing, a JSON document, or a text. -/
def decodeBody (bytes : List UInt8) : Except Fault Data :=
  if bytes.isEmpty then .ok .null
  else
    let text := Text.Utf8.decode bytes
    match Json.read text with
    | .ok d => .ok d
    | .error ⟨.deepArray, _⟩ => .error (nestingFault "array")
    | .error ⟨.deepObject, _⟩ => .error (nestingFault "object")
    | .error _ => .ok (.str text)

/-- One entry for each name of a header, which keeps its first spelling and value. -/
def firstHeaders (kept : List (String × String)) : List (String × String) → List (String × String)
  | [] => kept.reverse
  | (name, value) :: rest =>
    if kept.any fun entry => Text.lower entry.1 == Text.lower name then firstHeaders kept rest
    else firstHeaders ((name, value) :: kept) rest

/-- The limit in seconds where none is given. -/
def usualTimeout : Number := .float 30.0

/-- The methods whose requests have a body. -/
def bodyMethods : List String := ["POST", "PUT", "PATCH"]

/-- The request that is sent, with a limit in seconds. -/
def prepare (method url : String) (headers : List (String × String)) (body : Data) (timeout : Number) : Request :=
  let method := Text.upper method
  let sendsBody :=
    match body with
    | .null => false
    | _ => bodyMethods.contains method
  ⟨method, url, timeout, if headers.isEmpty then none else some headers, if sendsBody then some body else none⟩

/-- What an outcome means for a request. -/
def settle (r : Request) : Outcome → Except Failure Response
  | .reply reply =>
    if 200 ≤ reply.status && reply.status < 300 then
      match decodeBody reply.body with
      | .ok d => .ok ⟨reply.status, firstHeaders [] reply.headers, d⟩
      | .error f => .error (.fault f)
    else
      .error (.refused ⟨"API request failed: " ++ toString reply.status ++ " " ++ reply.reason.text, r.url,
        some reply.status⟩)
  | .timeout => .error (.refused ⟨"API request timed out after " ++ r.timeout.text ++ " seconds", r.url, none⟩)
  | .disconnected message => .error (.refused ⟨"API execution error: " ++ message, r.url, none⟩)
  | .fault f => .error (.fault f)

/-- Sends a request and decodes the reply. -/
def send (t : Transport) (r : Request) : Except Failure Response × Transport :=
  let (o, t) := t.exchange r
  (settle r o, t)

/-- A response as data. -/
def Response.toData (r : Response) : Data :=
  .ofFields
    [("status", .int r.status), ("headers", .ofFields (r.headers.map fun e => (e.1, .str e.2))), ("data", r.data)]

end WorkflowEngine.Http

/-!
## Authentication headers

Who sends a request is told in a header of its own: as a token, as a name with a password in base 64,
or as a key under a name of choice.
-/

namespace WorkflowEngine.Authentication

/-- A credential, or what stands for it. -/
def credential (a : Authentication) (name fallback : String) : String :=
  (a.credentials.lookup name).getD fallback

/-- A name and a password in base 64. -/
def basic (name word : String) : Except Fault String :=
  let raw := name ++ ":" ++ word
  match Text.encodingFault? raw.toList with
  | some f => .error f
  | none => .ok ("Basic " ++ Text.Base64.encode (Text.Utf8.encode raw))

/-- The headers that tell who sends a request. -/
def headers (a : Authentication) : Except Fault (List (String × String)) :=
  match a.scheme with
  | .none => .ok []
  | .bearer => .ok [("Authorization", "Bearer " ++ a.credential "token" "")]
  | .basic =>
    (basic (a.credential "username" "") (a.credential "password" "")).map fun value =>
      [("Authorization", value)]
  | .apiKey => .ok [(a.credential "header" "X-API-Key", a.credential "key" "")]

/-- The headers that tell who sends a request, where nobody may be named. -/
def headersOf : Option Authentication → Except Fault (List (String × String))
  | some a => a.headers
  | none => .ok []

end WorkflowEngine.Authentication
