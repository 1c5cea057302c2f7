import WorkflowEngine.Config.Bindings
import WorkflowEngine.Service.Basic

/-!
# The application

The application takes its configuration from the environment and the usual file, and starts the service.
It then reads one request from every line of its input, an object with a method, a path and maybe a body,
and writes the reply to it on a line of its own.
-/

namespace WorkflowEngine.Application

/-- The names that the environment may bind. -/
def names : List String :=
  Config.usual.fields.map fun field => Environment.mark ++ field.1.toUpper

/-- The request on a line. -/
def requestOf? (line : String) : Option Request :=
  match Json.read line with
  | .ok (.dict entries) =>
    let text (name : String) : Option String := (Data.field? entries name).bind Data.str?
    match text "method", text "path" with
    | some method, some path => some ⟨method, path, text "body"⟩
    | _, _ => none
  | _ => none

/-- The line for a reply. -/
def lineOf (r : Reply) : String :=
  let d := Data.ofFields [("status", .int r.status), ("body", r.body.getD .null)]
  match Json.writeIn Json.compactStyle d with
  | .ok line => line
  | .error f => f.message

/-- The service as the environment describes it. -/
def serviceOf (e : Environment) : Except String Service :=
  match e.config with
  | .failed f => .error f.message
  | .refused issues =>
    .error (Finding.notice "AppConfig" (issues.map fun i => ⟨i, .null⟩))
  | .ok c =>
    match c.untitled? with
    | some complaint => .error complaint
    | none =>
      match (Service.prepare c .start).start with
      | .ok s => .ok s
      | .error f => .error f.message

/-- What the environment binds. -/
def bound : IO Environment :=
  names.filterMapM fun name => do return (← IO.getEnv name).map fun text => (name, text)

/-- The usual file, if it is there, with what it holds. -/
def files : IO (List (String × String)) := do
  try
    return [(".env", ← IO.FS.readFile ".env")]
  catch _ =>
    return []

/-- Answers the requests on the lines of the input until it ends. -/
partial def answerAll (input output : IO.FS.Stream) (s : Service) : IO Unit := do
  let line ← input.getLine
  if line.isEmpty then return ()
  match requestOf? line with
  | none => answerAll input output s
  | some request =>
    let (reply, s) := s.answer request
    output.putStrLn (lineOf reply)
    output.flush
    answerAll input output s

end WorkflowEngine.Application

/-- Starts the service and answers requests. -/
def main : IO UInt32 := do
  let e := WorkflowEngine.Bindings.loadFile (← WorkflowEngine.Application.bound)
    (← WorkflowEngine.Application.files) none
  match WorkflowEngine.Application.serviceOf e with
  | .error complaint =>
    (← IO.getStderr).putStrLn complaint
    return 1
  | .ok s =>
    WorkflowEngine.Application.answerAll (← IO.getStdin) (← IO.getStdout) s
    return 0
