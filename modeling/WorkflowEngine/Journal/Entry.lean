import WorkflowEngine.Json.Writer
import WorkflowEngine.Layout.Percent
import WorkflowEngine.Reading.Container

/-!
# Entries of the journal

An entry is a line before it is written: a message with values to fill in, where in the program it
arises, a failure that it may be about, and further fields.  It is written as a document on one line, or
in a form with marks for its attributes.
-/

/-!
## Lines of the application journal

The application writes a journal of what it does.  A line has a level, says which part of the
application wrote it, and carries a message.
-/

namespace WorkflowEngine

/-- How much a line of the journal matters. -/
inductive Level where
  | debug
  | info
  | warning
  | error
  | critical
deriving Repr, DecidableEq, Inhabited

namespace Level

/-- All levels, the least first. -/
def all : List Level := [.debug, .info, .warning, .error, .critical]

/-- The word for a level. -/
def name : Level → String
  | .debug => "DEBUG"
  | .info => "INFO"
  | .warning => "WARNING"
  | .error => "ERROR"
  | .critical => "CRITICAL"

/-- The rank of a level. -/
def rank : Level → Nat
  | .debug => 10
  | .info => 20
  | .warning => 30
  | .error => 40
  | .critical => 50

end Level

/-- A line of the journal. -/
structure Line where
  level : Level
  source : String
  message : String
deriving Repr, DecidableEq, Inhabited

end WorkflowEngine

/-!
## The context of the journal

Lines of the journal carry the fields of the context in which they are written.  Setting fields yields a
token, by which the context that was there before can be restored once.
-/

namespace WorkflowEngine

/-- What a token restores. -/
structure ContextToken where
  before : List (String × Data)
  isUsed : Bool
deriving Repr, Inhabited

/-- The fields of the context, and the tokens that were given out, the first one first. -/
structure JournalContext where
  fields : List (String × Data)
  tokens : List ContextToken
deriving Repr, Inhabited

namespace JournalContext

/-- The context without fields. -/
def empty : JournalContext := ⟨[], []⟩

/-- Sets fields, and keeps a token. -/
def set (c : JournalContext) (more : List (String × Data)) : JournalContext :=
  ⟨more.foldl (fun done e => Reading.setKey e.1 e.2 done) c.fields, c.tokens ++ [⟨c.fields, false⟩]⟩

/-- Removes all fields. -/
def clear (c : JournalContext) : JournalContext :=
  { c with fields := [] }

/-- A token was used before. -/
def spent : Fault :=
  .other .runtime ("<Token used var=<ContextVar name='nodeflow_logging_context' default=\x7b\x7d at 0x0> at 0x0>" ++
    " has already been used once")

/-- Restores what was there before a token was given out. -/
def restore (c : JournalContext) (index : Nat) : Except Fault JournalContext :=
  match c.tokens[index]? with
  | none => .error (.outOfRange "list")
  | some token =>
    if token.isUsed then .error spent
    else .ok ⟨token.before, c.tokens.set index { token with isUsed := true }⟩

/-- Fields of a line, with those of the context that the line does not have itself. -/
def complete (c : JournalContext) (own : List (Data × Data)) : List (Data × Data) :=
  c.fields.foldl (fun done e => if (Data.field? done e.1).isSome then done else done ++ [(.str e.1, e.2)]) own

end JournalContext

end WorkflowEngine

/-! ## Entries of the journal -/

namespace WorkflowEngine

/-- Where in the program an entry arises. -/
structure CallSite where
  file : String
  part : String
  routine : String
  line : Int
deriving Repr, DecidableEq, Inhabited

/-- A failure that an entry is about: its kind and its message, or that there is none. -/
structure EntryFailure where
  kind : Option String
  message : Option String
deriving Repr, DecidableEq, Inhabited

/-- A line of the journal before it is written. -/
structure JournalEntry where
  rank : Nat
  level : String
  source : String
  message : Data
  values : List Data
  site : CallSite
  failure : Option EntryFailure
  extra : Option (List (Data × Data))
deriving Repr, Inhabited

namespace EntryFailure

/-- The path by which the failure came up, which is its last line alone. -/
def trace (f : EntryFailure) : String :=
  match f.kind, f.message with
  | none, _ => "NoneType: None\n"
  | some kind, none => kind ++ "\n"
  | some kind, some "" => kind ++ "\n"
  | some kind, some message => kind ++ ": " ++ message ++ "\n"

/-- The failure as data. -/
def toData (f : EntryFailure) : Data :=
  Data.ofFields [("type", .ofStr? f.kind), ("message", .ofStr? f.message), ("traceback", .list [.str f.trace])]

end EntryFailure

namespace JournalEntry

/-- The message with its values filled in; a single dictionary gives values by name. -/
def text (e : JournalEntry) : Except Fault String :=
  match e.values with
  | [] => e.message.text?
  | [.dict (first :: rest)] => do Layout.percent (← e.message.text?) (.dict (first :: rest))
  | values => do Layout.percent (← e.message.text?) (.tuple values)

/-- The entry with the fields of a context. -/
def within (e : JournalEntry) (c : JournalContext) : JournalEntry :=
  { e with extra := some (c.complete (e.extra.getD [])) }

/-- The fields of the entry, where further fields take the place of others of the same name. -/
def fields (e : JournalEntry) (timestamp text : String) : List (Data × Data) :=
  let own : List (String × Data) :=
    [("timestamp", .str timestamp), ("level", .str e.level), ("logger", .str e.source), ("message", .str text),
     ("module", .str e.site.part), ("function", .str e.site.routine), ("line", .int e.site.line)] ++
      match e.failure with
      | some f => [("exception", f.toData)]
      | none => []
  (e.extra.getD []).foldl (fun done field =>
    match field.1 with
    | .str name => Data.setField name field.2 done
    | key => done ++ [(key, field.2)]) (own.map fun field => (.str field.1, field.2))

/-- The entry as a document on one line. -/
def document (e : JournalEntry) (timestamp : String) : Except Fault String := do
  Json.write (.dict (e.fields timestamp (← e.text)))

/-- The attributes that a form may name. -/
def attributes (e : JournalEntry) (time text : String) : Data :=
  Data.ofFields
    [("name", .str e.source), ("msg", e.message), ("args", .tuple e.values), ("levelname", .str e.level),
     ("levelno", .int e.rank), ("filename", .str e.site.file), ("module", .str e.site.part),
     ("funcName", .str e.site.routine), ("lineno", .int e.site.line), ("message", .str text), ("asctime", .str time),
     ("exc_info", .null), ("exc_text", .null), ("stack_info", .null), ("threadName", .str "MainThread"),
     ("processName", .str "MainProcess"), ("extra_fields", .dict (e.extra.getD []))]

/-- The entry in a form, at a time of day. -/
def inForm (e : JournalEntry) (form time : String) : Except Fault String := do
  Layout.percent form (e.attributes time (← e.text))

end JournalEntry

end WorkflowEngine
