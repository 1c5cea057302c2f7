import WorkflowEngine.Journal.Entry
import WorkflowEngine.Pattern.Matcher
import WorkflowEngine.Text.Case

/-!
# Setting up the journal

The journal has a level for all sources and levels of its own for some of them; a source without one
takes that of the source around it.  Lines go to the console, and to a file if one is named, as documents
or in a form.
-/

/-!
## Files that rotate

A file of the journal takes lines until it would grow beyond its limit.  Then it becomes the latest of
its backups, of which only so many are kept, and a fresh file is begun.  Without backups the file goes
on to grow.
-/

namespace WorkflowEngine

/-- A file with its backups, the latest first; lines stand with the latest first. -/
structure RotatingFile where
  name : String
  /-- The limit in bytes; none below one. -/
  limit : Int
  backupLimit : Int
  lines : List String
  backups : List (List String)
deriving Repr, DecidableEq, Inhabited

namespace RotatingFile

/-- The bytes that lines take. -/
def byteSize (lines : List String) : Nat :=
  lines.foldl (fun total l => total + l.utf8ByteSize + 1) 0

/-- The file would grow beyond its limit by a line. -/
def isFull (f : RotatingFile) (line : String) : Bool :=
  0 < f.limit && f.limit ≤ Int.ofNat (byteSize f.lines + line.length + 1)

/-- The file becomes the latest of its backups. -/
def rotate (f : RotatingFile) : RotatingFile :=
  if 0 < f.backupLimit then
    { f with lines := [], backups := (f.lines :: f.backups).take f.backupLimit.toNat }
  else f

/-- Writes a line. -/
def write (f : RotatingFile) (line : String) : RotatingFile :=
  let f := if f.isFull line then f.rotate else f
  { f with lines := line :: f.lines }

/-- The names of the file and of its backups. -/
def names (f : RotatingFile) : List String :=
  f.name :: (List.range f.backups.length).map fun i => f.name ++ "." ++ toString (i + 1)

end RotatingFile

end WorkflowEngine

/-! ## Setting up the journal -/

namespace WorkflowEngine

/-- What the journal is asked for. -/
structure JournalRequest where
  level : String
  file : Option String
  form : Option String
  isStructured : Bool
  fileLimit : Int
  backupLimit : Int
deriving Repr, Inhabited

/-- A journal that is set up. -/
structure Journal where
  rank : Nat
  ranks : List (String × Nat)
  /-- The form of lines; none for documents. -/
  form : Option String
  console : List String
  file : Option RotatingFile
deriving Repr, Inhabited

namespace JournalRequest

/-- What is asked for where nothing is said. -/
def usual : JournalRequest := ⟨"INFO", none, none, false, 10485760, 5⟩

end JournalRequest

namespace Journal

/-- The words for levels, with their ranks. -/
def rankWords : List (String × Nat) :=
  [("CRITICAL", 50), ("FATAL", 50), ("ERROR", 40), ("WARNING", 30), ("WARN", 30), ("INFO", 20), ("DEBUG", 10),
   ("NOTSET", 0)]

/-- The word for a rank. -/
def levelName (rank : Nat) : String :=
  match rankWords.find? fun e => e.2 == rank with
  | some e => e.1
  | none => "Level " ++ toString rank

/-- The form of lines where none is given. -/
def usualForm : String :=
  "%(asctime)s - %(name)s - %(levelname)s - [%(module)s:%(funcName)s:%(lineno)d] - %(message)s"

/-- What a form has to have at least one mark like. -/
def markPattern : String :=
  "%\\(\\w+\\)[#0+ -]*(\\*|\\d+)?(\\.(\\*|\\d+))?[diouxefgcrsa%]"

/-- The form names an attribute. -/
def isForm (form : String) : Bool :=
  match Pattern.compile { Pattern.Options.none with ignoreCase := true } markPattern with
  | .ok p => Pattern.search p form
  | .error _ => false

/-- The form that is used for a given one; an empty one stands for the message alone. -/
def checkForm (form : String) : Except Fault String :=
  if form == "" then .ok "%(message)s"
  else if isForm form then .ok form
  else .error (.valued ("Invalid format '" ++ form ++ "' for '%' style"))

/-- The rank that a word names, in letters of either case. -/
def rankOf (word : String) : Except Fault Nat :=
  let word := Text.upper word
  match rankWords.lookup word with
  | some rank => .ok rank
  | none =>
    if word == "BASIC_FORMAT" then .error (.valued "Unknown level: '%(levelname)s:%(name)s:%(message)s'")
    else .error (.other .attribute ("module 'logging' has no attribute '" ++ word ++ "'"))

/-- The part of a path behind the last slash. -/
def baseName (path : String) : String :=
  String.ofList ((path.toList.reverse.takeWhile (· != '/')).reverse)

/-- Sets up a journal. -/
def setup (r : JournalRequest) : Except Fault Journal := do
  let form ← if r.isStructured then pure none else some <$> checkForm (r.form.getD usualForm)
  let rank ← rankOf r.level
  let file := match r.file with
    | some "" => none
    | some path => some ⟨baseName path, r.fileLimit, r.backupLimit, [], []⟩
    | none => none
  let core := if Text.upper r.level == "DEBUG" then 10 else 20
  return ⟨rank,
    [("uvicorn", 20), ("uvicorn.access", 30), ("aiohttp", 30), ("asyncio", 30), ("nodeflow.core", core),
     ("nodeflow.api", 20), ("nodeflow.tools", 20)], form, [], file⟩

/-- The rank that lines of a source need, where the source is a reversed list of names. -/
def rankFor (j : Journal) : List String → Nat
  | [] => j.rank
  | name :: around =>
    match j.ranks.lookup (".".intercalate (name :: around).reverse) with
    | some rank => rank
    | none => rankFor j around

/-- Lines of a source of a rank are written. -/
def takes (j : Journal) (source : String) (rank : Nat) : Bool :=
  j.rankFor (source.splitOn ".").reverse ≤ rank

/-- An entry as it is written. -/
def lineOf (j : Journal) (timestamp time : String) (e : JournalEntry) : Except Fault String :=
  match j.form with
  | some form => e.inForm form time
  | none => e.document timestamp

/-- The source of all sources goes by one name. -/
def sourceName (source : String) : String :=
  if source == "" then "root" else source

/-- Writes an entry, if its source and its level are taken; one that cannot be written is lost. -/
def write (j : Journal) (timestamp time : String) (e : JournalEntry) : Journal :=
  let e := { e with source := sourceName e.source }
  if j.takes e.source e.rank then
    match j.lineOf timestamp time e with
    | .error _ => j
    | .ok line => { j with console := line :: j.console, file := j.file.map fun f => f.write line }
  else j

/-- The kinds of places to which lines go. -/
def places (j : Journal) : List String :=
  "StreamHandler" :: (if j.file.isSome then ["RotatingFileHandler"] else [])

end Journal

end WorkflowEngine
