import WorkflowEngine.Reading.Scalar

/-!
# Reading containers

Items and entries are read one after the other, and the issues of all of them are listed.  A field of
a record may be spelled in joined words, as documents do, or in words with marks between them, as its
name is; the joined spelling comes first.
-/

namespace WorkflowEngine.Reading

/-- The items of a list, a tuple or a set. -/
def items? : Data → Option (List Data)
  | .list items => some items
  | .tuple items => some items
  | .set items => some items
  | _ => none

/-- What is read so far: the values and the issues, both reversed. -/
structure Progress (α : Type) where
  values : List α
  issues : List Issue

namespace Progress

/-- Nothing is read so far. -/
def start {α : Type} : Progress α := ⟨[], []⟩

/-- One part more. -/
def push {α : Type} (p : Progress α) : Reading α → Except Fault (Progress α)
  | .ok a => .ok { p with values := a :: p.values }
  | .refused issues => .ok { p with issues := issues.reverse ++ p.issues }
  | .failed f => .error f

/-- The values in order, unless there are issues. -/
def finish {α : Type} (p : Progress α) : Reading (List α) :=
  if p.issues.isEmpty then .ok p.values.reverse else .refused p.issues.reverse

end Progress

/-- Reads items, the first of which has the given index. -/
def itemsFrom {α : Type} (read : Data → Reading α) (index : Nat) (p : Progress α) :
    List Data → Reading (List α)
  | [] => p.finish
  | item :: rest =>
    match p.push ((read item).inside (toString index)) with
    | .error f => .failed f
    | .ok p => itemsFrom read (index + 1) p rest

/-- Reads a list. -/
def list {α : Type} (read : Data → Reading α) (d : Data) : Reading (List α) :=
  match items? d with
  | some items => itemsFrom read 0 .start items
  | none => refuse .notList

/-- How a key shows itself in a path. -/
def keyStep : Data → String
  | .str s => s
  | .int i => Decimal.intText i
  | .bool b => if b then "1" else "0"
  | d => d.source

/-- Reads the key and the value of an entry. -/
def entry {α : Type} (read : Data → Reading α) (e : Data × Data) : Reading (String × α) :=
  let key := keyStep e.1
  (both (((text e.1).inside "[key]").inside key) fun _ => (read e.2).inside key)

/-- Reads entries behind those already read. -/
def entriesFrom {α : Type} (read : Data → Reading α) (p : Progress (String × α)) :
    List (Data × Data) → Reading (List (String × α))
  | [] => p.finish
  | e :: rest =>
    match p.push (entry read e) with
    | .error f => .failed f
    | .ok p => entriesFrom read p rest

/-- Gives a key its value, at the place of the key or behind all others. -/
def setKey {α : Type} (key : String) (value : α) : List (String × α) → List (String × α)
  | [] => [(key, value)]
  | (k, v) :: rest => if k == key then (k, value) :: rest else (k, v) :: setKey key value rest

/-- The entries where a key that is written twice keeps its first place and its last value. -/
def mergeKeys {α : Type} (entries : List (String × α)) : List (String × α) :=
  entries.foldl (fun done e => setKey e.1 e.2 done) []

/-- The key is written in bytes. -/
def isEncodedKey : Data × Data → Bool
  | (.bytes _, _) => true
  | _ => false

/-- Reads a dictionary with texts for keys. -/
def dict {α : Type} (read : Data → Reading α) (d : Data) : Reading (List (String × α)) :=
  match d with
  | .dict entries =>
    (entriesFrom read .start entries).map fun found =>
      if entries.any isEncodedKey then mergeKeys found else found
  | _ => refuse .notDictionary

/-- Takes any value as it is. -/
def any (d : Data) : Reading Data := .ok d

/-- The words of a name joined, where each word but the first opens with a capital letter. -/
def joinWords (raise : Bool) : List Char → List Char
  | [] => []
  | '_' :: rest => joinWords true rest
  | c :: rest => (if raise then c.toUpper else c) :: joinWords false rest

/-- How documents spell a name. -/
def spellingOf (name : String) : String :=
  String.ofList (joinWords false name.toList)

/-- How the names of a record are found in a document. -/
inductive Spelling where
  /-- In joined words or as they are. -/
  | joined
  /-- As they are. -/
  | plain
deriving Repr, DecidableEq, Inhabited

/-- The ways to spell a name, the first of which stands for the field where it is missing. -/
def Spelling.ways : Spelling → String → List String
  | .joined, name => [spellingOf name, name]
  | .plain, name => [name]

/-- The way in which a field is spelled, and what stands there. -/
def find? (entries : List (Data × Data)) (ways : List String) : Option (String × Data) :=
  ways.findSome? fun way => (Data.field? entries way).map fun d => (way, d)

/-- Reads a field that has to be there. -/
def required {α : Type} (s : Spelling) (entries : List (Data × Data)) (name : String)
    (read : Data → Reading α) : Reading α :=
  match find? entries (s.ways name) with
  | some (way, d) => (read d).inside way
  | none => (refuse .missing).inside ((s.ways name).headD name)

/-- Reads a field that has a value of its own where it is missing. -/
def withDefault {α : Type} (s : Spelling) (entries : List (Data × Data)) (name : String) (fallback : α)
    (read : Data → Reading α) : Reading α :=
  match find? entries (s.ways name) with
  | some (way, d) => (read d).inside way
  | none => .ok fallback

/-- Reads the entries of a record. -/
def record {α : Type} (name : String) (read : List (Data × Data) → Reading α) : Data → Reading α
  | .dict entries => read entries
  | _ => refuse (.notRecord name)

end WorkflowEngine.Reading

/-!
## Notices of refused documents

A notice names what was to be read and lists its issues.  Each is written with the path to the part,
the message, and what stands there; a long value shows its beginning and its end alone.
-/

namespace WorkflowEngine

/-- An issue with what stands at the part. -/
structure Finding where
  issue : Issue
  given : Data
deriving Repr, Inhabited

namespace Finding

/-- The most bytes of a value that are shown in full. -/
def shownBytes : Nat := 50

/-- The longest part of a text that takes no more than some bytes. -/
def takeBytes (limit : Nat) (done : List Char) : List Char → List Char
  | [] => done.reverse
  | c :: rest => if c.utf8Size ≤ limit then takeBytes (limit - c.utf8Size) (c :: done) rest else done.reverse

/-- A text without its middle, where it is long. -/
def shorten (s : String) : String :=
  if s.utf8ByteSize ≤ shownBytes then s
  else
    let chars := s.toList
    String.ofList (takeBytes 25 [] chars) ++ "..." ++ String.ofList (takeBytes 24 [] chars.reverse).reverse

/-- A step of a path; one with a point stands between marks. -/
def stepText (step : String) : String :=
  if step.toList.contains '.' then String.singleton (Char.ofNat 0x60) ++ step ++ String.singleton (Char.ofNat 0x60)
  else step

/-- Where the words for causes are explained. -/
def reference : String := "https://errors.pydantic.dev/2.14/v/"

/-- The text of a finding. -/
def text (f : Finding) : String :=
  "\n" ++ ".".intercalate (f.issue.path.map stepText) ++
    "\n  " ++ f.issue.cause.message ++ " [type=" ++ f.issue.cause.kind ++ ", input_value=" ++ shorten f.given.source ++
    ", input_type=" ++ f.given.kindOf.name ++ "]\n    For further information visit " ++ reference ++
    f.issue.cause.kind

/-- The notice about what was to be read. -/
def notice (title : String) (findings : List Finding) : String :=
  toString findings.length ++ (if findings.length == 1 then " validation error for " else " validation errors for ") ++
    title ++ String.join (findings.map text)

end Finding

end WorkflowEngine
