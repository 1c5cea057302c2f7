import WorkflowEngine.Data.Basic
import WorkflowEngine.Decimal.Layout
import WorkflowEngine.Text.Quoted

/-!
# Data as text

`Data.source` writes a value so that its parts can be told apart: texts stand between quotes and
containers between brackets.  `Data.text` differs from it for a text alone, which stands for itself.
A cut shows the brackets of the container that it stands for.
-/

namespace WorkflowEngine

/-- The text of a part of a complex number: a whole part goes without a point. -/
def partText (x : Float) : String :=
  let text := Decimal.floatText x
  if text.endsWith ".0" then String.ofList (text.toList.take (text.length - 2)) else text

/-- The text of a complex number. -/
def complexText (re im : Float) : String :=
  if re == 0.0 && !Decimal.isNegative re then partText im ++ "j"
  else
    let signed := if Decimal.isNegative im && !im.isNaN then partText im else "+" ++ partText im
    "(" ++ partText re ++ signed ++ "j)"

/-- What stands for a container inside itself. -/
def Kind.cutText : Kind → String
  | .list => "[...]"
  | .tuple => "(...)"
  | .set => "set(...)"
  | _ => "\x7b...\x7d"

/-- The text of a routine. -/
def Routine.source (r : Routine) : String :=
  if r.isBuiltin then "<built-in function " ++ r.name ++ ">"
  else "<function " ++ r.name ++ " at 0x0>"

namespace Data

mutual

/-- A value with its parts told apart; the path lists the kinds of the containers around it. -/
def sourceIn (path : List Kind) : Data → String
  | .null => "None"
  | .bool b => if b then "True" else "False"
  | .int i => Decimal.intText i
  | .float x => Decimal.floatText x
  | .nan _ => "nan"
  | .complex re im => complexText re im
  | .str s => Text.quoted s
  | .bytes bs => Text.quotedBytes bs
  | .list items => "[" ++ ", ".intercalate (sourceItems (.list :: path) [] items) ++ "]"
  | .tuple items =>
    match sourceItems (.tuple :: path) [] items with
    | [item] => "(" ++ item ++ ",)"
    | texts => "(" ++ ", ".intercalate texts ++ ")"
  | .set items =>
    match sourceItems (.set :: path) [] items with
    | [] => "set()"
    | texts => "\x7b" ++ ", ".intercalate texts ++ "\x7d"
  | .dict entries => "\x7b" ++ ", ".intercalate (sourceEntries (.dict :: path) [] entries) ++ "\x7d"
  | .routine r => r.source
  | .type k => "<class '" ++ k.name ++ "'>"
  | .method owner name _ => "<built-in method " ++ name ++ " of " ++ owner.name ++ " object at 0x0>"
  | .descriptor owner name =>
    (if partNames.contains name then "<attribute '" else "<method '") ++ name ++ "' of '" ++ owner.name ++
      "' objects>"
  | .slice lower upper step =>
    "slice(" ++ sourceIn path lower ++ ", " ++ sourceIn path upper ++ ", " ++ sourceIn path step ++ ")"
  | .ellipsis => "Ellipsis"
  | .lock => "<unlocked _thread.lock object at 0x0>"
  | .cycle levels => ((path[levels - 1]?).getD .dict).cutText

/-- The texts of items behind those already written, which stand reversed. -/
def sourceItems (path : List Kind) (done : List String) : List Data → List String
  | [] => done.reverse
  | item :: rest => sourceItems path (sourceIn path item :: done) rest

/-- The texts of entries behind those already written, which stand reversed. -/
def sourceEntries (path : List Kind) (done : List String) : List (Data × Data) → List String
  | [] => done.reverse
  | (key, value) :: rest =>
    sourceEntries path ((sourceIn path key ++ ": " ++ sourceIn path value) :: done) rest

end

/-- A value with its parts told apart. -/
def source (d : Data) : String :=
  d.sourceIn []

/-- A value as text: a text is itself, every other value shows its parts. -/
def text : Data → String
  | .str s => s
  | d => d.source

end Data

end WorkflowEngine
