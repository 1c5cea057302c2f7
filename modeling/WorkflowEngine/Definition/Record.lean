import WorkflowEngine.Reading.Container

/-!
# Records

A record is a list of named fields.  Written as data, its names are spelled in joined words.  A fixed
record cannot be changed; any other one takes every value under the names that it has.
-/

namespace WorkflowEngine

/-- The fields of a record, in order. -/
abbrev Record := List (String × Data)

namespace Record

/-- A record as data, with its names in joined words. -/
def toData (r : Record) : Data :=
  .ofFields (r.map fun field => (Reading.spellingOf field.1, field.2))

/-- Why a field cannot be given a value. -/
inductive AssignError where
  | fixed (name : String)
  | unknown (record name : String)
deriving Repr, DecidableEq, Inhabited

/-- What is said when a record has no field of a name. -/
def unknownMessage (record name : String) : String :=
  "\"" ++ record ++ "\" object has no field \"" ++ name ++ "\""

/-- Gives fields their values, one after the other. -/
def assign (record : String) (isFixed : Bool) (r : Record) :
    List (String × Data) → Except AssignError Record
  | [] => .ok r
  | (name, value) :: rest =>
    if isFixed then .error (.fixed name)
    else if r.any fun field => field.1 == name then
      assign record isFixed (r.map fun field => if field.1 == name then (name, value) else field) rest
    else .error (.unknown record name)

end Record

end WorkflowEngine
