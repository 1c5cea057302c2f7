import WorkflowEngine.Value.Container

/-!
# Arguments of calls

A call gives values by position and by name.  A routine lists its parameters, and the arguments are
bound to them or refused.
-/

namespace WorkflowEngine

/-- What a call gives. -/
structure Arguments where
  positional : List Value
  named : List (String × Value)
deriving Inhabited

namespace Arguments

/-- A single value by position. -/
def one (v : Value) : Arguments := ⟨[v], []⟩

/-- One argument or several, in words. -/
def countText (count : Nat) : String :=
  toString count ++ (if count == 1 then " argument" else " arguments")

/-- The only value of a routine that takes exactly one and no names. -/
def single (routine : String) (a : Arguments) : Eval Value :=
  if !a.named.isEmpty then Eval.fail (.typed (routine ++ "() takes no keyword arguments"))
  else
    match a.positional with
    | [v] => pure v
    | values =>
      Eval.fail (.typed (routine ++ "() takes exactly one argument (" ++ toString values.length ++ " given)"))

/-- The value of a routine that takes at most one and no names. -/
def optional (routine : String) (a : Arguments) : Eval (Option Value) :=
  if !a.named.isEmpty then Eval.fail (.typed (routine ++ "() takes no keyword arguments"))
  else
    match a.positional with
    | [] => pure none
    | [v] => pure (some v)
    | values =>
      Eval.fail (.typed (routine ++ " expected at most 1 argument, got " ++ toString values.length))

/-- The first name that is no parameter. -/
def unknownName? (parameters : List String) (named : List (String × Value)) : Option String :=
  (named.find? fun entry => !parameters.contains entry.1).map Prod.fst

/-- Binds parameters, of which the first few are given by position only; the others may be named. -/
def bind (routine : String) (positionalOnly : Nat) (parameters : List String) (a : Arguments) :
    Eval (List (Option Value)) :=
  let given := a.positional.length + a.named.length
  if parameters.length < given then
    let word := if a.positional.isEmpty then "keyword " else ""
    let plural := if parameters.length == 1 then "" else "s"
    Eval.fail (.typed (routine ++ "() takes at most " ++ toString parameters.length ++ " " ++ word ++
      "argument" ++ plural ++ " (" ++ toString given ++ " given)"))
  else
    let names := parameters.drop positionalOnly
    match (names.zipIdx positionalOnly).find? fun entry =>
        entry.2 < a.positional.length && (a.named.lookup entry.1).isSome with
    | some (name, place) =>
      Eval.fail (.typed ("argument for " ++ routine ++ "() given by name ('" ++ name ++
        "') and position (" ++ toString (place + 1) ++ ")"))
    | none =>
      match unknownName? names a.named with
      | some name => Eval.fail (.typed ("'" ++ name ++ "' is an invalid keyword argument for " ++ routine ++ "()"))
      | none =>
        pure ((parameters.zipIdx).map fun entry =>
          match a.positional[entry.2]? with
          | some v => some v
          | none => if entry.2 < positionalOnly then none else a.named.lookup entry.1)

/-- Binds the only parameter of a routine that is defined beside the built-in ones. -/
def bindOne (routine parameter : String) (a : Arguments) : Eval Value :=
  let unexpected := unknownName? [parameter] a.named
  match unexpected with
  | some name =>
    Eval.fail (.typed (routine ++ "() got an unexpected keyword argument '" ++ name ++ "'"))
  | none =>
    match a.positional, a.named with
    | [v], [] => pure v
    | [], (_, v) :: _ => pure v
    | [], [] =>
      Eval.fail (.typed (routine ++ "() missing 1 required positional argument: '" ++ parameter ++ "'"))
    | _ :: _, _ :: _ =>
      Eval.fail (.typed (routine ++ "() got multiple values for argument '" ++ parameter ++ "'"))
    | values, [] =>
      Eval.fail (.typed (routine ++ "() takes 1 positional argument but " ++ toString values.length ++
        " were given"))

end Arguments

end WorkflowEngine
