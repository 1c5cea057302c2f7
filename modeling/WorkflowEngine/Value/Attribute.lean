import WorkflowEngine.Value.Container

/-!
# Attributes of values

Numbers and ranges have parts that can be asked for by name; every kind has methods, which stay bound to
their value.  A type gives the methods of its values unbound.
-/

namespace WorkflowEngine

namespace Kind

/-- The methods that texts and bytes have in common. -/
def textMethods : List String :=
  ["capitalize", "center", "count", "endswith", "expandtabs", "find", "index", "isalnum", "isalpha",
   "isascii", "isdigit", "islower", "isspace", "istitle", "isupper", "join", "ljust", "lower", "lstrip",
   "maketrans", "partition", "removeprefix", "removesuffix", "replace", "rfind", "rindex", "rjust",
   "rpartition", "rsplit", "rstrip", "split", "splitlines", "startswith", "strip", "swapcase", "title",
   "translate", "upper", "zfill"]

/-- The methods of the values of a kind. -/
def methods : Kind → List String
  | .str =>
    textMethods ++
      ["casefold", "encode", "isdecimal", "isidentifier", "isnumeric", "isprintable"]
  | .bytes => textMethods ++ ["decode", "fromhex", "hex"]
  | .list =>
    ["append", "clear", "copy", "count", "extend", "index", "insert", "pop", "remove", "reverse", "sort"]
  | .tuple => ["count", "index"]
  | .dict =>
    ["clear", "copy", "fromkeys", "get", "items", "keys", "pop", "popitem", "setdefault", "update",
     "values"]
  | .set =>
    ["add", "clear", "copy", "difference", "difference_update", "discard", "intersection",
     "intersection_update", "isdisjoint", "issubset", "issuperset", "pop", "remove",
     "symmetric_difference", "symmetric_difference_update", "union", "update"]
  | .bool => ["as_integer_ratio", "bit_count", "bit_length", "conjugate", "from_bytes", "to_bytes"]
  | .int => ["as_integer_ratio", "bit_count", "bit_length", "conjugate", "from_bytes", "to_bytes"]
  | .float => ["as_integer_ratio", "conjugate", "fromhex", "hex", "is_integer"]
  | .complex => ["conjugate"]
  | .slice => ["indices"]
  | .lock => ["acquire", "acquire_lock", "locked", "locked_lock", "release", "release_lock"]
  | _ => []

/-- The parts of the values of a kind. -/
def parts : Kind → List String
  | .bool => partNames
  | .int => partNames
  | .float => ["real", "imag"]
  | .complex => ["real", "imag"]
  | .slice => ["start", "stop", "step"]
  | _ => []

/-- The kind that a method or part comes from. -/
def home : Kind → Kind
  | .bool => .int
  | k => k

/-- The methods that belong to a type and not to its values. -/
def typeMethods : List String := ["from_bytes", "fromhex", "fromkeys", "maketrans"]

end Kind

namespace Value

open Eval

/-- A part of a value. -/
def part? (v : Value) (name : String) : Option Value :=
  match v.int? with
  | some i =>
    if name == "real" || name == "numerator" then some (.int i)
    else if name == "imag" then some (.int 0)
    else if name == "denominator" then some (.int 1)
    else none
  | none =>
    match v with
    | .float x => if name == "real" then some (.float x) else if name == "imag" then some (.float 0.0) else none
    | .nan m => if name == "real" then some (.nan m) else if name == "imag" then some (.float 0.0) else none
    | .complex re im =>
      if name == "real" then some (.float re) else if name == "imag" then some (.float im) else none
    | .slice lower upper step =>
      if name == "start" then some lower
      else if name == "stop" then some upper
      else if name == "step" then some step
      else none
    | _ => none

/-- What a type gives for a name. -/
def ofType? (k : Kind) (name : String) : Option Value :=
  if k.parts.contains name then some (.descriptor k.home name)
  else if k.methods.contains name then
    some (if Kind.typeMethods.contains name then .method (.type k) name else .descriptor k.home name)
  else none

/-- What a value gives for a name: a part or a method. -/
def attribute? (v : Value) (name : String) : Option Value :=
  match v with
  | .type k => ofType? k name
  | v =>
    match v.part? name with
    | some found => some found
    | none =>
      if v.kindOf.methods.contains name then
        some (.method (if Kind.typeMethods.contains name then .type v.kindOf else v) name)
      else none

end Value

end WorkflowEngine
