import WorkflowEngine.Call.Conversion
import WorkflowEngine.Data.Sorting
import WorkflowEngine.Text.Case
import WorkflowEngine.Text.Trim
import WorkflowEngine.Text.Unicode.Alphanumeric
import WorkflowEngine.Text.Unicode.Ranges
import WorkflowEngine.Value.Attribute
import WorkflowEngine.Value.Operator
import WorkflowEngine.Value.Selection

/-!
# Methods

A method asks something of its value or changes it in place.  Expressions meet methods only as keys, so
that each is given a single argument.
-/

namespace WorkflowEngine.Method

open Eval

/-- A method that takes no argument was given one. -/
def noArguments (owner : Kind) (name : String) : Eval Value :=
  fail (.typed (owner.name ++ "." ++ name ++ "() takes no arguments (1 given)"))

/-- How many arguments a method wants, where it was given one. -/
def wants (name : String) (words : String) : Eval Value :=
  fail (.typed (name ++ " expected " ++ words ++ ", got 1"))

/-- The first index of an item. -/
def indexOf (owner : String) (values : List Value) (v : Value) : Eval Value := do
  let h ← heap
  match values.findIdx? fun item => h.sameKey item v with
  | some i => return .int i
  | none =>
    if owner == "list" then fail (.valued ((← source v) ++ " is not in list"))
    else fail (.valued "tuple.index(x): x not in tuple")

/-- How often an item occurs. -/
def countOf (values : List Value) (v : Value) : Eval Value := do
  let h ← heap
  return .int (values.countP fun item => h.sameKey item v)

/-- A method of a list. -/
def ofList (a : Address) (name : String) (v : Value) : Eval Value := do
  let values ← items a
  match name with
  | "append" =>
    write a (.list (values ++ [v]))
    return .null
  | "extend" =>
    let added ← iterate v
    write a (.list (values ++ added))
    return .null
  | "count" => countOf values v
  | "index" => indexOf "list" values v
  | "remove" =>
    let h ← heap
    match values.findIdx? fun item => h.sameKey item v with
    | some i =>
      write a (.list (values.eraseIdx i))
      return .null
    | none => fail (.valued "list.remove(x): x not in list")
  | "pop" =>
    let i ← Conversion.indexOf v
    if values.isEmpty then fail (.other .index "pop from empty list")
    else
      let item ← Value.itemAt values i (.other .index "pop index out of range")
      write a (.list (values.eraseIdx ((Value.position? values.length i).getD 0)))
      return item
  | "insert" => wants "insert" "2 arguments"
  | "sort" => fail (.typed "sort() takes no positional arguments")
  | name => noArguments .list name

/-- A method of a dictionary. -/
def ofDict (a : Address) (name : String) (v : Value) : Eval Value := do
  let entries ← entries a
  match name with
  | "get" =>
    requireKey v
    return ((← heap).lookup entries v).getD .null
  | "pop" =>
    requireKey v
    let h ← heap
    match h.lookup entries v with
    | some found =>
      write a (.dict (h.dropEntry entries v))
      return found
    | none => fail (.missingKey (h.view v))
  | "setdefault" =>
    requireKey v
    let h ← heap
    match h.lookup entries v with
    | some found => return found
    | none =>
      write a (.dict (h.setEntry entries v .null))
      return .null
  | "update" =>
    let changed ← Conversion.extend entries v
    write a (.dict changed)
    return .null
  | name => noArguments .dict name

/-- A method of a set. -/
def ofSet (a : Address) (name : String) (v : Value) : Eval Value := do
  let members ← items a
  let h ← heap
  let keep (values : List Value) : Eval Value := do
    write a (.set (settle values))
    return .null
  match name with
  | "add" =>
    requireKey v
    if h.isMember members v then return .null else keep (members ++ [v])
  | "discard" =>
    requireKey v
    keep (members.filter fun item => !h.sameKey item v)
  | "remove" =>
    requireKey v
    if h.isMember members v then keep (members.filter fun item => !h.sameKey item v)
    else fail (.missingKey (h.view v))
  | "pop" => noArguments .set name
  | "clear" => noArguments .set name
  | "copy" => noArguments .set name
  | name =>
    let others ← iterate v
    requireKeys others
    let h ← heap
    let union := members ++ Value.without h (h.distinct [] others) members
    let common := members.filter fun item => h.isMember others item
    let difference := Value.without h members others
    let either := difference ++ Value.without h (h.distinct [] others) members
    match name with
    | "union" => newSet (settle union)
    | "intersection" => newSet (settle common)
    | "difference" => newSet (settle difference)
    | "symmetric_difference" => newSet (settle either)
    | "update" => keep union
    | "intersection_update" => keep common
    | "difference_update" => keep difference
    | "symmetric_difference_update" => keep either
    | "isdisjoint" => return .bool common.isEmpty
    | "issubset" => return .bool (common.length == members.length)
    | "issuperset" => return .bool (others.all fun item => h.isMember members item)
    | name => noArguments .set name

/-- The first place of a part in a text, counted from the place given. -/
def findFrom (part : List Char) (place : Nat) : List Char → Option Nat
  | [] => if part.isEmpty then some place else none
  | c :: rest => if part.isPrefixOf (c :: rest) then some place else findFrom part (place + 1) rest

/-- How often a part occurs in a text without overlaps; the fuel bounds the places. -/
def countParts (part : List Char) : Nat → Nat → List Char → Nat
  | 0, count, _ => count
  | fuel + 1, count, chars =>
    match findFrom part 0 chars with
    | none => count
    | some place => countParts part fuel (count + 1) (chars.drop (place + part.length))

/-- A text cut at a part; the fuel bounds the cuts. -/
def splitAt (part : List Char) : Nat → List String → List Char → List String
  | 0, done, chars => (String.ofList chars :: done).reverse
  | fuel + 1, done, chars =>
    match findFrom part 0 chars with
    | none => (String.ofList chars :: done).reverse
    | some place =>
      splitAt part fuel (String.ofList (chars.take place) :: done) (chars.drop (place + part.length))

/-- The words of a text between blanks; the fuel bounds the words. -/
def wordsOf : Nat → List String → List Char → List String
  | 0, done, _ => done.reverse
  | fuel + 1, done, chars =>
    match Text.dropBlanks chars with
    | [] => done.reverse
    | start =>
      let word := start.takeWhile fun c => !Text.Unicode.isBlank c
      wordsOf fuel (String.ofList word :: done) (start.drop word.length)

/-- A list of texts. -/
def texts (values : List String) : Eval Value :=
  newList (values.map Value.str)

/-- The text that a method wants as its argument. -/
def needText (message : String) (v : Value) : Eval String :=
  match v with
  | .str s => pure s
  | v => fail (.typed (message ++ v.kindOf.name))

/-- A text filled up to a width. -/
def fill (s : String) (name : String) (width : Int) : String :=
  let chars := s.toList
  let missing := (width - Int.ofNat chars.length).toNat
  let blanks (n : Nat) := List.replicate n ' '
  if name == "ljust" then String.ofList (chars ++ blanks missing)
  else if name == "rjust" then String.ofList (blanks missing ++ chars)
  else if name == "zfill" then
    match chars with
    | c :: rest =>
      if c == '+' || c == '-' then String.ofList (c :: (List.replicate missing '0' ++ rest))
      else String.ofList (List.replicate missing '0' ++ chars)
    | [] => String.ofList (List.replicate missing '0')
  else
    let left := missing / 2 + (if missing % 2 == 1 && width % 2 != 0 then 1 else 0)
    String.ofList (blanks left ++ chars ++ blanks (missing - left))

/-- A text without some characters at its ends. -/
def stripped (s : String) (name : String) (drop : Char → Bool) : String :=
  let front (chars : List Char) := if name == "rstrip" then chars else chars.dropWhile drop
  let back (chars : List Char) :=
    if name == "lstrip" then chars else (chars.reverse.dropWhile drop).reverse
  String.ofList (back (front s.toList))

/-- Texts joined with another one between them. -/
def joined (s : String) (index : Nat) (done : List String) : List Value → Eval Value
  | [] => pure (.str (s.intercalate done.reverse))
  | .str t :: rest => joined s (index + 1) (t :: done) rest
  | v :: _ =>
    fail (.typed ("sequence item " ++ toString index ++ ": expected str instance, " ++ v.kindOf.name ++
      " found"))

/-- A method of a text with one argument. -/
def ofText (s : String) (name : String) (v : Value) : Eval Value := do
  let chars := s.toList
  match name with
  | "count" =>
    let part := (← needText "must be str, not " v).toList
    if part.isEmpty then return .int (chars.length + 1)
    else return .int (countParts part (chars.length + 1) 0 chars)
  | "find" =>
    let part := (← needText "must be str, not " v).toList
    return .int (match findFrom part 0 chars with
      | some place => Int.ofNat place
      | none => -1)
  | "index" =>
    let part := (← needText "must be str, not " v).toList
    match findFrom part 0 chars with
    | some place => return .int place
    | none => fail (.valued "substring not found")
  | "startswith" =>
    let part ← needText "startswith first arg must be str or a tuple of str, not " v
    return .bool (part.toList.isPrefixOf chars)
  | "endswith" =>
    let part ← needText "endswith first arg must be str or a tuple of str, not " v
    return .bool (part.toList.isSuffixOf chars)
  | "split" =>
    match v with
    | .null => texts (wordsOf (chars.length + 1) [] chars)
    | .str "" => fail (.valued "empty separator")
    | .str part => texts (splitAt part.toList (chars.length + 1) [] chars)
    | v => fail (.typed ("must be str or None, not " ++ v.kindOf.name))
  | "join" =>
    match ← Conversion.itemsOf? v with
    | some values => joined s 0 [] values
    | none => fail (.typed "can only join an iterable")
  | "removeprefix" =>
    let part := (← needText "removeprefix() argument must be str, not " v).toList
    return .str (if part.isPrefixOf chars then String.ofList (chars.drop part.length) else s)
  | "removesuffix" =>
    let part := (← needText "removesuffix() argument must be str, not " v).toList
    return .str (if part.isSuffixOf chars then String.ofList (chars.take (chars.length - part.length)) else s)
  | "replace" => wants "replace" "at least 2 arguments"
  | name =>
    if ["strip", "lstrip", "rstrip"].contains name then
      match v with
      | .null => return .str (stripped s name Text.Unicode.isBlank)
      | .str set => return .str (stripped s name fun c => set.toList.contains c)
      | _ => fail (.typed (name ++ " arg must be None or str"))
    else if ["ljust", "rjust", "center", "zfill"].contains name then
      let width ← Conversion.indexOf v
      if width < -Int.ofNat Layout.numberLimit - 1 || Int.ofNat Layout.numberLimit < width then
        fail (.other .overflow "Python int too large to convert to C ssize_t")
      if Int.ofNat Layout.longest < width then fail .exhausted
      return .str (fill s name width)
    else noArguments .str name

/-- A text with every word, or only the first, in capitals at its start. -/
def capitalized (everyWord : Bool) (before : Bool) (done : List Char) : List Char → String
  | [] => String.ofList done.reverse
  | c :: rest =>
    let cased := Text.Unicode.isCased c
    let changed := if before then Text.lowerChar c else Text.Unicode.raise c
    capitalized everyWord (if everyWord then cased else true) (changed.reverse ++ done) rest

/-- A text with small and capital letters exchanged. -/
def swapped (s : String) : String :=
  String.ofList (s.toList.flatMap fun c =>
    if Text.Unicode.raise c != [c] then Text.Unicode.raise c else Text.lowerChar c)

/-- What a text gives for a method without arguments. -/
def ofPlainText (s : String) (name : String) : Eval Value :=
  let every (p : Char → Bool) : Eval Value := pure (.bool (s != "" && s.toList.all p))
  match name with
  | "lower" => pure (.str (Text.lower s))
  | "casefold" => pure (.str (Text.lower s))
  | "upper" => pure (.str (Text.upper s))
  | "title" => pure (.str (capitalized true false [] s.toList))
  | "capitalize" => pure (.str (capitalized false false [] s.toList))
  | "swapcase" => pure (.str (swapped s))
  | "split" => texts (wordsOf (s.length + 1) [] s.toList)
  | "encode" => pure (.bytes (Text.Utf8.encode s))
  | "isdigit" => every Text.Unicode.isDigit
  | "isdecimal" => every Text.Unicode.isDecimal
  | "isnumeric" => every Text.Unicode.isDigit
  | "isalnum" => every Text.Unicode.isAlphanumeric
  | "isalpha" => every fun c => Text.Unicode.isAlphanumeric c && !Text.Unicode.isDigit c
  | "isspace" => every Text.Unicode.isBlank
  | "isascii" => pure (.bool (s.toList.all fun c => c.toNat < 128))
  | "isprintable" => pure (.bool (s.toList.all Text.Unicode.isPrintable))
  | "isupper" =>
    pure (.bool (s.toList.any Text.Unicode.isCased && Text.upper s == s))
  | "islower" =>
    pure (.bool (s.toList.any Text.Unicode.isCased && Text.lower s == s))
  | name =>
    if ["strip", "lstrip", "rstrip"].contains name then
      pure (.str (stripped s name Text.Unicode.isBlank))
    else fail (.typed ("str." ++ name ++ "() takes exactly one argument (0 given)"))

/-- What a list gives for a method without arguments. -/
def ofPlainList (a : Address) (name : String) : Eval Value := do
  let values ← items a
  match name with
  | "copy" => newList values
  | "clear" =>
    write a (.list [])
    return .null
  | "reverse" =>
    write a (.list values.reverse)
    return .null
  | "pop" =>
    match values.getLast? with
    | some item =>
      write a (.list values.dropLast)
      return item
    | none => fail (.other .index "pop from empty list")
  | "sort" =>
    let h ← heap
    let less (x y : Data × Value) := Data.compareBy .less x.1 y.1
    let sorted ← lift (Sorting.sort less (values.map fun v => (h.view v, v)))
    write a (.list (sorted.map Prod.snd))
    return .null
  | "index" => fail (.typed "index expected at least 1 argument, got 0")
  | "insert" => fail (.typed "insert expected 2 arguments, got 0")
  | name => fail (.typed ("list." ++ name ++ "() takes exactly one argument (0 given)"))

/-- What a dictionary gives for a method without arguments. -/
def ofPlainDict (a : Address) (name : String) : Eval Value := do
  let entries ← entries a
  match name with
  | "copy" => newDict entries
  | "clear" =>
    write a (.dict [])
    return .null
  | "popitem" =>
    match entries.getLast? with
    | some (key, value) =>
      write a (.dict entries.dropLast)
      newTuple [key, value]
    | none => fail (.missingKey (.str "popitem(): dictionary is empty"))
  | "get" => fail (.typed "get expected at least 1 argument, got 0")
  | "pop" => fail (.typed "pop expected at least 1 argument, got 0")
  | "setdefault" => fail (.typed "setdefault expected at least 1 argument, got 0")
  | "update" => return .null
  | _ => return .dict a

/-- What a set gives for a method without arguments. -/
def ofPlainSet (a : Address) (name : String) : Eval Value := do
  let members ← items a
  match name with
  | "clear" =>
    write a (.set [])
    return .null
  | "pop" =>
    match members with
    | item :: rest =>
      write a (.set rest)
      return item
    | [] => fail (.missingKey (.str "pop from an empty set"))
  | name =>
    if ["copy", "union", "intersection", "difference"].contains name then newSet members
    else if ["update", "intersection_update", "difference_update"].contains name then return .null
    else fail (.typed ("set." ++ name ++ "() takes exactly one argument (0 given)"))

/-- Calls a method that is bound to its value with one argument. -/
def callBound (owner : Value) (name : String) (v : Value) : Eval Value :=
  match owner with
  | .str s => ofText s name v
  | .list a => ofList a name v
  | .dict a => ofDict a name v
  | .set a => ofSet a name v
  | .tuple a => do
    if name == "count" then countOf (← items a) v else indexOf "tuple" (← items a) v
  | .type .dict =>
    if name == "fromkeys" then do
      let keys ← iterate v
      requireKeys keys
      newDict ((← heap).setEntries [] (keys.map fun key => (key, .null)))
    else noArguments .dict name
  | other => noArguments other.kindOf name

/-- Calls a method of a kind on a value, with nothing else. -/
def callUnbound (kind : Kind) (name : String) (v : Value) : Eval Value :=
  let fits := v.kindOf == kind || (kind == .int && v.kindOf == .bool)
  if !fits then
    fail (.typed ("descriptor '" ++ name ++ "' for '" ++ kind.name ++ "' objects doesn't apply to a '" ++
      v.kindOf.name ++ "' object"))
  else
    match v with
    | .str s => ofPlainText s name
    | .list a => ofPlainList a name
    | .dict a => ofPlainDict a name
    | .float x => pure (.bool (Decimal.isWhole x))
    | .nan _ => pure (.bool false)
    | .set a => ofPlainSet a name
    | v =>
      match v.int? with
      | some i =>
        if name == "bit_length" then pure (.int (if i == 0 then 0 else i.natAbs.log2 + 1))
        else pure (.int i)
      | none =>
        if name == "index" then fail (.typed "index expected at least 1 argument, got 0")
        else fail (.typed (kind.name ++ "." ++ name ++ "() takes exactly one argument (0 given)"))

end WorkflowEngine.Method
