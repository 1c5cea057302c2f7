import WorkflowEngine.Expression.Parser

/-!
# Reading statements

The text of an expression is read as a sequence of statements.  Only the first of them matters later,
and only if it has a value; all others have to be well formed none the less.
-/

namespace WorkflowEngine.Expression.Parser

/-- Something may be bound to the tree by one assignment: a name, an attribute or a selection. -/
def isSingleTarget : Tree → Bool
  | .name _ => true
  | .attribute _ _ => true
  | .subscript _ _ => true
  | _ => false

mutual

/-- The tree may be deleted. -/
def isDeletable : Tree → Bool
  | .tuple items => areDeletable items
  | .list items => areDeletable items
  | tree => isSingleTarget tree

/-- All trees may be deleted. -/
def areDeletable : List Tree → Bool
  | [] => true
  | item :: rest => isDeletable item && areDeletable rest

end

/-- The signs that change the value of a target. -/
def changingSigns : List String :=
  ["+=", "-=", "*=", "/=", "//=", "%=", "@=", "&=", "|=", "^=", "<<=", ">>=", "**="]

/-- The right side of an assignment. -/
def assigned (d : Nat) : Parser Tree := do
  if ← atKeyword "yield" then yielding d else starExpressions d

/-- Further right sides of an assignment; all but the last are targets. -/
def assignedChain (d : Nat) : Nat → Parser Tree
  | 0 => failure
  | fuel + 1 => do
    let value ← assigned d
    if ← skip (.symbol "=") then
      match targetOf? value with
      | some _ => assignedChain d fuel
      | none => failure
    else return value

/-- An assignment or a plain expression. -/
def assignment (d : Nat) : Parser Statement := do
  let tree ← starExpressions d
  match ← peek with
  | some (.symbol "=") =>
    let _ ← next
    match targetOf? tree with
    | some _ => return .value (← assignedChain d d)
    | none => failure
  | some (.symbol ":") =>
    if isSingleTarget tree then
      let _ ← next
      let _ ← expression d
      if ← skip (.symbol "=") then
        let _ ← assigned d
        return .refused "AnnAssign"
      else return .refused "AnnAssign"
    else failure
  | some (.symbol text) =>
    if changingSigns.contains text then
      if isSingleTarget tree then
        let _ ← next
        return .value (← assigned d)
      else failure
    else return .value tree
  | _ => return .value tree

/-- A name with parts. -/
def dottedName : Parser Unit := do
  let _ ← name
  let _ ← many (do symbol "."; name)
  return ()

/-- What is imported, with the name it gets. -/
def renamed (p : Parser Unit) : Parser Unit := do
  p
  if ← skip (.keyword "as") then
    let _ ← name
    return ()

/-- The names that are imported from a module. -/
def importedNames : Parser Unit := do
  let one := renamed (do let _ ← name)
  if ← skip (.symbol "*") then return ()
  else if ← skip (.symbol "(") then
    let _ ← commaEnded one
    symbol ")"
  else
    let _ ← commaSeparated one
    return ()

/-- An import from a module that is given by its name, by dots or by both. -/
def importFrom : Parser Unit := do
  keyword "from"
  let dots ← many (do
    match ← next with
    | .symbol "." => return ()
    | .symbol "..." => return ()
    | _ => failure)
  if ← atKeyword "import" then
    if dots.isEmpty then failure
  else dottedName
  keyword "import"
  importedNames

/-- Names separated by commas. -/
def names : Parser Unit := do
  let _ ← commaSeparated name
  return ()

/-- A statement without blocks. -/
def simpleStatement (d : Nat) : Parser Statement := do
  match ← peek with
  | some (.keyword "pass") => let _ ← next; return .refused "Pass"
  | some (.keyword "break") => let _ ← next; return .refused "Break"
  | some (.keyword "continue") => let _ ← next; return .refused "Continue"
  | some (.keyword "return") =>
    let _ ← next
    let _ ← optional (starExpressions d)
    return .refused "Return"
  | some (.keyword "import") =>
    let _ ← next
    let _ ← commaSeparated (renamed dottedName)
    return .importing
  | some (.keyword "from") => importFrom; return .refused "ImportFrom"
  | some (.keyword "raise") =>
    let _ ← next
    match ← optional (expression d) with
    | none => return .refused "Raise"
    | some _ =>
      if ← skip (.keyword "from") then
        let _ ← expression d
        return .refused "Raise"
      else return .refused "Raise"
  | some (.keyword "del") =>
    let _ ← next
    if isDeletable (← itemOrTuple (primary d)) then return .refused "Delete" else failure
  | some (.keyword "yield") => return .value (← yielding d)
  | some (.keyword "assert") =>
    let _ ← next
    let _ ← expression d
    if ← skip (.symbol ",") then
      let _ ← expression d
      return .refused "Assert"
    else return .refused "Assert"
  | some (.keyword "global") => let _ ← next; names; return .refused "Global"
  | some (.keyword "nonlocal") => let _ ← next; names; return .refused "Nonlocal"
  | _ => assignment d

/-- Statements on one line, of which the first is kept. -/
def simpleStatements (d : Nat) : Parser Statement := do
  let first ← simpleStatement d
  let _ ← many (do symbol ";"; simpleStatement d)
  let _ ← skip (.symbol ";")
  expect .newline
  return first

/-- A number of a pattern, possibly with a sign. -/
def signedNumber : Parser Unit := do
  let _ ← skip (.symbol "-")
  match ← next with
  | .int _ => return ()
  | .float _ => return ()
  | .imaginary _ => return ()
  | _ => failure

/-- The imaginary part of a complex number of a pattern. -/
def imaginaryPart : Parser Unit := do
  match ← next with
  | .imaginary _ => return ()
  | _ => failure

/-- A literal of a pattern. -/
def literalPattern (d : Nat) : Parser Unit := do
  match ← peek with
  | some (.keyword "None") => let _ ← next; return ()
  | some (.keyword "True") => let _ ← next; return ()
  | some (.keyword "False") => let _ ← next; return ()
  | some (.literal _) => let _ ← atom d; return ()
  | _ =>
    signedNumber
    if ← skip (.symbol "+") then imaginaryPart
    else if ← skip (.symbol "-") then imaginaryPart

mutual

/-- A pattern with alternatives and a name for what it matches. -/
def pattern (d : Nat) : Nat → Parser Unit
  | 0 => failure
  | n + 1 => do
    closedPattern d n
    let _ ← many (do symbol "|"; closedPattern d n)
    if ← skip (.keyword "as") then
      if (← name) == "_" then failure

/-- A pattern without alternatives. -/
def closedPattern (d : Nat) : Nat → Parser Unit
  | 0 => failure
  | n + 1 => do
    match ← peek with
    | some (.name _) =>
      let _ ← name
      let _ ← many (do symbol "."; name)
      if ← skip (.symbol "(") then
        let _ ← optional (commaEnded (argumentPattern d n))
        symbol ")"
    | some (.symbol "(") =>
      let _ ← next
      let _ ← optional (commaEnded (itemPattern d n))
      symbol ")"
    | some (.symbol "[") =>
      let _ ← next
      let _ ← optional (commaEnded (itemPattern d n))
      symbol "]"
    | some (.symbol "\x7b") =>
      let _ ← next
      let _ ← optional (commaEnded (entryPattern d n))
      symbol "\x7d"
    | _ => literalPattern d

/-- A pattern inside a sequence, possibly for several items. -/
def itemPattern (d : Nat) : Nat → Parser Unit
  | 0 => failure
  | n + 1 => do
    if ← skip (.symbol "*") then
      let _ ← name
      return ()
    else pattern d n

/-- A pattern for an argument, possibly a named one. -/
def argumentPattern (d : Nat) : Nat → Parser Unit
  | 0 => failure
  | n + 1 => do
    match ← get with
    | .name _ :: .symbol "=" :: rest => set rest; pattern d n
    | _ => pattern d n

/-- A pattern for an entry of a dictionary, or a name for the remaining entries. -/
def entryPattern (d : Nat) : Nat → Parser Unit
  | 0 => failure
  | n + 1 => do
    if ← skip (.symbol "**") then
      let _ ← name
      return ()
    else
      match ← peek with
      | some (.name _) => dottedName
      | _ => literalPattern d
      symbol ":"
      pattern d n

end

mutual

/-- Statements in a block of their own, or on the line. -/
def block (d : Nat) : Nat → Parser Unit
  | 0 => failure
  | n + 1 => do
    symbol ":"
    if ← skip .newline then
      expect .indent
      let _ ← statement d n
      let _ ← many (statement d n)
      expect .dedent
    else
      let _ ← simpleStatements d
      return ()

/-- A block behind a keyword, if the keyword comes next. -/
def optionalBlock (d : Nat) : Nat → String → Parser Unit
  | 0, _ => failure
  | n + 1, word => do
    if ← skip (.keyword word) then block d n

/-- The branches of a conditional statement behind the first test. -/
def branches (d : Nat) : Nat → Parser Unit
  | 0 => failure
  | n + 1 => do
    block d n
    if ← skip (.keyword "elif") then
      let _ ← namedExpression d
      branches d n
    else optionalBlock d n "else"

/-- A loop over items. -/
def forLoop (d : Nat) : Nat → Parser Unit
  | 0 => failure
  | n + 1 => do
    keyword "for"
    let _ ← targets d
    keyword "in"
    let _ ← starExpressions d
    block d n
    optionalBlock d n "else"

/-- A managed resource, with the target it is bound to. -/
def resource (d : Nat) : Parser Unit := do
  let _ ← expression d
  if ← skip (.keyword "as") then
    match targetOf? (← targetTree d) with
    | some _ => return ()
    | none => failure

/-- A statement with managed resources. -/
def withBlock (d : Nat) : Nat → Parser Unit
  | 0 => failure
  | n + 1 => do
    keyword "with"
    let bracketed : Parser Unit := do
      symbol "("
      let _ ← commaEnded (resource d)
      symbol ")"
      if ← atSymbol ":" then return () else failure
    let plain : Parser Unit := do
      let _ ← commaSeparated (resource d)
      return ()
    bracketed <|> plain
    block d n

/-- The handlers of a guarded block; all of them or none are for groups. -/
def handlers (d : Nat) : Nat → Bool → Parser Unit
  | 0, _ => failure
  | n + 1, grouped => do
    keyword "except"
    if grouped then symbol "*"
    if ← atSymbol ":" then
      if grouped then failure
    else
      let _ ← expression d
      if ← skip (.keyword "as") then
        let _ ← name
        pure ()
    block d n
    if ← atKeyword "except" then handlers d n grouped

/-- A guarded block. -/
def tryBlock (d : Nat) : Nat → Parser String
  | 0 => failure
  | n + 1 => do
    keyword "try"
    block d n
    if ← skip (.keyword "finally") then
      block d n
      return "Try"
    else
      let grouped := match ← get with
        | .keyword "except" :: .symbol "*" :: _ => true
        | _ => false
      handlers d n grouped
      optionalBlock d n "else"
      optionalBlock d n "finally"
      return if grouped then "TryStar" else "Try"

/-- A definition of a function. -/
def functionBlock (d : Nat) : Nat → Parser Unit
  | 0 => failure
  | n + 1 => do
    keyword "def"
    let _ ← name
    symbol "("
    if !(← atSymbol ")") then parameters d true .none
    symbol ")"
    if ← skip (.symbol "->") then
      let _ ← expression d
      pure ()
    block d n

/-- A definition of a class. -/
def classBlock (d : Nat) : Nat → Parser Unit
  | 0 => failure
  | n + 1 => do
    keyword "class"
    let _ ← name
    if ← skip (.symbol "(") then
      let _ ← arguments d .absent
      pure ()
    block d n

/-- A definition, possibly an asynchronous one. -/
def definition (d : Nat) : Nat → Parser String
  | 0 => failure
  | n + 1 => do
    if ← skip (.keyword "async") then
      functionBlock d n
      return "AsyncFunctionDef"
    else if ← atKeyword "def" then
      functionBlock d n
      return "FunctionDef"
    else
      classBlock d n
      return "ClassDef"

/-- A case of a matching statement. -/
def caseBlock (d : Nat) : Nat → Parser Unit
  | 0 => failure
  | n + 1 => do
    if (← name) != "case" then failure
    let _ ← commaEnded (itemPattern d n)
    if ← skip (.keyword "if") then
      let _ ← namedExpression d
      pure ()
    block d n

/-- A matching statement. -/
def matchBlock (d : Nat) : Nat → Parser Unit
  | 0 => failure
  | n + 1 => do
    if (← name) != "match" then failure
    let _ ← itemOrTuple (starNamed d)
    symbol ":"
    expect .newline
    expect .indent
    caseBlock d n
    let _ ← many (caseBlock d n)
    expect .dedent

/-- One line of statements or a statement with blocks, of which the first is kept. -/
def statement (d : Nat) : Nat → Parser Statement
  | 0 => failure
  | n + 1 => do
    match ← get with
    | .keyword "if" :: rest =>
      set rest
      let _ ← namedExpression d
      branches d n
      return .refused "If"
    | .keyword "while" :: rest =>
      set rest
      let _ ← namedExpression d
      block d n
      optionalBlock d n "else"
      return .refused "While"
    | .keyword "for" :: _ => forLoop d n; return .refused "For"
    | .keyword "with" :: _ => withBlock d n; return .refused "With"
    | .keyword "try" :: _ => return .refused (← tryBlock d n)
    | .keyword "def" :: _ => return .refused (← definition d n)
    | .keyword "class" :: _ => return .refused (← definition d n)
    | .keyword "async" :: .keyword "for" :: rest =>
      set (Token.keyword "for" :: rest)
      forLoop d n
      return .refused "AsyncFor"
    | .keyword "async" :: .keyword "with" :: rest =>
      set (Token.keyword "with" :: rest)
      withBlock d n
      return .refused "AsyncWith"
    | .keyword "async" :: _ => return .refused (← definition d n)
    | .symbol "@" :: _ =>
      let _ ← many (do
        symbol "@"
        let _ ← namedExpression d
        expect .newline)
      return .refused (← definition d n)
    | .name "match" :: _ =>
      let matching : Parser Statement := do
        matchBlock d n
        return .refused "Match"
      matching <|> simpleStatements d
    | _ => simpleStatements d

end

/-- The statements of a whole text, of which the first is kept; none if there are none. -/
def program (d : Nat) : Parser (Option Statement) := do
  if (← peek).isNone then return none
  else
    let first ← statement d d
    let _ ← many (statement d d)
    if (← peek).isSome then failure else return some first

end WorkflowEngine.Expression.Parser

namespace WorkflowEngine.Expression

/-- The first statement of a text: fails if the text is not well formed, and is none if it is empty. -/
def readProgram (chars : List Char) : Option (Option Statement) := do
  let tokens ← lex chars
  let (first, _) ← (Parser.program (Parser.depth chars.length)).run tokens
  return first

end WorkflowEngine.Expression
