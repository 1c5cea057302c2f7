import WorkflowEngine.Expression.Lexer
import WorkflowEngine.Expression.Template
import WorkflowEngine.Expression.Tree

/-!
# Reading expressions

The parsers take tokens from the front of a list.  Their fuel bounds how deeply they call each other;
`depth` gives enough of it for the length of a text.
-/

namespace WorkflowEngine.Expression

/-- Reads something from the front of a list of tokens, or fails. -/
abbrev Parser (α : Type) : Type := StateT (List Token) Option α

namespace Parser

/-- The next token, which stays. -/
def peek : Parser (Option Token) := do
  return (← get).head?

/-- Takes the next token. -/
def next : Parser Token := do
  match ← get with
  | t :: rest => set rest; return t
  | [] => failure

/-- The next token is the given one. -/
def at? (t : Token) : Parser Bool := do
  return (← peek) == some t

/-- Takes the given token. -/
def expect (t : Token) : Parser Unit := do
  if (← next) == t then return () else failure

/-- Takes a symbol. -/
def symbol (text : String) : Parser Unit :=
  expect (.symbol text)

/-- Takes a keyword. -/
def keyword (text : String) : Parser Unit :=
  expect (.keyword text)

/-- The next token is the given symbol. -/
def atSymbol (text : String) : Parser Bool :=
  at? (.symbol text)

/-- The next token is the given keyword. -/
def atKeyword (text : String) : Parser Bool :=
  at? (.keyword text)

/-- Takes a name. -/
def name : Parser String := do
  match ← next with
  | .name text => return text
  | _ => failure

/-- Takes the given token if it comes next, and tells whether it did. -/
def skip (t : Token) : Parser Bool := do
  if ← at? t then
    let _ ← next
    return true
  else return false

/-- Reads as often as possible, behind what is already read, which stands reversed. -/
def manyFrom {α : Type} (p : Parser α) : Nat → List α → Parser (List α)
  | 0, done => return done.reverse
  | fuel + 1, done => do
    match ← optional p with
    | some x => manyFrom p fuel (x :: done)
    | none => return done.reverse

/-- Reads as often as possible. -/
def many {α : Type} (p : Parser α) : Parser (List α) := do
  manyFrom p (← get).length []

/-- Reads one item or more, each of the further ones behind a comma. -/
def commaSeparated {α : Type} (p : Parser α) : Parser (List α) := do
  let first ← p
  let rest ← many (do symbol ","; p)
  return first :: rest

/-- Reads items separated by commas and an optional comma at the end, which is told. -/
def commaEnded {α : Type} (p : Parser α) : Parser (List α × Bool) := do
  let items ← commaSeparated p
  let ended ← skip (.symbol ",")
  return (items, ended)

/-- Reads one item, or a tuple if a comma follows. -/
def itemOrTuple (p : Parser Tree) : Parser Tree := do
  match ← commaEnded p with
  | ([item], false) => return item
  | (items, _) => return .tuple items

/-- The operators of each level, those that bind least in front. -/
def levels : List (List (String × BinaryOperator)) :=
  [[("|", .bitOr)], [("^", .bitXor)], [("&", .bitAnd)],
    [("<<", .shiftLeft), (">>", .shiftRight)], [("+", .add), ("-", .subtract)],
    [("*", .multiply), ("/", .divide), ("//", .floorDivide), ("%", .modulo), ("@", .matrix)]]

/-- Takes an operator of a level. -/
def operatorOf (level : List (String × BinaryOperator)) : Parser BinaryOperator := do
  match ← next with
  | .symbol text =>
    match level.lookup text with
    | some operator => return operator
    | none => failure
  | _ => failure

/-- Takes a link of a chain of comparisons. -/
def link : Parser Link := do
  match ← next with
  | .symbol "==" => return .equal
  | .symbol "!=" => return .notEqual
  | .symbol "<" => return .less
  | .symbol "<=" => return .lessEqual
  | .symbol ">" => return .greater
  | .symbol ">=" => return .greaterEqual
  | .keyword "in" => return .isIn
  | .keyword "not" => keyword "in"; return .isNotIn
  | .keyword "is" => if ← skip (.keyword "not") then return .isNotSame else return .isSame
  | _ => failure

mutual

/-- A tree that something may be bound to, as a target. -/
def targetOf? : Tree → Option Target
  | .name text => some (.name text)
  | .attribute _ _ => some (.refused "Attribute")
  | .subscript _ _ => some (.refused "Subscript")
  | .tuple items => (targetsOf? items).map .items
  | .list items => (targetsOf? items).map .items
  | .starred operand =>
    match operand with
    | .starred _ => none
    | _ => (targetOf? operand).map fun _ => .refused "Starred"
  | _ => none

/-- Trees that something may be bound to, as targets. -/
def targetsOf? : List Tree → Option (List Target)
  | [] => some []
  | item :: rest => do
    let target ← targetOf? item
    let others ← targetsOf? rest
    return target :: others

end

/-- Literals next to each other as one constant; bytes do not mix with text. -/
def constantOf? (literals : List Literal) : Option Tree := do
  if literals.any fun l => l.kind == .bytes then
    if literals.all fun l => l.kind == .bytes then
      let parts ← literals.mapM fun l => bytesOfLiteral l.raw l.body
      return .constant (.bytes parts.flatten)
    else failure
  else
    let parts ← literals.mapM fun l => textOfLiteral l.raw l.body
    return .constant (.str (String.ofList parts.flatten))

/-- The parts of literals next to each other, some of which are templates. -/
def piecesOf? : List Piece → List Literal → Option (List Piece)
  | done, [] => some done.reverse
  | done, l :: rest =>
    match l.kind with
    | .bytes => none
    | .text => do
      let chars ← textOfLiteral l.raw l.body
      piecesOf? (Piece.pushText chars done) rest
    | .template => do
      let pieces ← templatePieces l.raw l.body
      let joined := pieces.foldl (fun done piece =>
        match piece with
        | .text chars => Piece.pushText chars done
        | hole => hole :: done) done
      piecesOf? joined rest

/-- What the parameters read so far allow behind them. -/
structure Parameters where
  /-- A parameter has been read. -/
  started : Bool
  /-- A parameter with a default has been read. -/
  defaults : Bool
  /-- The star that ends the parameters by place has been read. -/
  star : Bool
  /-- The star stands alone and awaits a parameter. -/
  starOpen : Bool
  /-- The slash behind parameters by place only has been read. -/
  slash : Bool
  /-- The parameter that collects named arguments has been read. -/
  closed : Bool

/-- Nothing has been read. -/
def Parameters.none : Parameters := ⟨false, false, false, false, false, false⟩

mutual

/-- An expression without commas. -/
def expression : Nat → Parser Tree
  | 0 => failure
  | n + 1 => do
    if ← atKeyword "lambda" then lambda n
    else
      let value ← disjunction n
      if ← skip (.keyword "if") then
        let test ← disjunction n
        keyword "else"
        let other ← expression n
        return .choice test value other
      else return value

/-- An anonymous function, which is refused. -/
def lambda : Nat → Parser Tree
  | 0 => failure
  | n + 1 => do
    keyword "lambda"
    if ← atSymbol ":" then pure ()
    else parameters n false .none
    symbol ":"
    let _ ← expression n
    return .refused "Lambda"

/-- The parameters of a function; in definitions they may be annotated. -/
def parameters : Nat → Bool → Parameters → Parser Unit
  | 0, _, _ => failure
  | n + 1, annotated, seen => do
    if seen.closed then failure
    let seen ← do
      if ← skip (.symbol "/") then
        if seen.slash || seen.star || !seen.started then failure else pure { seen with slash := true }
      else if ← skip (.symbol "**") then
        if seen.starOpen then failure
        parameter n annotated false
        pure { seen with closed := true }
      else if ← skip (.symbol "*") then
        if seen.star then failure
        match ← peek with
        | some (.name _) =>
          parameter n annotated true
          pure { seen with star := true }
        | _ => pure { seen with star := true, starOpen := true }
      else
        parameter n annotated false
        if ← skip (.symbol "=") then
          let _ ← expression n
          pure { seen with started := true, defaults := true, starOpen := false }
        else if seen.defaults && !seen.star then failure
        else pure { seen with started := true, starOpen := false }
    if ← skip (.symbol ",") then
      match ← peek with
      | some (.symbol ":") => if seen.starOpen then failure else return ()
      | some (.symbol ")") => if seen.starOpen then failure else return ()
      | _ => parameters n annotated seen
    else if seen.starOpen then failure
    else return ()

/-- One parameter with its annotation. -/
def parameter : Nat → Bool → Bool → Parser Unit
  | 0, _, _ => failure
  | n + 1, annotated, starred => do
    let _ ← name
    if annotated then
      if ← skip (.symbol ":") then
        let _ ← if starred then starExpression n else expression n
        return ()

/-- Operands joined by the weaker connective. -/
def disjunction : Nat → Parser Tree
  | 0 => failure
  | n + 1 => do
    let first ← conjunction n
    match ← many (do keyword "or"; conjunction n) with
    | [] => return first
    | rest => return .disjunction (first :: rest)

/-- Operands joined by the stronger connective. -/
def conjunction : Nat → Parser Tree
  | 0 => failure
  | n + 1 => do
    let first ← inversion n
    match ← many (do keyword "and"; inversion n) with
    | [] => return first
    | rest => return .conjunction (first :: rest)

/-- An operand that may be negated. -/
def inversion : Nat → Parser Tree
  | 0 => failure
  | n + 1 => do
    if ← skip (.keyword "not") then return .unary .negation (← inversion n)
    else
      let first ← binary n levels
      let rest ← many (do let l ← link; return (l, ← binary n levels))
      match rest with
      | [] => return first
      | _ => return .comparison first (rest.map Prod.fst) (rest.map Prod.snd)

/-- Operands joined by the operators of the given levels. -/
def binary : Nat → List (List (String × BinaryOperator)) → Parser Tree
  | 0, _ => failure
  | n + 1, [] => factor n
  | n + 1, level :: tighter => do
    let first ← binary n tighter
    let rest ← many (do let operator ← operatorOf level; return (operator, ← binary n tighter))
    return rest.foldl (fun left item => .binary item.1 left item.2) first

/-- An operand with signs in front. -/
def factor : Nat → Parser Tree
  | 0 => failure
  | n + 1 => do
    if ← skip (.symbol "-") then return .unary .minus (← factor n)
    else if ← skip (.symbol "+") then return .unary .plus (← factor n)
    else if ← skip (.symbol "~") then return .unary .complement (← factor n)
    else
      let base ← awaited n
      if ← skip (.symbol "**") then return .binary .power base (← factor n)
      else return base

/-- A primary that may be awaited, which is refused. -/
def awaited : Nat → Parser Tree
  | 0 => failure
  | n + 1 => do
    if ← skip (.keyword "await") then
      let _ ← primary n
      return .refused "Await"
    else primary n

/-- An atom with selections and calls behind it. -/
def primary : Nat → Parser Tree
  | 0 => failure
  | n + 1 => do
    let first ← atom n
    trailers n first

/-- Selections and calls behind a tree. -/
def trailers : Nat → Tree → Parser Tree
  | 0, _ => failure
  | n + 1, owner => do
    if ← skip (.symbol ".") then trailers n (.attribute owner (← name))
    else if ← skip (.symbol "[") then
      let index ← subscripts n
      symbol "]"
      trailers n (.subscript owner index)
    else if ← skip (.symbol "(") then
      let call ← arguments n owner
      trailers n call
    else return owner

/-- What stands between the brackets of a selection. -/
def subscripts : Nat → Parser Tree
  | 0 => failure
  | n + 1 => do
    match ← commaEnded (subscriptItem n) with
    | ([.starred operand], false) => return .tuple [.starred operand]
    | ([item], false) => return item
    | (items, _) => return .tuple items

/-- One index, range or spread sequence. -/
def subscriptItem : Nat → Parser Tree
  | 0 => failure
  | n + 1 => do
    if ← skip (.symbol "*") then return .starred (← expression n)
    else if ← atSymbol ":" then range n .absent
    else
      let item ← namedExpression n
      if ← atSymbol ":" then
        match item with
        | .refused "NamedExpr" => failure
        | _ => range n item
      else return item

/-- A range from its first colon on. -/
def range : Nat → Tree → Parser Tree
  | 0, _ => failure
  | n + 1, lower => do
    symbol ":"
    let upper := (← optional (expression n)).getD .absent
    if ← skip (.symbol ":") then
      let step := (← optional (expression n)).getD .absent
      return .slice lower upper step
    else return .slice lower upper .absent

/-- The arguments of a call up to the closing bracket. -/
def arguments : Nat → Tree → Parser Tree
  | 0, _ => failure
  | n + 1, callee => do
    if ← skip (.symbol ")") then return .call callee [] [] []
    else argumentList n callee [] [] [] false

/-- Further arguments up to the closing bracket, behind those already read, which stand reversed. -/
def argumentList : Nat → Tree → List Tree → List (Option String) → List Tree → Bool → Parser Tree
  | 0, _, _, _, _, _ => failure
  | n + 1, callee, done, names, named, spread => do
    let tokens ← get
    let (done, names, named, spread) ←
      match tokens with
      | .symbol "*" :: rest =>
        set rest
        let item ← expression n
        if spread then failure else pure (.starred item :: done, names, named, spread)
      | .symbol "**" :: rest =>
        set rest
        let item ← expression n
        pure (done, none :: names, item :: named, true)
      | .name text :: .symbol "=" :: rest =>
        set rest
        let item ← expression n
        pure (done, some text :: names, item :: named, spread)
      | _ =>
        if names.isEmpty then
          let item ← namedExpression n
          if (← atKeyword "for") || (← atKeyword "async") then
            let clauses ← clauses n
            if !done.isEmpty || !(← atSymbol ")") then failure
            pure ([.listOf item clauses], names, named, spread)
          else pure (item :: done, names, named, spread)
        else failure
    if ← skip (.symbol ")") then return .call callee done.reverse names.reverse named.reverse
    else
      symbol ","
      if ← skip (.symbol ")") then return .call callee done.reverse names.reverse named.reverse
      else argumentList n callee done names named spread

/-- A name, literal, display or bracketed expression. -/
def atom : Nat → Parser Tree
  | 0 => failure
  | n + 1 => do
    match ← next with
    | .name text => return .name text
    | .int value => return .constant (.int value)
    | .float value => return .constant (.float value)
    | .imaginary value => return .constant (.imaginary value)
    | .literal first =>
      let rest ← many (do
        match ← next with
        | .literal content => return content
        | _ => failure)
      literals n (first :: rest)
    | .keyword "None" => return .constant .null
    | .keyword "True" => return .constant (.bool true)
    | .keyword "False" => return .constant (.bool false)
    | .symbol "..." => return .constant .ellipsis
    | .symbol "(" => group n
    | .symbol "[" => listDisplay n
    | .symbol "\x7b" => braces n
    | _ => failure

/-- Literals next to each other. -/
def literals : Nat → List Literal → Parser Tree
  | 0, _ => failure
  | n + 1, contents => do
    if contents.any fun l => l.kind == .template then
      match piecesOf? [] contents with
      | none => failure
      | some pieces => return .template (← pieces.mapM (piece n))
    else
      match constantOf? contents with
      | none => failure
      | some tree => return tree

/-- A part of a template; the expression of a hole stands as if in brackets. -/
def piece : Nat → Piece → Parser Tree
  | 0, _ => failure
  | _ + 1, .text chars => return .constant (.str (String.ofList chars))
  | n + 1, .hole chars layout => do
    match lex ('(' :: chars ++ [')']) with
    | none => failure
    | some tokens =>
      let after ← get
      set tokens
      let value ← starExpressions n
      expect .newline
      if (← peek).isSome then failure
      set after
      match layout with
      | none => return .placeholder value .absent
      | some pieces => return .placeholder value (.template (← pieces.mapM (piece n)))

/-- A tuple, comprehension or bracketed expression, behind the opening bracket. -/
def group : Nat → Parser Tree
  | 0 => failure
  | n + 1 => do
    if ← skip (.symbol ")") then return .tuple []
    else if ← atKeyword "yield" then
      let tree ← yielding n
      symbol ")"
      return tree
    else
      let first ← starNamed n
      if (← atKeyword "for") || (← atKeyword "async") then
        match first with
        | .starred _ => failure
        | _ =>
          let clauses ← clauses n
          symbol ")"
          return .listOf first clauses
      else if ← skip (.symbol ",") then
        let rest := (← optional (commaEnded (starNamed n))).getD ([], false)
        symbol ")"
        return .tuple (first :: rest.1)
      else
        symbol ")"
        match first with
        | .starred _ => failure
        | _ => return first

/-- A list or a comprehension, behind the opening bracket. -/
def listDisplay : Nat → Parser Tree
  | 0 => failure
  | n + 1 => do
    if ← skip (.symbol "]") then return .list []
    else
      let first ← starNamed n
      if (← atKeyword "for") || (← atKeyword "async") then
        match first with
        | .starred _ => failure
        | _ =>
          let clauses ← clauses n
          symbol "]"
          return .listOf first clauses
      else
        let rest ← many (do symbol ","; starNamed n)
        let _ ← skip (.symbol ",")
        symbol "]"
        return .list (first :: rest)

/-- A dictionary, a set or a comprehension of one of them, behind the opening brace. -/
def braces : Nat → Parser Tree
  | 0 => failure
  | n + 1 => do
    if ← skip (.symbol "\x7d") then return .dict []
    else if ← atSymbol "**" then entries n
    else
      let first ← starNamed n
      if ← skip (.symbol ":") then
        match first with
        | .starred _ => failure
        | .refused "NamedExpr" => failure
        | key =>
          let value ← expression n
          if (← atKeyword "for") || (← atKeyword "async") then
            let clauses ← clauses n
            symbol "\x7d"
            return .dictOf key value clauses
          else
            let rest ← many (do symbol ","; entry n)
            let _ ← skip (.symbol ",")
            symbol "\x7d"
            return .dict (.pair key value :: rest)
      else if (← atKeyword "for") || (← atKeyword "async") then
        match first with
        | .starred _ => failure
        | _ =>
          let _ ← clauses n
          symbol "\x7d"
          return .refused "SetComp"
      else
        let rest ← many (do symbol ","; starNamed n)
        let _ ← skip (.symbol ",")
        symbol "\x7d"
        return .set (first :: rest)

/-- The entries of a dictionary up to the closing brace. -/
def entries : Nat → Parser Tree
  | 0 => failure
  | n + 1 => do
    let (items, _) ← commaEnded (entry n)
    symbol "\x7d"
    return .dict items

/-- One entry of a dictionary, or a dictionary that is spread. -/
def entry : Nat → Parser Entry
  | 0 => failure
  | n + 1 => do
    if ← skip (.symbol "**") then return .spread (← binary n levels)
    else
      let key ← expression n
      symbol ":"
      return .pair key (← expression n)

/-- An expression that may be given a name, which is refused. -/
def namedExpression : Nat → Parser Tree
  | 0 => failure
  | n + 1 => do
    match ← get with
    | .name _ :: .symbol ":=" :: rest =>
      set rest
      let _ ← expression n
      return .refused "NamedExpr"
    | _ =>
      let value ← expression n
      if ← atSymbol ":=" then failure else return value

/-- An expression that may be spread, as an item of a display. -/
def starNamed : Nat → Parser Tree
  | 0 => failure
  | n + 1 => do
    if ← skip (.symbol "*") then return .starred (← binary n levels) else namedExpression n

/-- An expression that may be spread. -/
def starExpression : Nat → Parser Tree
  | 0 => failure
  | n + 1 => do
    if ← skip (.symbol "*") then return .starred (← binary n levels) else expression n

/-- One or more expressions, as a tuple if there are commas. -/
def starExpressions : Nat → Parser Tree
  | 0 => failure
  | n + 1 => itemOrTuple (starExpression n)

/-- A yielding expression, which is refused. -/
def yielding : Nat → Parser Tree
  | 0 => failure
  | n + 1 => do
    keyword "yield"
    if ← skip (.keyword "from") then
      let _ ← expression n
      return .refused "YieldFrom"
    else
      let _ ← optional (starExpressions n)
      return .refused "Yield"

/-- The sources of a comprehension. -/
def clauses : Nat → Parser (List Clause)
  | 0 => failure
  | n + 1 => do
    let first ← clause n
    let rest ← many (clause n)
    return first :: rest

/-- One source of a comprehension with its tests. -/
def clause : Nat → Parser Clause
  | 0 => failure
  | n + 1 => do
    let _ ← skip (.keyword "async")
    keyword "for"
    let target ← targets n
    keyword "in"
    let source ← disjunction n
    let tests ← many (do keyword "if"; disjunction n)
    return .mk target source tests

/-- What items are bound to. -/
def targets : Nat → Parser Target
  | 0 => failure
  | n + 1 => do
    match targetOf? (← itemOrTuple (targetTree n)) with
    | some target => return target
    | none => failure

/-- A tree that may turn out to be a target. -/
def targetTree : Nat → Parser Tree
  | 0 => failure
  | n + 1 => do
    if ← skip (.symbol "*") then return .starred (← primary n) else primary n

end

/-- Enough fuel for a text of the given length. -/
def depth (length : Nat) : Nat :=
  60 * (length + 4)

/-- One or more expressions without spread ones, and nothing behind them but line ends.  They get as much fuel as
those that stand as a statement. -/
def onlyExpressions (length : Nat) : Parser Unit := do
  let _ ← itemOrTuple (expression (depth length - 2))
  let _ ← many (expect .newline)
  if (← peek).isSome then failure

/-- The whole text is one or more expressions without spread ones. -/
def isExpressionText (chars : List Char) : Bool :=
  match lex chars with
  | none => false
  | some tokens => (((onlyExpressions chars.length).run tokens).map Prod.fst).isSome

end Parser

end WorkflowEngine.Expression
