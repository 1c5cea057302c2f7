import WorkflowEngine.Decimal.Numeral
import WorkflowEngine.Text.Unicode.Identifier

/-!
# Tokens of expressions

An expression is read in two steps.  The first cuts the text into the tokens of this module.
-/

namespace WorkflowEngine.Expression

/-- What a quoted literal denotes. -/
inductive LiteralKind where
  | text
  | bytes
  | template
deriving Repr, DecidableEq, Inhabited

/-- A quoted literal: its kind, whether backslashes stand for themselves, and the characters inside. -/
structure Literal where
  kind : LiteralKind
  raw : Bool
  body : List Char
deriving Repr, DecidableEq, Inhabited

/-- A token. -/
inductive Token where
  | name (text : String)
  | keyword (text : String)
  | int (value : Nat)
  | float (value : Float)
  | imaginary (value : Float)
  | literal (content : Literal)
  | symbol (text : String)
  | newline
  | indent
  | dedent
deriving Repr, Inhabited, BEq

/-- The words that cannot be names. -/
def keywords : List String :=
  ["False", "None", "True", "and", "as", "assert", "async", "await", "break", "class", "continue",
    "def", "del", "elif", "else", "except", "finally", "for", "from", "global", "if", "import", "in",
    "is", "lambda", "nonlocal", "not", "or", "pass", "raise", "return", "try", "while", "with",
    "yield"]

/-- The symbols, longer ones in front of their beginnings. -/
def symbols : List String :=
  ["...", "**=", "//=", ">>=", "<<=", "**", "//", ">>", "<<", "==", "!=", "<=", ">=", "->", ":=",
    "+=", "-=", "*=", "/=", "%=", "&=", "|=", "^=", "@=", "+", "-", "*", "/", "%", "@", "&", "|",
    "^", "~", "<", ">", "(", ")", "[", "]", "\x7b", "\x7d", ",", ":", ".", ";", "="]

/-- A word as a keyword or a name. -/
def Token.ofWord (text : String) : Token :=
  if keywords.contains text then .keyword text else .name text

end WorkflowEngine.Expression

/-!
## Cutting expressions into tokens

A line ends where its line break stands outside all brackets.  The blanks in front of a line open and
close blocks.  Comments and lines without tokens count for nothing.
-/

namespace WorkflowEngine.Expression

/-- The state of the lexer between two tokens. -/
structure Lexer where
  /-- The tokens found, the last one first. -/
  done : List Token
  /-- The closing brackets that are due, the next one first. -/
  closers : List Char
  /-- The widths of the open blocks, counted with wide and with narrow tabulators, the inner one first. -/
  blocks : List (Nat × Nat)
  /-- A line begins here. -/
  lineStart : Bool
  /-- The line holds a token already. -/
  inLine : Bool
deriving Inhabited

/-- The lexer in front of the first line. -/
def Lexer.start : Lexer := ⟨[], [], [(0, 0)], true, false⟩

/-- A letter, a low line or a character beyond the basic ones. -/
def opensWord (c : Char) : Bool :=
  c.isAlpha || c == '_' || 128 ≤ c.toNat

/-- A character that a word may hold. -/
def inWord (c : Char) : Bool :=
  opensWord c || c.isDigit

/-- The characters in front that satisfy a test, which stand reversed before those already taken, and the rest. -/
def takeWhileFrom (test : Char → Bool) (done : List Char) : List Char → List Char × List Char
  | [] => (done.reverse, [])
  | c :: rest => if test c then takeWhileFrom test (c :: done) rest else (done.reverse, c :: rest)

/-- The width of the blanks in front of a line, with wide and with narrow tabulators. -/
def lineWidth (wide narrow : Nat) : List Char → (Nat × Nat) × List Char
  | ' ' :: rest => lineWidth (wide + 1) (narrow + 1) rest
  | '\t' :: rest => lineWidth ((wide / 8 + 1) * 8) (narrow + 1) rest
  | '\x0c' :: rest => lineWidth 0 0 rest
  | rest => ((wide, narrow), rest)

/-- Closes the blocks that are wider than a line; the line has to stand where some block stands. -/
def closeBlocks (width : Nat × Nat) (done : List Token) :
    List (Nat × Nat) → Option (List Token × List (Nat × Nat))
  | [] => none
  | block :: outer =>
    if width.1 < block.1 then closeBlocks width (.dedent :: done) outer
    else if width == block then some (done, block :: outer)
    else none

/-- Opens or closes blocks for a line of the given width. -/
def Lexer.beginLine (s : Lexer) (width : Nat × Nat) : Option Lexer :=
  match s.blocks with
  | [] => none
  | block :: _ =>
    if width.1 == block.1 then
      if width.2 == block.2 then some { s with lineStart := false } else none
    else if block.1 < width.1 then
      if width.2 ≤ block.2 || 100 ≤ s.blocks.length then none
      else
        some { s with done := .indent :: s.done, blocks := width :: s.blocks, lineStart := false }
    else
      match closeBlocks width s.done s.blocks with
      | none => none
      | some (done, blocks) => some { s with done := done, blocks := blocks, lineStart := false }

/-- Adds a token to the line. -/
def Lexer.push (s : Lexer) (t : Token) : Lexer :=
  { s with done := t :: s.done, inLine := true }

/-- The bracket that closes an opening one. -/
def closerOf? : Char → Option Char
  | '(' => some ')'
  | '[' => some ']'
  | '\x7b' => some '\x7d'
  | _ => none

/-- Adds a symbol; brackets have to match. -/
def Lexer.pushSymbol (s : Lexer) (text : String) : Option Lexer :=
  match text.toList with
  | [c] =>
    match closerOf? c with
    | some closer =>
      if 200 ≤ s.closers.length then none
      else some { s.push (.symbol text) with closers := closer :: s.closers }
    | none =>
      if c == ')' || c == ']' || c == '\x7d' then
        match s.closers with
        | due :: rest => if due == c then some { s.push (.symbol text) with closers := rest } else none
        | [] => none
      else some (s.push (.symbol text))
  | _ => some (s.push (.symbol text))

/-- The words that may follow a number without a blank. -/
def wordsAfterNumber : List (List Char) :=
  ["and", "else", "for", "if", "in", "is", "or", "not"].map String.toList

/-- A number may end here: no word follows but one of those that may. -/
def numberEnds (rest : List Char) : Bool :=
  match rest with
  | [] => true
  | c :: _ => !inWord c || wordsAfterNumber.any fun word => word.isPrefixOf rest

/-- Digits of a base with single low lines between them, from a given value on. -/
def spanBase (base value : Nat) : List Char → Nat × List Char
  | '_' :: c :: rest =>
    match Decimal.digitInBase? base c with
    | some digit => spanBase base (value * base + digit) rest
    | none => (value, '_' :: c :: rest)
  | c :: rest =>
    match Decimal.digitInBase? base c with
    | some digit => spanBase base (value * base + digit) rest
    | none => (value, c :: rest)
  | [] => (value, [])

/-- Digits with single low lines between them; a low line elsewhere is refused. -/
def decimalDigits (value count : Nat) (rest : List Char) : Option (Nat × Nat × List Char) :=
  match Decimal.spanDigits value count rest with
  | (_, _, '_' :: _) => none
  | found => some found

/-- An imaginary unit behind a number turns it into an imaginary one. -/
def finishFloat (value : Float) (rest : List Char) : Option (Token × List Char) :=
  match rest with
  | 'j' :: after => if numberEnds after then some (.imaginary value, after) else none
  | 'J' :: after => if numberEnds after then some (.imaginary value, after) else none
  | _ => if numberEnds rest then some (.float value, rest) else none

/-- The exponent behind a mantissa, if digits follow its mark. -/
def exponentDigits? (rest : List Char) : Option (Option (Int × List Char)) :=
  match rest with
  | mark :: after =>
    if mark == 'e' || mark == 'E' then
      let (negative, digits) := Decimal.takeSign after
      match digits with
      | c :: _ =>
        if c.isDigit then
          match decimalDigits 0 0 digits with
          | none => none
          | some (value, _, behind) =>
            some (some (if negative then -(Int.ofNat value) else Int.ofNat value, behind))
        else if digits.length < after.length then none else some none
      | [] => if digits.length < after.length then none else some none
    else some none
  | [] => some none

/-- A double from its digits, the number of its places, and what follows them. -/
def lexFraction (digits places : Nat) (rest : List Char) : Option (Token × List Char) :=
  match exponentDigits? rest with
  | none => none
  | some (some (exponent, after)) =>
    finishFloat (Decimal.floatOfDecimal false digits (exponent - Int.ofNat places)) after
  | some none => finishFloat (Decimal.floatOfDecimal false digits (-(Int.ofNat places))) rest

/-- A number that begins with a decimal digit and names no base. -/
def lexDecimal (chars : List Char) : Option (Token × List Char) :=
  match decimalDigits 0 0 chars with
  | none => none
  | some (value, count, rest) =>
    match rest with
    | '.' :: after =>
      match after with
      | c :: _ =>
        if c.isDigit then
          match decimalDigits value 0 after with
          | none => none
          | some (digits, places, behind) => lexFraction digits places behind
        else lexFraction value 0 after
      | [] => lexFraction value 0 after
    | _ =>
      match exponentDigits? rest with
      | none => none
      | some (some _) => lexFraction value 0 rest
      | some none =>
        match rest with
        | 'j' :: _ => lexFraction value 0 rest
        | 'J' :: _ => lexFraction value 0 rest
        | _ =>
          let leadingZero := chars.head? == some '0' && value != 0
          if leadingZero || Decimal.digitLimit < count then none
          else if numberEnds rest then some (.int value, rest) else none

/-- A number in a base other than ten, behind the mark of the base. -/
def lexBase (base : Nat) (digits : List Char) : Option (Token × List Char) :=
  let first :=
    match digits with
    | '_' :: rest => rest
    | rest => rest
  match first with
  | [] => none
  | c :: _ =>
    if (Decimal.digitInBase? base c).isSome then
      let (value, rest) := spanBase base 0 first
      match rest with
      | '_' :: _ => none
      | d :: _ => if d.isDigit || !numberEnds rest then none else some (.int value, rest)
      | [] => some (.int value, rest)
    else none

/-- A number. -/
def lexNumber (chars : List Char) : Option (Token × List Char) :=
  match chars with
  | '0' :: letter :: rest =>
    match Decimal.baseOfLetter? letter with
    | some base => lexBase base rest
    | none => lexDecimal chars
  | '.' :: rest =>
    match decimalDigits 0 0 rest with
    | none => none
    | some (digits, places, behind) => lexFraction digits places behind
  | _ => lexDecimal chars

/-- The inside of a literal up to its closing quotes, behind what is already taken, which stands reversed. -/
def takeLiteral (quote : Char) (long : Bool) (done : List Char) :
    List Char → Option (List Char × List Char)
  | [] => none
  | '\\' :: c :: rest => takeLiteral quote long (c :: '\\' :: done) rest
  | c :: rest =>
    if c == quote then
      if long then
        match rest with
        | a :: b :: after =>
          if a == quote && b == quote then some (done.reverse, after)
          else takeLiteral quote long (c :: done) (a :: b :: after)
        | _ => none
      else some (done.reverse, rest)
    else if c == '\n' && !long then none
    else takeLiteral quote long (c :: done) rest

/-- A literal from its opening quote on. -/
def lexLiteral (kind : LiteralKind) (raw : Bool) (quote : Char) (rest : List Char) :
    Option (Token × List Char) :=
  let (long, inside) :=
    match rest with
    | a :: b :: after => if a == quote && b == quote then (true, after) else (false, rest)
    | _ => (false, rest)
  (takeLiteral quote long [] inside).map fun found => (.literal ⟨kind, raw, found.1⟩, found.2)

/-- What the letters in front of a quote say about the literal. -/
def literalKind? : List Char → Option (LiteralKind × Bool)
  | [] => some (.text, false)
  | ['r'] => some (.text, true)
  | ['u'] => some (.text, false)
  | ['b'] => some (.bytes, false)
  | ['f'] => some (.template, false)
  | ['b', 'r'] => some (.bytes, true)
  | ['r', 'b'] => some (.bytes, true)
  | ['f', 'r'] => some (.template, true)
  | ['r', 'f'] => some (.template, true)
  | _ => none

/-- A word, or a literal with letters in front. -/
def lexWord (chars : List Char) : Option (Token × List Char) :=
  let (word, rest) := takeWhileFrom inWord [] chars
  let plain := if Text.Unicode.isIdentifier word then
      some (Token.ofWord (String.ofList word), rest) else none
  match rest with
  | quote :: inside =>
    if quote == '"' || quote == '\'' then
      match literalKind? (word.map Char.toLower) with
      | some (kind, raw) => lexLiteral kind raw quote inside
      | none => plain
    else plain
  | [] => plain

/-- The symbol in front. -/
def lexSymbol? (chars : List Char) : Option (String × List Char) :=
  (symbols.find? fun text => text.toList.isPrefixOf chars).map fun text =>
    (text, chars.drop text.length)

/-- Adds a number, word, literal or symbol. -/
def Lexer.lexToken (s : Lexer) (chars : List Char) : Option (Lexer × List Char) :=
  match chars with
  | [] => none
  | c :: rest =>
    let digitNext :=
      match rest with
      | d :: _ => d.isDigit
      | [] => false
    if c.isDigit || c == '.' && digitNext then
      (lexNumber chars).map fun found => (s.push found.1, found.2)
    else if opensWord c then (lexWord chars).map fun found => (s.push found.1, found.2)
    else if c == '"' || c == '\'' then
      (lexLiteral .text false c rest).map fun found => (s.push found.1, found.2)
    else
      match lexSymbol? chars with
      | none => none
      | some (text, rest) => (s.pushSymbol text).map fun s => (s, rest)

/-- Ends a line outside brackets; a line without tokens counts for nothing. -/
def Lexer.endLine (s : Lexer) : Lexer :=
  if s.closers.isEmpty then
    { s with
      done := if s.inLine then .newline :: s.done else s.done
      lineStart := true
      inLine := false }
  else s

/-- Ends the text: the last line and all blocks. -/
def Lexer.finish (s : Lexer) : Option (List Token) :=
  if s.closers.isEmpty then
    let ended := s.endLine
    some ((List.replicate (ended.blocks.length - 1) Token.dedent ++ ended.done).reverse)
  else none

/-- Cuts the characters; every round takes at least one of them, so their number suffices as fuel. -/
def Lexer.run : Nat → Lexer → List Char → Option (List Token)
  | 0, s, _ => s.finish
  | fuel + 1, s, chars =>
    if s.lineStart && s.closers.isEmpty then
      let (width, rest) := lineWidth 0 0 chars
      match rest with
      | [] => s.finish
      | '\n' :: after => run fuel s after
      | '#' :: after => run fuel s (after.dropWhile (· != '\n'))
      | _ =>
        match s.beginLine width with
        | none => none
        | some s => run fuel s rest
    else
      match chars with
      | [] => s.finish
      | ' ' :: rest => run fuel s rest
      | '\t' :: rest => run fuel s rest
      | '\x0c' :: rest => run fuel s rest
      | '\n' :: rest => run fuel s.endLine rest
      | '#' :: rest => run fuel s (rest.dropWhile (· != '\n'))
      | ['\\', '\n'] => none
      | '\\' :: '\n' :: rest => run fuel s rest
      | _ =>
        match s.lexToken chars with
        | none => none
        | some (s, rest) => run fuel s rest

/-- Every line break as one character. -/
def plainBreaks (done : List Char) : List Char → List Char
  | [] => done.reverse
  | '\r' :: '\n' :: rest => plainBreaks ('\n' :: done) rest
  | '\r' :: rest => plainBreaks ('\n' :: done) rest
  | c :: rest => plainBreaks (c :: done) rest

/-- The tokens of a text, if every part of it is one. -/
def lex (chars : List Char) : Option (List Token) :=
  let plain := plainBreaks [] chars
  let closed := if plain.getLast? == some '\n' then plain else plain ++ ['\n']
  Lexer.run (2 * closed.length + 2) Lexer.start closed

end WorkflowEngine.Expression
