import WorkflowEngine.Expression.Escape

/-!
# The inside of templates

A template is literal text with holes in braces.  A hole holds an expression, an optional conversion
and an optional layout, which may have holes itself.  Outside layouts a doubled brace is a literal one.
-/

namespace WorkflowEngine.Expression

/-- A part of a template; the text of an expression may be echoed in front of its value. -/
inductive Piece where
  | text (chars : List Char)
  | hole (expression : List Char) (layout : Option (List Piece))
deriving Inhabited

/-- The quotes around the place of a scan, or none. -/
inductive Quoting where
  | none
  | short (quote : Char)
  | long (quote : Char)
deriving DecidableEq

/-- The characters that may end the expression of a hole. -/
def endsHole (c : Char) : Bool :=
  c == '!' || c == ':' || c == '\x7d' || c == '=' || c == '<' || c == '>'

/-- The signs that a comparison makes of two characters. -/
def isComparisonSign (c next : Char) : Bool :=
  next == '=' && (c == '!' || c == '=' || c == '<' || c == '>')

/-- The bracket that a closing one closes. -/
def openerOf? : Char → Option Char
  | ')' => some '('
  | ']' => some '['
  | '\x7d' => some '\x7b'
  | _ => none

/-- The text of a hole's expression, and the rest from the character that ends it. -/
def scanHole : Nat → Quoting → List Char → List Char → List Char → Option (List Char × List Char)
  | 0, _, _, _, _ => none
  | _ + 1, _, _, _, [] => none
  | fuel + 1, quoting, openers, done, c :: rest =>
    if c == '\\' then none
    else
      match quoting with
      | .short quote =>
        scanHole fuel (if c == quote then .none else quoting) openers (c :: done) rest
      | .long quote =>
        match rest with
        | a :: b :: after =>
          if c == quote && a == quote && b == quote then
            scanHole fuel .none openers (b :: a :: c :: done) after
          else scanHole fuel quoting openers (c :: done) rest
        | _ => scanHole fuel quoting openers (c :: done) rest
      | .none =>
        if c == '\'' || c == '"' then
          match rest with
          | a :: b :: after =>
            if a == c && b == c then scanHole fuel (.long c) openers (b :: a :: c :: done) after
            else scanHole fuel (.short c) openers (c :: done) rest
          | _ => scanHole fuel (.short c) openers (c :: done) rest
        else if c == '(' || c == '[' || c == '\x7b' then
          if 200 ≤ openers.length then none
          else scanHole fuel .none (c :: openers) (c :: done) rest
        else if c == '#' then none
        else if openers.isEmpty && endsHole c then
          match rest with
          | next :: after =>
            if isComparisonSign c next then scanHole fuel .none openers (next :: c :: done) after
            else if c == '<' || c == '>' then scanHole fuel .none openers (c :: done) rest
            else some (done.reverse, c :: rest)
          | [] => if c == '<' || c == '>' then none else some (done.reverse, [c])
        else
          match openerOf? c with
          | some opener =>
            match openers with
            | last :: others =>
              if last == opener then scanHole fuel .none others (c :: done) rest else none
            | [] => none
          | none => scanHole fuel .none openers (c :: done) rest

/-- The blanks that an expression may consist of without being one. -/
def isHoleBlank (c : Char) : Bool :=
  c == ' ' || c == '\t' || c == '\n' || c == '\x0c'

/-- The blanks that may stand behind the sign that echoes an expression. -/
def isEchoBlank (c : Char) : Bool :=
  c == ' ' || (9 ≤ c.toNat && c.toNat ≤ 13)

/-- Drops a conversion. -/
def dropConversion : List Char → Option (List Char)
  | '!' :: c :: rest => if c == 's' || c == 'r' || c == 'a' then some rest else none
  | ['!'] => none
  | rest => some rest

/-- Joins literal text to the text in front of it. -/
def Piece.pushText (chars : List Char) : List Piece → List Piece
  | .text before :: rest => .text (before ++ chars) :: rest
  | pieces => if chars.isEmpty then pieces else .text chars :: pieces

/-- Literal text up to a brace: the text, whether it ended in a doubled brace, and the rest. -/
def scanText (raw nested : Bool) (done : List Char) : List Char → Option (List Char × Bool × List Char)
  | [] => some (done.reverse, false, [])
  | c :: rest =>
    if c == '\x7b' || c == '\x7d' then
      if nested then some (done.reverse, false, c :: rest)
      else
        match rest with
        | next :: after =>
          if next == c then some ((c :: done).reverse, true, after)
          else if c == '\x7d' then none else some (done.reverse, false, c :: rest)
        | [] => if c == '\x7d' then none else some (done.reverse, false, [c])
    else if c == '\\' && !raw then
      match rest with
      | next :: after =>
        if next == 'N' then none
        else if next == '\x7b' || next == '\x7d' then scanText raw nested (c :: done) (next :: after)
        else scanText raw nested (next :: c :: done) after
      | [] => some ((c :: done).reverse, false, [])
    else scanText raw nested (c :: done) rest

/-- The parts of a template up to its end or, inside a layout, up to the brace that ends the hole. -/
def scanPieces (raw : Bool) : Nat → Nat → List Piece → List Char → Option (List Piece × List Char)
  | 0, _, _, _ => none
  | fuel + 1, level, done, chars => do
    let (literal, doubled, rest) ← scanText raw (0 < level) [] chars
    let text ← textOfLiteral raw literal
    let done := Piece.pushText text done
    if doubled then scanPieces raw fuel level done rest
    else
      match rest with
      | '\x7b' :: inside =>
        if 2 ≤ level then none
        let (expression, rest) ← scanHole (inside.length + 1) .none [] [] inside
        if expression.all isHoleBlank then none
        let (echo, rest) :=
          match rest with
          | '=' :: after => (expression ++ '=' :: after.takeWhile isEchoBlank, after.dropWhile isEchoBlank)
          | _ => ([], rest)
        let rest ← dropConversion rest
        let (layout, rest) ←
          match rest with
          | ':' :: after => do
            let (pieces, rest) ← scanPieces raw fuel (level + 1) [] after
            pure (some pieces, rest)
          | _ => pure (none, rest)
        match rest with
        | '\x7d' :: after =>
          scanPieces raw fuel level (.hole expression layout :: Piece.pushText echo done) after
        | _ => none
      | _ => some (done.reverse, rest)

/-- The parts of a whole template. -/
def templatePieces (raw : Bool) (body : List Char) : Option (List Piece) :=
  match scanPieces raw (2 * body.length + 2) 0 [] body with
  | some (pieces, []) => some pieces
  | _ => none

end WorkflowEngine.Expression
