import WorkflowEngine.Decimal.Numeral
import WorkflowEngine.Pattern.Tree
import WorkflowEngine.Text.Quoted
import WorkflowEngine.Text.Unicode.Alphanumeric
import WorkflowEngine.Text.Unicode.Identifier

/-!
# Reading patterns

A pattern is read token by token, where a backslash and the character behind it are one token.  The
reader keeps which groups there are, how wide each of them is, and the options that hold for the whole
pattern.  A pattern that is not well formed is refused with a message and a position.
-/

namespace WorkflowEngine.Pattern

/-- Why a pattern cannot be used. -/
inductive Problem where
  /-- It is not well formed at a position. -/
  | refused (message : String) (position : Nat)
  /-- It asks for something that cannot be done. -/
  | unusable (message : String)
  /-- A count of repetitions is too large. -/
  | overflow
  /-- Options that exclude each other are set for the whole pattern. -/
  | incompatible
deriving Repr, DecidableEq, Inhabited

/-- A token of a pattern. -/
inductive Token where
  | char (c : Char)
  | escape (c : Char)
deriving Repr, DecidableEq, Inhabited

namespace Token

/-- The characters of a token. -/
def chars : Token → List Char
  | .char c => [c]
  | .escape c => ['\\', c]

/-- The number of characters of a token. -/
def length : Token → Nat
  | .char _ => 1
  | .escape _ => 2

/-- The token is a letter. -/
def isLetter : Token → Bool
  | .char c => Text.Unicode.isAlphanumeric c && !Text.Unicode.isDigit c
  | .escape _ => false

end Token

/-- What is still to be read, where it stands, and what has been found so far. -/
structure Reading where
  rest : List Char
  position : Nat
  options : Options
  names : List (String × Nat)
  widths : List (Option Width)
  lookGroups : Option Nat
  conditions : List (Nat × Nat)
deriving Inhabited

/-- A step of the reader. -/
abbrev Reader (α : Type) : Type := StateT Reading (Except Problem) α

namespace Reader

/-- Refuses the pattern so many characters before the next token. -/
def refuse {α : Type} (message : String) (back : Nat) : Reader α := do
  throw (.refused message ((← get).position - back))

/-- The next token. -/
def peek : Reader (Option Token) := do
  match (← get).rest with
  | [] => return none
  | '\\' :: c :: _ => return some (.escape c)
  | c :: _ => return some (.char c)

/-- Goes on from characters at a position; a backslash may not stand alone at the end. -/
def moveTo (rest : List Char) (position : Nat) : Reader Unit := do
  match rest with
  | ['\\'] => throw (.refused "bad escape (end of pattern)" position)
  | rest => modify fun r => { r with rest := rest, position := position }

/-- Takes the next token. -/
def take : Reader (Option Token) := do
  let token ← peek
  match token with
  | none => return none
  | some t =>
    let r ← get
    moveTo (r.rest.drop t.length) (r.position + t.length)
    return some t

/-- Takes a character if it comes next. -/
def skip (c : Char) : Reader Bool := do
  if (← peek) == some (.char c) then
    let _ ← take
    return true
  else return false

/-- Takes at most so many characters of a class. -/
def takeWhile (fits : Char → Bool) : Nat → List Char → Reader (List Char)
  | 0, done => pure done.reverse
  | n + 1, done => do
    match ← peek with
    | some (.char c) =>
      if fits c then
        let _ ← take
        takeWhile fits n (c :: done)
      else return done.reverse
    | _ => return done.reverse

/-- Takes a name up to its end mark. -/
def takeName (close : Char) (what : String) : Nat → List Char → Reader (List Char)
  | 0, done => pure done.reverse
  | fuel + 1, done => do
    match ← take with
    | none =>
      if done.isEmpty then refuse ("missing " ++ what) 0
      else
        refuse ("missing " ++ String.singleton close ++ ", unterminated name") done.length
    | some (.char c) =>
      if c == close then
        if done.isEmpty then refuse ("missing " ++ what) 1 else return done.reverse
      else takeName close what fuel (c :: done)
    | some (.escape c) => takeName close what fuel (c :: '\\' :: done)

/-- Takes a whole name; there cannot be more tokens than characters left. -/
def name (close : Char) (what : String) : Reader (List Char) := do
  takeName close what ((← get).rest.length + 1) []

/-- Refuses what is no name of a group. -/
def checkName (chars : List Char) : Reader Unit := do
  if !Text.Unicode.isIdentifier chars then
    refuse ("bad character in group name " ++ Text.quoted (String.ofList chars)) (chars.length + 1)

/-- The group is there and has been closed. -/
def isClosed (group : Nat) : Reader Bool := do
  return (((← get).widths[group]?).getD none).isSome

/-- Refuses a group that cannot be referred to from within a look behind. -/
def checkLook (group : Nat) : Reader Unit := do
  match (← get).lookGroups with
  | none => pure ()
  | some first =>
    if !(← isClosed group) then refuse "cannot refer to an open group" 0
    if first ≤ group then refuse "cannot refer to group defined in the same lookbehind subpattern" 0

/-- A digit in base eight. -/
def isOctal (c : Char) : Bool := '0' ≤ c && c ≤ '7'

/-- A digit in base sixteen. -/
def isHex (c : Char) : Bool := (Decimal.digitInBase? 16 c).isSome

/-- The number that digits spell. -/
def valueIn (base : Nat) (digits : List Char) : Nat :=
  digits.foldl (fun value c => value * base + (Decimal.digitInBase? base c).getD 0) 0

/-- A plain letter. -/
def isPlainLetter (c : Char) : Bool := c.isAlpha

/-- The code of an escaped character that has a letter of its own. -/
def letterCode? : Char → Option Nat
  | 'a' => some 7
  | 'b' => some 8
  | 'f' => some 12
  | 'n' => some 10
  | 'r' => some 13
  | 't' => some 9
  | 'v' => some 11
  | '\\' => some 92
  | _ => none

/-- The class that an escaped letter names. -/
def classOf? : Char → Option Member
  | 'd' => some (.ofClass .digit false)
  | 'D' => some (.ofClass .digit true)
  | 's' => some (.ofClass .space false)
  | 'S' => some (.ofClass .space true)
  | 'w' => some (.ofClass .word false)
  | 'W' => some (.ofClass .word true)
  | _ => none

/-- The place that an escaped letter names. -/
def anchorOf? : Char → Option Anchor
  | 'A' => some .textStart
  | 'b' => some .boundary
  | 'B' => some .noBoundary
  | 'Z' => some .textEnd
  | _ => none

/-- Refuses an escape, whose token and digits have been taken. -/
def refuseEscape {α : Type} (message : String) (chars : List Char) : Reader α :=
  refuse (message ++ String.ofList chars) chars.length

/-- The code of an escape with a fixed number of digits in base sixteen. -/
def hexCode (c : Char) (count : Nat) : Reader Nat := do
  let digits ← takeWhile isHex count []
  let chars := '\\' :: c :: digits
  if digits.length < count then refuseEscape "incomplete escape " chars
  else
    let code := valueIn 16 digits
    if 0x110000 ≤ code then refuseEscape "bad escape " chars else return code

/-- Refuses a character by its name: none is known. -/
def namedCode : Reader Nat := do
  if !(← skip '\x7b') then refuse "missing \x7b" 0
  else
    let chars ← name '\x7d' "character name"
    refuse ("undefined character name " ++ Text.quoted (String.ofList chars)) (chars.length + 4)

/-- The code of a numeric escape, if the letter opens one. -/
def numericCode? (c : Char) : Reader (Option Nat) := do
  if c == 'x' then return some (← hexCode c 2)
  else if c == 'u' then return some (← hexCode c 4)
  else if c == 'U' then return some (← hexCode c 8)
  else if c == 'N' then return some (← namedCode)
  else return none

/-- The code of an octal escape, which may not exceed one byte. -/
def octalCode (digits : List Char) : Reader Nat := do
  let code := valueIn 8 digits
  if 0o377 < code then
    refuse ("octal escape value \\" ++ String.ofList digits ++ " outside of range 0-0o377")
      (digits.length + 1)
  else return code

/-- An escape inside a set of characters. -/
def setEscape (c : Char) : Reader Member := do
  match letterCode? c, classOf? c with
  | some code, _ => return .single code
  | none, some member => return member
  | none, none =>
    match ← numericCode? c with
    | some code => return .single code
    | none =>
      if isOctal c then return .single (← octalCode (c :: (← takeWhile isOctal 2 [])))
      else if c.isDigit || isPlainLetter c then refuseEscape "bad escape " ['\\', c]
      else return .single (Text.codeOfChar c)

/-- An escape that opens with a digit other than zero: an octal code or a reference to a group. -/
def digitEscape (c : Char) : Reader Item := do
  let second ← takeWhile Char.isDigit 1 []
  let third ←
    if isOctal c && second.any isOctal then takeWhile isOctal 1 [] else pure []
  let digits := c :: (second ++ third)
  if !third.isEmpty then return .single (← octalCode digits)
  else
    let group := valueIn 10 digits
    if group < (← get).widths.length then
      if !(← isClosed group) then refuse "cannot refer to an open group" (digits.length + 1)
      else
        checkLook group
        return .reference group
    else refuse ("invalid group reference " ++ toString group) digits.length

/-- An escape outside of sets. -/
def escape (c : Char) : Reader Item := do
  match anchorOf? c, classOf? c, letterCode? c with
  | some a, _, _ => return .anchor a
  | _, some member, _ => return .set false [member]
  | _, _, some code => return .single code
  | none, none, none =>
    match ← numericCode? c with
    | some code => return .single code
    | none =>
      if c == '0' then return .single (valueIn 8 (← takeWhile isOctal 2 []))
      else if c.isDigit then digitEscape c
      else if isPlainLetter c then refuseEscape "bad escape " ['\\', c]
      else return .single (Text.codeOfChar c)

/-- A member of a set from the token that opens it. -/
def setMember (t : Token) : Reader Member :=
  match t with
  | .escape c => setEscape c
  | .char c => pure (.single (Text.codeOfChar c))

/-- Reads the members of a set up to its closing bracket; `start` is the position of the opening one. -/
def setMembers (start : Nat) : Nat → List Member → Reader (List Member)
  | 0, done => pure done.reverse
  | fuel + 1, done => do
    match ← take with
    | none => throw (.refused "unterminated character set" start)
    | some first =>
      if first == .char ']' && !done.isEmpty then return done.reverse
      else
        let low ← setMember first
        if ← skip '-' then
          match ← take with
          | none => throw (.refused "unterminated character set" start)
          | some second =>
            if second == .char ']' then return (.single 45 :: low :: done).reverse
            else
              let high ← setMember second
              let wrong : Reader (List Member) :=
                refuse ("bad character range " ++ String.ofList (first.chars ++ '-' :: second.chars))
                  (first.length + 1 + second.length)
              match low, high with
              | .single a, .single b =>
                if b < a then wrong else setMembers start fuel (.range a b :: done)
              | _, _ => wrong
        else setMembers start fuel (low :: done)

/-- A set of characters behind its opening bracket. -/
def set : Reader Item := do
  let r ← get
  let negated ← skip '^'
  let members ← setMembers (r.position - 1) (r.rest.length + 1) []
  match members with
  | [.single code] => return if negated then .notSingle code else .single code
  | members => return .set negated members

/-- A count of repetitions in braces, behind the opening brace; none if the brace stands for itself. -/
def braces : Reader (Option (Nat × Option Nat)) := do
  let start ← get
  if (← peek) == some (.char '\x7d') then return none
  else
    let low ← takeWhile Char.isDigit (start.rest.length + 1) []
    let high ←
      if ← skip ',' then takeWhile Char.isDigit (start.rest.length + 1) [] else pure low
    if !(← skip '\x7d') then
      moveTo start.rest start.position
      return none
    else
      let least := valueIn 10 low
      let most := valueIn 10 high
      if (!low.isEmpty && repeatLimit ≤ least) || (!high.isEmpty && repeatLimit ≤ most) then throw .overflow
      else if !high.isEmpty && most < least then
        throw (.refused "min repeat greater than max repeat" start.position)
      else return some (least, if high.isEmpty then none else some most)

/-- The counts of a repetition mark. -/
def counts (c : Char) : Reader (Option (Nat × Option Nat)) :=
  if c == '?' then pure (some (0, some 1))
  else if c == '*' then pure (some (0, none))
  else if c == '+' then pure (some (1, none))
  else braces

/-- Repeats the last of the items, which stand reversed; `start` is the position of the mark. -/
def repeatLast (start : Nat) (count : Nat × Option Nat) (items : List Item) : Reader (List Item) := do
  match items with
  | [] => throw (.refused "nothing to repeat" start)
  | last :: before =>
    if last.isAnchor then throw (.refused "nothing to repeat" start)
    else if last.isRepeated then throw (.refused "multiple repeat" start)
    else
      let body :=
        match last with
        | .group none added removed body =>
          if added == .none && removed == .none then body else [last]
        | last => [last]
      let greed : Greed ← do
        if ← skip '?' then pure .lazy
        else if ← skip '+' then pure .possessive
        else pure .greedy
      return .repeated greed count.1 count.2 body :: before

/-- The option that a letter names. -/
def optionOf? : Char → Option Options
  | 'i' => some { Options.none with ignoreCase := true }
  | 'L' => some { Options.none with locale := true }
  | 'm' => some { Options.none with multiline := true }
  | 's' => some { Options.none with dotAll := true }
  | 'x' => some { Options.none with verbose := true }
  | 'a' => some { Options.none with ascii := true }
  | 't' => some { Options.none with template := true }
  | 'u' => some { Options.none with unicode := true }
  | _ => none

/-- More than one choice of characters is named. -/
def isMixed (o : Options) : Bool :=
  (o.ascii && o.unicode) || (o.ascii && o.locale) || (o.unicode && o.locale)

/-- The options that are added, from a letter on, and the mark behind them. -/
def addedOptions : Nat → Options → Char → Reader (Options × Char)
  | 0, added, c => pure (added, c)
  | fuel + 1, added, c => do
    let option := (optionOf? c).getD .none
    if c == 'L' then refuse "bad inline flags: cannot use 'L' flag with a str pattern" 0
    else
      let added := added.union option
      if option.typed && isMixed added then
        refuse "bad inline flags: flags 'a', 'u' and 'L' are incompatible" 0
      else
        match ← take with
        | none => refuse "missing -, : or )" 0
        | some (.char c) =>
          if c == ')' || c == '-' || c == ':' then return (added, c)
          else if (optionOf? c).isSome then addedOptions fuel added c
          else refuse (if (Token.char c).isLetter then "unknown flag" else "missing -, : or )") 1
        | some (.escape _) => refuse "missing -, : or )" 2

/-- The options that are removed, from a letter on, up to the colon. -/
def removedOptions : Nat → Options → Char → Reader Options
  | 0, removed, _ => pure removed
  | fuel + 1, removed, c => do
    let option := (optionOf? c).getD .none
    if option.typed then refuse "bad inline flags: cannot turn off flags 'a', 'u' and 'L'" 0
    else
      let removed := removed.union option
      match ← take with
      | none => refuse "missing :" 0
      | some (.char c) =>
        if c == ':' then return removed
        else if (optionOf? c).isSome then removedOptions fuel removed c
        else refuse (if (Token.char c).isLetter then "unknown flag" else "missing :") 1
      | some (.escape _) => refuse "missing :" 2

/-- Options in a group: none if they hold for the whole pattern, and else those added and removed. -/
def inlineOptions (c : Char) : Reader (Option (Options × Options)) := do
  let fuel := (← get).rest.length + 1
  let (added, mark) ← if c == '-' then pure (Options.none, c) else addedOptions fuel .none c
  if mark == ')' then
    modify fun r => { r with options := r.options.union added }
    return none
  else if added.template then refuse "bad inline flags: cannot turn on global flag" 1
  else
    let removed ←
      if mark == '-' then
        match ← take with
        | none => refuse "missing flag" 0
        | some (.char c) =>
          if (optionOf? c).isSome then removedOptions fuel .none c
          else refuse (if (Token.char c).isLetter then "unknown flag" else "missing flag") 1
        | some (.escape _) => refuse "missing flag" 2
      else pure Options.none
    if removed.template then refuse "bad inline flags: cannot turn off global flag" 1
    else if added.meets removed then refuse "bad inline flags: flag turned on and off" 1
    else return some (added, removed)

/-- Opens a group that is kept, with its name if it has one. -/
def openGroup (groupName : Option (List Char)) : Reader Nat := do
  let r ← get
  let number := r.widths.length
  match groupName with
  | none =>
    modify fun r => { r with widths := r.widths ++ [none] }
    return number
  | some chars =>
    let word := String.ofList chars
    match r.names.lookup word with
    | some other =>
      refuse ("redefinition of group name " ++ Text.quoted word ++ " as group " ++ toString number ++
        "; was group " ++ toString other) (chars.length + 1)
    | none =>
      modify fun r => { r with widths := r.widths ++ [none], names := (word, number) :: r.names }
      return number

/-- Closes a group. -/
def closeGroup (number : Nat) (body : List Item) : Reader Unit :=
  modify fun r => { r with widths := r.widths.set number (some (width r.widths body)) }

/-- What a group is, from the marks behind its opening bracket. -/
inductive Opening where
  | comment
  | reference (group : Nat)
  | look (behind negated : Bool)
  | condition (group : Nat)
  | global
  | plain (kept : Option (Option (List Char))) (atomic : Bool) (added removed : Options)
deriving Inhabited

/-- Passes over a comment; `start` is the position of its opening bracket. -/
def comment (start : Nat) : Nat → Reader Unit
  | 0 => pure ()
  | fuel + 1 => do
    match ← take with
    | none => throw (.refused "missing ), unterminated comment" start)
    | some (.char ')') => pure ()
    | some _ => comment start fuel

/-- A name or a reference to a name. -/
def namedOpening : Reader Opening := do
  if ← skip '<' then
    let chars ← name '>' "group name"
    checkName chars
    return .plain (some (some chars)) false .none .none
  else if ← skip '=' then
    let chars ← name ')' "group name"
    checkName chars
    match (← get).names.lookup (String.ofList chars) with
    | none => refuse ("unknown group name " ++ Text.quoted (String.ofList chars)) (chars.length + 1)
    | some group =>
      if !(← isClosed group) then refuse "cannot refer to an open group" (chars.length + 1)
      else
        checkLook group
        return .reference group
  else
    match ← take with
    | none => refuse "unexpected end of pattern" 0
    | some t => refuse ("unknown extension ?P" ++ String.ofList t.chars) (t.length + 2)

/-- The largest number of a group. -/
def groupLimit : Nat := 1073741823

/-- The group that a condition asks for, by its number or name. -/
def conditionGroup : Reader Nat := do
  let chars ← name ')' "group name"
  let word := String.ofList chars
  let back := chars.length + 1
  if Text.Unicode.isIdentifier chars then
    match (← get).names.lookup word with
    | none => refuse ("unknown group name " ++ Text.quoted word) back
    | some group => return group
  else
    match Decimal.readInt? 10 word with
    | some (.ofNat group) =>
      if group == 0 then refuse "bad group number" back
      else if groupLimit ≤ group then refuse ("invalid group reference " ++ toString group) back
      else
        modify fun r =>
          if (r.conditions.lookup group).isSome then r
          else { r with conditions := r.conditions ++ [(group, r.position - back)] }
        return group
    | _ => refuse ("bad character in group name " ++ Text.quoted word) back

/-- Reads the marks behind an opening bracket and a question mark. -/
def extension (start : Nat) : Reader Opening := do
  match ← take with
  | none => refuse "unexpected end of pattern" 0
  | some (.escape c) => refuse ("unknown extension ?" ++ String.ofList ['\\', c]) 3
  | some (.char c) =>
    if c == 'P' then namedOpening
    else if c == ':' then return .plain none false .none .none
    else if c == '#' then
      comment start ((← get).rest.length + 1)
      return .comment
    else if c == '=' then return .look false false
    else if c == '!' then return .look false true
    else if c == '<' then
      match ← take with
      | none => refuse "unexpected end of pattern" 0
      | some (.char '=') => return .look true false
      | some (.char '!') => return .look true true
      | some t => refuse ("unknown extension ?<" ++ String.ofList t.chars) (t.length + 2)
    else if c == '(' then
      let group ← conditionGroup
      checkLook group
      return .condition group
    else if c == '>' then return .plain none true .none .none
    else if (optionOf? c).isSome || c == '-' then
      match ← inlineOptions c with
      | none => return .global
      | some (added, removed) => return .plain none false added removed
    else refuse ("unknown extension ?" ++ String.singleton c) 2

/-- Requires the closing bracket of a group that opens at a position. -/
def close (start : Nat) : Reader Unit := do
  if !(← skip ')') then throw (.refused "missing ), unterminated subpattern" start)

/-- Puts the items of plain groups in place of them. -/
def unpack (items : List Item) : List Item :=
  items.flatMap fun item =>
    match item with
    | .group none added removed body => if added == .none && removed == .none then body else [item]
    | item => [item]

/-- A blank or a comment that is passed over in a verbose pattern. -/
def isPassedOver (c : Char) : Bool :=
  c == ' ' || c == '\t' || c == '\n' || c == '\r' || c.toNat == 11 || c.toNat == 12

/-- Passes over the rest of a line. -/
def line : Nat → Reader Unit
  | 0 => pure ()
  | fuel + 1 => do
    match ← take with
    | none => pure ()
    | some (.char '\n') => pure ()
    | some _ => line fuel

/-- Alternatives that fit one character each are one set. -/
def membersOf? : List Item → Option (List Member)
  | [.single code] => some [.single code]
  | [.set false members] => some members
  | _ => none

/-- A sequence that fits one of the alternatives. -/
def branchOf (alternatives : List (List Item)) : List Item :=
  match alternatives with
  | [items] => items
  | alternatives =>
    match alternatives.mapM membersOf? with
    | some members => [.set false members.flatten]
    | none => [.branch alternatives]

mutual

/-- Reads alternatives; `outermost` tells that no group is around them. -/
def alternatives : Nat → Bool → Bool → Reader (List Item)
  | 0, _, _ => pure []
  | fuel + 1, verbose, outermost => do
    let first ← sequence fuel verbose outermost []
    let rest ← others fuel verbose outermost []
    return branchOf (first :: rest)

/-- Reads further alternatives. -/
def others : Nat → Bool → Bool → List (List Item) → Reader (List (List Item))
  | 0, _, _, done => pure done.reverse
  | fuel + 1, verbose, outermost, done => do
    if ← skip '|' then
      let r ← get
      let verbose := if outermost then r.options.verbose else verbose
      let items ← sequence fuel verbose false []
      others fuel verbose outermost (items :: done)
    else return done.reverse

/-- Reads items behind those already read, which stand reversed. -/
def sequence : Nat → Bool → Bool → List Item → Reader (List Item)
  | 0, _, _, done => pure (unpack done.reverse)
  | fuel + 1, verbose, first, done => do
    match ← peek with
    | none => return unpack done.reverse
    | some (.escape c) =>
      let _ ← take
      let item ← escape c
      sequence fuel verbose first (item :: done)
    | some (.char c) =>
      if c == '|' || c == ')' then return unpack done.reverse
      else
        let start := (← get).position
        let _ ← take
        if verbose && isPassedOver c then sequence fuel verbose first done
        else if verbose && c == '#' then
          line ((← get).rest.length + 1)
          sequence fuel verbose first done
        else if c == '[' then
          let item ← set
          sequence fuel verbose first (item :: done)
        else if c == '*' || c == '+' || c == '?' || c == '\x7b' then
          match ← counts c with
          | none => sequence fuel verbose first (.single c.toNat :: done)
          | some count =>
            let done ← repeatLast start count done
            sequence fuel verbose first done
        else if c == '.' then sequence fuel verbose first (.any :: done)
        else if c == '^' then sequence fuel verbose first (.anchor .lineStart :: done)
        else if c == '$' then sequence fuel verbose first (.anchor .lineEnd :: done)
        else if c == '(' then
          let opening ← if ← skip '?' then extension start else pure (.plain (some none) false .none .none)
          match opening with
          | .comment => sequence fuel verbose first done
          | .reference group => sequence fuel verbose first (.reference group :: done)
          | .global =>
            if !first || !done.isEmpty then
              throw (.refused "global flags not at the start of the expression" start)
            else
              let verbose := (← get).options.verbose
              sequence fuel verbose first done
          | .look behind negated =>
            let outside := (← get).lookGroups
            if behind && outside.isNone then
              modify fun r => { r with lookGroups := some r.widths.length }
            let body ← alternatives fuel verbose false
            if behind && outside.isNone then modify fun r => { r with lookGroups := none }
            close start
            let item := if negated && body.isEmpty then Item.fail else .look behind negated body
            sequence fuel verbose first (item :: done)
          | .condition group =>
            let positive ← sequence fuel verbose false []
            let negative ←
              if ← skip '|' then
                let items ← sequence fuel verbose false []
                if (← peek) == some (.char '|') then
                  refuse "conditional backref with more than two branches" 0
                pure (some items)
              else pure none
            close start
            sequence fuel verbose first (.choice group positive negative :: done)
          | .plain kept atomic added removed =>
            let number ←
              match kept with
              | none => pure none
              | some groupName => do pure (some (← openGroup groupName))
            let inside := (verbose || added.verbose) && !removed.verbose
            let body ← alternatives fuel inside false
            close start
            match number with
            | none => pure ()
            | some n => closeGroup n body
            let item := if atomic then Item.atomic body else .group number added removed body
            sequence fuel verbose first (item :: done)
        else sequence fuel verbose first (.single (Text.codeOfChar c) :: done)

end

end Reader

/-- A pattern that has been read: its items, the options for all of it, and the widths of its groups. -/
structure Parsed where
  items : List Item
  options : Options
  widths : List (Option Width)
deriving Inhabited

/-- Reads a whole pattern. -/
def readWhole (fuel : Nat) : Reader Parsed := do
  let start ← get
  Reader.moveTo start.rest start.position
  let items ← Reader.alternatives fuel start.options.verbose true
  let done ← get
  if done.options.ascii && done.options.unicode then throw .incompatible
  else if (← Reader.peek).isSome then Reader.refuse "unbalanced parenthesis" 0
  else
    match done.conditions.find? fun entry => done.widths.length ≤ entry.1 with
    | some (group, position) =>
      throw (.refused ("invalid group reference " ++ toString group) position)
    | none => return ⟨items, done.options, done.widths⟩

/-- Reads the characters of a pattern with options set from outside. -/
def parse (options : Options) (chars : List Char) : Except Problem Parsed :=
  match (readWhole (4 * chars.length + 8)).run ⟨chars, 0, options, [], [none], none, []⟩ with
  | .ok (parsed, _) => .ok parsed
  | .error p => .error p

end WorkflowEngine.Pattern
