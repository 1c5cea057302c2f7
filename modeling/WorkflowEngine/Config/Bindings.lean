import WorkflowEngine.Config.Basic
import WorkflowEngine.Reading.Container

/-!
# Files of bindings

A file binds names to texts, one binding to a line.  A text may stand between quotes, where it may run
over several lines and some characters may be escaped; without quotes it ends before a comment.  A line
that is no binding is passed over.  A name in braces after a dollar sign stands for what it is bound to.
-/

namespace WorkflowEngine.Bindings

/-- A name, and the text it is bound to, if there is one. -/
abbrev Binding := String × Option String

/-- A blank that does not end a line. -/
def isInnerBlank (c : Char) : Bool :=
  Text.Unicode.isBlank c && c != '\n'

/-- The characters without the blanks of the line in front. -/
def dropInner (chars : List Char) : List Char :=
  chars.dropWhile isInnerBlank

/-- The characters behind the end of the line. -/
def dropLine (chars : List Char) : List Char :=
  (chars.dropWhile (· != '\n')).drop 1

/-- The ends of lines in one form. -/
def plainLines (done : List Char) : List Char → List Char
  | [] => done.reverse
  | '\r' :: '\n' :: rest => plainLines ('\n' :: done) rest
  | '\r' :: rest => plainLines ('\n' :: done) rest
  | c :: rest => plainLines (c :: done) rest

/-- The characters behind a first part. -/
def dropPart? : List Char → List Char → Option (List Char)
  | [], rest => some rest
  | p :: ps, c :: rest => if p == c then dropPart? ps rest else none
  | _ :: _, [] => none

/-- The characters behind a word that hands bindings on to others. -/
def dropExport (chars : List Char) : List Char :=
  match dropPart? "export".toList chars with
  | some (c :: rest) => if isInnerBlank c then dropInner rest else chars
  | _ => chars

/-- The text up to the closing quote, and the rest.  A quote behind a backslash closes the text only
where no other quote does; `spare` is where the text closes then. -/
def takeQuoted (quote : Char) (done : List Char) (spare : Option (List Char × List Char)) :
    List Char → Option (List Char × List Char)
  | [] => spare
  | '\\' :: c :: rest =>
    if c == quote then takeQuoted quote (c :: '\\' :: done) (some (('\\' :: done).reverse, rest)) rest
    else takeQuoted quote ('\\' :: done) spare (c :: rest)
  | c :: rest => if c == quote then some (done.reverse, rest) else takeQuoted quote (c :: done) spare rest

/-- The character that an escape between double quotes stands for. -/
def doubleEscape? : Char → Option Char
  | '\\' => some '\\'
  | '\'' => some '\''
  | '"' => some '"'
  | 'a' => some (Char.ofNat 7)
  | 'b' => some (Char.ofNat 8)
  | 'f' => some (Char.ofNat 12)
  | 'n' => some '\n'
  | 'r' => some '\r'
  | 't' => some '\t'
  | 'v' => some (Char.ofNat 11)
  | _ => none

/-- The character that an escape between single quotes stands for. -/
def singleEscape? : Char → Option Char
  | '\\' => some '\\'
  | '\'' => some '\''
  | _ => none

/-- The text with its escapes replaced. -/
def unescape (escape? : Char → Option Char) (done : List Char) : List Char → List Char
  | [] => done.reverse
  | '\\' :: c :: rest =>
    match escape? c with
    | some meant => unescape escape? (meant :: done) rest
    | none => unescape escape? ('\\' :: done) (c :: rest)
  | c :: rest => unescape escape? (c :: done) rest

/-- The text up to blanks in front of a comment. -/
def dropComment (done : List Char) : List Char → List Char
  | [] => done.reverse
  | c :: rest =>
    if Text.Unicode.isBlank c && (Text.dropBlanks rest).head? == some '#' then done.reverse
    else dropComment (c :: done) rest

/-- The text of a line without quotes. -/
def plainText (line : List Char) : List Char :=
  (Text.dropBlanks (dropComment [] line).reverse).reverse

/-- What reading a part comes to: the part and the rest, or where reading ends. -/
abbrev Part (α : Type) := Except (List Char) (α × List Char)

/-- Takes a name; a comment has none. -/
def takeName (chars : List Char) : Part (Option String) :=
  match chars with
  | '#' :: _ => .ok (none, chars)
  | '\'' :: rest =>
    let name := rest.takeWhile (· != '\'')
    match rest.drop name.length with
    | _ :: rest => if name.isEmpty then .error chars else .ok (some (String.ofList name), rest)
    | [] => .error chars
  | chars =>
    let name := chars.takeWhile fun c => c != '=' && c != '#' && !Text.Unicode.isBlank c
    if name.isEmpty then .error chars else .ok (some (String.ofList name), chars.drop name.length)

/-- Takes a text between quotes. -/
def takeBetween (quote : Char) (escape? : Char → Option Char) (chars : List Char) : Part String :=
  match takeQuoted quote [] none (chars.drop 1) with
  | some (body, rest) => .ok (String.ofList (unescape escape? [] body), rest)
  | none => .error chars

/-- Takes the text of a binding. -/
def takeText (chars : List Char) : Part String :=
  match chars with
  | '\'' :: _ => takeBetween '\'' singleEscape? chars
  | '"' :: _ => takeBetween '"' doubleEscape? chars
  | chars =>
    let line := chars.takeWhile (· != '\n')
    .ok (String.ofList (plainText line), chars.drop line.length)

/-- Takes the text behind an equals sign, if there is one. -/
def takeBound (chars : List Char) : Part (Option String) :=
  match dropInner chars with
  | '=' :: rest => (takeText (dropInner rest)).map fun (text, rest) => (some text, rest)
  | rest => .ok (none, rest)

/-- Takes what may stand behind a binding, up to the end of the line. -/
def takeEnd (chars : List Char) : Except (List Char) (List Char) :=
  let rest := match dropInner chars with
    | '#' :: rest => rest.dropWhile (· != '\n')
    | rest => rest
  match rest with
  | [] => .ok []
  | '\n' :: rest => .ok rest
  | rest => .error rest

/-- Takes a binding, if the next lines hold one. -/
def takeBinding (chars : List Char) : Except (List Char) (Option Binding × List Char) := do
  let (name, rest) ← takeName (dropExport (Text.dropBlanks chars))
  let (bound, rest) ← takeBound rest
  let rest ← takeEnd rest
  return (name.map fun n => (n, bound), rest)

/-- Reads bindings behind those already read; the fuel bounds their number. -/
def readFrom : Nat → List Binding → List Char → List Binding
  | 0, done, _ => done.reverse
  | fuel + 1, done, chars =>
    if (Text.dropBlanks chars).isEmpty then done.reverse
    else
      match takeBinding chars with
      | .ok (some b, rest) => readFrom fuel (b :: done) rest
      | .ok (none, rest) => readFrom fuel done rest
      | .error rest => readFrom fuel done (dropLine rest)

/-- The bindings of a file. -/
def read (text : String) : List Binding :=
  let chars := plainLines [] text.toList
  readFrom (chars.length + 1) [] chars

/-- A name in braces, with a text for where it is not bound, and the rest. -/
def takeReference? (chars : List Char) : Option (String × String × List Char) :=
  let name := chars.takeWhile fun c => c != '\x7d' && c != ':'
  match chars.drop name.length with
  | '\x7d' :: rest => some (String.ofList name, "", rest)
  | ':' :: '-' :: rest =>
    let fallback := rest.takeWhile (· != '\x7d')
    match rest.drop fallback.length with
    | _ :: rest => some (String.ofList name, String.ofList fallback, rest)
    | [] => none
  | _ => none

/-- The text with names in braces replaced; the fuel bounds its length. -/
def expand (look : String → Option String) : Nat → List Char → List Char → List Char
  | 0, done, _ => done.reverse
  | _ + 1, done, [] => done.reverse
  | fuel + 1, done, '$' :: '\x7b' :: rest =>
    match takeReference? rest with
    | some (name, fallback, rest) => expand look fuel (((look name).getD fallback).toList.reverse ++ done) rest
    | none => expand look fuel ('\x7b' :: '$' :: done) rest
  | fuel + 1, done, c :: rest => expand look fuel (c :: done) rest

/-- The text of a name: from the environment, or from the bindings so far, where it may be empty. -/
def look (e : Environment) (bound : List Binding) (name : String) : Option String :=
  match e.lookup name with
  | some s => some s
  | none => (bound.lookup name).map fun text => text.getD ""

/-- The bindings with all names in braces replaced. -/
def resolve (e : Environment) (done : List Binding) : List Binding → List Binding
  | [] => done
  | (name, text) :: rest =>
    let expanded := text.map fun s => String.ofList (expand (look e done) (s.length + 1) [] s.toList)
    resolve e (Reading.setKey name expanded done) rest

/-- The environment with the bindings of a file, which do not take the place of others. -/
def load (e : Environment) (text : String) : Environment :=
  (resolve e [] (read text)).foldl (fun e binding =>
    match binding with
    | (name, some bound) => if (e.lookup name).isSome then e else e ++ [(name, bound)]
    | (_, none) => e) e

/-- The environment with the bindings of the first file that is there: the named one, or the usual one. -/
def loadFile (e : Environment) (files : List (String × String)) (name : Option String) : Environment :=
  let named := match name with
    | some "" => none
    | some n => files.lookup n
    | none => none
  match named with
  | some text => load e text
  | none =>
    match files.lookup ".env" with
    | some text => load e text
    | none => e

end WorkflowEngine.Bindings
