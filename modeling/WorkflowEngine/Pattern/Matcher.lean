import WorkflowEngine.Fault
import WorkflowEngine.Pattern.Reader
import WorkflowEngine.Text.Unicode.Ranges
import WorkflowEngine.Text.Unicode.Case

/-!
# Fitting patterns to texts

The items of a pattern are fitted one after the other.  Where there is a choice, the other ways are kept
on a stack and taken up again when the first way leads nowhere.  Looking around and atomic groups put a
barrier on the stack, behind which the ways of their bodies are given up once they have been fitted.
-/

namespace WorkflowEngine.Pattern

/-- Small letters with the same capital form. -/
def sameCapital : List (List Nat) :=
  [[0x69, 0x131], [0x73, 0x17f], [0xb5, 0x3bc], [0x345, 0x3b9, 0x1fbe], [0x390, 0x1fd3], [0x3b0, 0x1fe3],
   [0x3b2, 0x3d0], [0x3b5, 0x3f5], [0x3b8, 0x3d1], [0x3ba, 0x3f0], [0x3c0, 0x3d6], [0x3c1, 0x3f1],
   [0x3c2, 0x3c3], [0x3c6, 0x3d5], [0x432, 0x1c80], [0x434, 0x1c81], [0x43e, 0x1c82], [0x441, 0x1c83],
   [0x442, 0x1c84, 0x1c85], [0x44a, 0x1c86], [0x463, 0x1c87], [0xa64b, 0x1c88], [0x1e61, 0x1e9b],
   [0xfb05, 0xfb06]]

/-- The small form of a letter. -/
def lowerCode (ascii : Bool) (code : Nat) : Nat :=
  if code < 128 then (if 65 ≤ code && code ≤ 90 then code + 32 else code)
  else if ascii then code
  else (Text.Unicode.lowerOne (Char.ofNat code)).toNat

/-- The letter that stands for all letters that differ in case only. -/
def foldCode (ascii : Bool) (code : Nat) : Nat :=
  let small := lowerCode ascii code
  if ascii then small
  else
    match sameCapital.find? fun codes => codes.contains small with
    | some (first :: _) => first
    | _ => small

/-- The codes whose small form is one of the given ones, among the letters with a small form. -/
def capitalsOf (smalls : List Nat) : List Nat :=
  Text.Unicode.loweringRuns.toList.flatMap fun run =>
    smalls.filterMap fun small =>
      let code := (Int.ofNat small - run.shift).toNat
      if run.holds code && run.apply code == small then some code else none

/-- All letters that differ from a letter in case only. -/
def variants (ascii : Bool) (code : Nat) : List Nat :=
  let small := lowerCode ascii code
  if ascii then
    if 97 ≤ small && small ≤ 122 then [small, small - 32] else [small]
  else
    let smalls := (sameCapital.find? fun codes => codes.contains small).getD [small]
    let plain := smalls.filterMap fun s => if 97 ≤ s && s ≤ 122 then some (s - 32) else none
    smalls ++ plain ++ capitalsOf smalls

/-- The character belongs to a class. -/
def inClass (ascii : Bool) (c : Class) (code : Nat) : Bool :=
  let char := Char.ofNat code
  match c with
  | .digit => if ascii then 48 ≤ code && code ≤ 57 else Text.Unicode.isDecimal char
  | .space =>
    if ascii then code == 32 || (9 ≤ code && code ≤ 13) else Text.Unicode.isBlank char
  | .word =>
    if ascii then code < 128 && (char.isAlphanum || char == '_') else Text.Unicode.isWordChar char

/-- The character is a member of a set. -/
def fitsMember (o : Options) (code : Nat) : Member → Bool
  | .single member =>
    if o.ignoreCase then foldCode o.ascii code == foldCode o.ascii member else code == member
  | .range low high =>
    if o.ignoreCase then (variants o.ascii code).any fun v => low ≤ v && v ≤ high
    else low ≤ code && code ≤ high
  | .ofClass c negated => inClass o.ascii c code != negated

/-- The item fits one character: whether it fits this one; none for other items. -/
def fitsOne? (o : Options) (item : Item) (code : Nat) : Option Bool :=
  match item with
  | .single member => some (fitsMember o code (.single member))
  | .notSingle member => some !(fitsMember o code (.single member))
  | .any => some (o.dotAll || code != 10)
  | .set negated members => some ((members.any (fitsMember o code)) != negated)
  | _ => none

/-- Where each group has been fitted: its start and its end. -/
abbrev Captures := List (Nat × Nat × Nat)

/-- Sets the place of a group. -/
def setCapture (captures : Captures) (group start stop : Nat) : Captures :=
  (group, start, stop) :: captures.filter fun entry => entry.1 != group

/-- What is still to be fitted. -/
inductive Task where
  | items (o : Options) (items : List Item)
  | close (group start : Nat)
  | again (o : Options) (greed : Greed) (least : Nat) (most : Option Nat) (body : List Item) (count : Nat)
      (last : Option Nat)
  | leave (position : Option Nat)
  | leaveNegated
deriving Inhabited

/-- A way that has not been taken yet, or a barrier; a fallback is a barrier with a way to take when
what stands before it fails. -/
inductive Way where
  | resume (tasks : List Task) (position : Nat) (captures : Captures)
  | shorter (tasks : List Task) (least position : Nat) (captures : Captures)
  | barrier
  | fallback (tasks : List Task) (position : Nat) (captures : Captures)
deriving Inhabited

/-- The matcher at work. -/
structure Matching where
  tasks : List Task
  position : Nat
  captures : Captures
  ways : List Way
deriving Inhabited

/-- One step of the matcher: it goes on, or it has fitted everything or nothing. -/
inductive Progress where
  | going (m : Matching)
  | done (fitted : Bool)

/-- The code at a place of a text. -/
def codeAt? (text : Array Char) (i : Nat) : Option Nat :=
  (text[i]?).map Text.codeOfChar

/-- The place has a letter, digit or low line on exactly one of its sides. -/
def isBoundary (o : Options) (text : Array Char) (i : Nat) : Bool :=
  let word (code? : Option Nat) : Bool := code?.any fun code => inClass o.ascii .word code
  let before := if i == 0 then none else codeAt? text (i - 1)
  word before != word (codeAt? text i)

/-- The place is one that an anchor asks for. -/
def fitsAnchor (o : Options) (text : Array Char) (i : Nat) : Anchor → Bool
  | .textStart => i == 0
  | .textEnd => i == text.size
  | .lineStart => i == 0 || (o.multiline && codeAt? text (i - 1) == some 10)
  | .lineEnd =>
    i == text.size || (codeAt? text i == some 10 && (o.multiline || i + 1 == text.size))
  | .boundary => !text.isEmpty && isBoundary o text i
  | .noBoundary => !text.isEmpty && !isBoundary o text i

/-- How many characters from a place on fit an item that fits one character, up to a bound. -/
def countFitting (o : Options) (item : Item) (text : Array Char) (bound : Nat) : Nat → Nat → Nat
  | 0, count => count
  | fuel + 1, count =>
    if count == bound then count
    else
      let place := text.size - (fuel + 1)
      match codeAt? text place with
      | none => count
      | some code =>
        if fitsOne? o item code == some true then countFitting o item text bound fuel (count + 1) else count

/-- The earlier part of a text is repeated at a place; its length then. -/
def fitsAgain (o : Options) (text : Array Char) (start stop place : Nat) : Bool :=
  (List.range (stop - start)).all fun offset =>
    match codeAt? text (start + offset), codeAt? text (place + offset) with
    | some a, some b =>
      if o.ignoreCase then lowerCode o.ascii a == lowerCode o.ascii b else a == b
    | _, _ => false

/-- Takes up the last way that has been kept. -/
def backtrack : List Way → Progress
  | [] => .done false
  | .resume tasks position captures :: ways => .going ⟨tasks, position, captures, ways⟩
  | .shorter tasks least position captures :: ways =>
    let ways := if least < position then .shorter tasks least (position - 1) captures :: ways else ways
    .going ⟨tasks, position, captures, ways⟩
  | .barrier :: ways => backtrack ways
  | .fallback tasks position captures :: ways => .going ⟨tasks, position, captures, ways⟩

/-- The ways behind the last barrier. -/
def behindBarrier : List Way → List Way
  | [] => []
  | .barrier :: ways => ways
  | .fallback _ _ _ :: ways => ways
  | _ :: ways => behindBarrier ways

/-- The ways are tried in order: the first at once, the others when it fails. -/
def Matching.choose (m : Matching) (ways : List (List Task)) : Progress :=
  match ways with
  | [] => backtrack m.ways
  | tasks :: others =>
    .going { m with
      tasks := tasks
      ways := (others.map fun tasks => Way.resume tasks m.position m.captures) ++ m.ways }

/-- A repetition of an item that fits one character. -/
def Matching.repeatOne (m : Matching) (o : Options) (text : Array Char) (greed : Greed) (least : Nat)
    (most : Option Nat) (item : Item) (tasks : List Task) : Progress :=
  let room := text.size - m.position
  let bound := min room (most.getD room)
  let count := countFitting o item text bound room 0
  if count < least then backtrack m.ways
  else
    match greed with
    | .possessive => .going { m with tasks := tasks, position := m.position + count }
    | _ =>
      let first := m.position + least
      let last := m.position + count
      let ways := if least < count then .shorter tasks first (last - 1) m.captures :: m.ways else m.ways
      .going ⟨tasks, last, m.captures, ways⟩

/-- The next iteration of a repetition, or what follows it. -/
def Matching.iterate (m : Matching) (o : Options) (greed : Greed) (least : Nat) (most : Option Nat)
    (body : List Item) (count : Nat) (last : Option Nat) (tasks : List Task) : Progress :=
  let further (last : Option Nat) : List Task :=
    .items o body :: .again o greed least most body (count + 1) last :: tasks
  let atomic (last : Option Nat) : List Task :=
    .items o body :: .leave none :: .again o greed least most body (count + 1) last :: tasks
  let more := most.all (count < ·) && last != some m.position
  match greed with
  | .possessive =>
    if count < least then .going { m with tasks := atomic last, ways := .barrier :: m.ways }
    else if more then
      .going { m with
        tasks := atomic (some m.position)
        ways := .fallback tasks m.position m.captures :: m.ways }
    else .going { m with tasks := tasks }
  | .greedy =>
    if count < least then m.choose [further last]
    else if more then m.choose [further (some m.position), tasks]
    else m.choose [tasks]
  | .lazy =>
    if count < least then m.choose [further last]
    else if more then m.choose [tasks, further (some m.position)]
    else m.choose [tasks]

/-- Fits an item, with what is to be fitted behind it. -/
def Matching.fit (m : Matching) (o : Options) (text : Array Char) (widths : List (Option Width))
    (item : Item) (tasks : List Task) : Progress :=
  match item with
  | .anchor a => if fitsAnchor o text m.position a then .going { m with tasks := tasks } else backtrack m.ways
  | .reference group =>
    match m.captures.lookup group with
    | none => backtrack m.ways
    | some (start, stop) =>
      if fitsAgain o text start stop m.position then
        .going { m with tasks := tasks, position := m.position + (stop - start) }
      else backtrack m.ways
  | .group number added removed body =>
    let inside := o.change added removed
    match number with
    | none => .going { m with tasks := .items inside body :: tasks }
    | some n => .going { m with tasks := .items inside body :: .close n m.position :: tasks }
  | .atomic body =>
    .going { m with tasks := .items o body :: .leave none :: tasks, ways := .barrier :: m.ways }
  | .branch alternatives => m.choose (alternatives.map fun items => .items o items :: tasks)
  | .repeated greed least most body =>
    match body with
    | [single] =>
      match greed, fitsOne? o single 0 with
      | .lazy, _ => m.iterate o greed least most body 0 none tasks
      | _, some _ => m.repeatOne o text greed least most single tasks
      | _, none => m.iterate o greed least most body 0 none tasks
    | body => m.iterate o greed least most body 0 none tasks
  | .look behind negated body =>
    let back := if behind then (width widths body).least else 0
    if m.position < back then
      if negated then .going { m with tasks := tasks } else backtrack m.ways
    else
      let place := m.position - back
      if negated then
        .going ⟨[.items o body, .leaveNegated], place, m.captures,
          .fallback tasks m.position m.captures :: m.ways⟩
      else
        .going ⟨.items o body :: .leave (some m.position) :: tasks, place, m.captures, .barrier :: m.ways⟩
  | .choice group positive negative =>
    if (m.captures.lookup group).isSome then .going { m with tasks := .items o positive :: tasks }
    else .going { m with tasks := .items o (negative.getD []) :: tasks }
  | .fail => backtrack m.ways
  | item =>
    match codeAt? text m.position with
    | none => backtrack m.ways
    | some code =>
      if fitsOne? o item code == some true then
        .going { m with tasks := tasks, position := m.position + 1 }
      else backtrack m.ways

/-- One step of the matcher. -/
def Matching.step (text : Array Char) (widths : List (Option Width)) (m : Matching) : Progress :=
  match m.tasks with
  | [] => .done true
  | .items _ [] :: tasks => .going { m with tasks := tasks }
  | .items o (item :: rest) :: tasks => m.fit o text widths item (.items o rest :: tasks)
  | .close group start :: tasks =>
    .going { m with tasks := tasks, captures := setCapture m.captures group start m.position }
  | .again o greed least most body count last :: tasks =>
    m.iterate o greed least most body count last tasks
  | .leave position :: tasks =>
    .going { m with tasks := tasks, position := position.getD m.position, ways := behindBarrier m.ways }
  | .leaveNegated :: _ => backtrack (behindBarrier m.ways)

/-- Runs the matcher; the fuel bounds the steps. -/
def Matching.run (text : Array Char) (widths : List (Option Width)) : Nat → Matching → Bool
  | 0, _ => false
  | fuel + 1, m =>
    match m.step text widths with
    | .done fitted => fitted
    | .going m => Matching.run text widths fuel m

/-- No search takes more steps than this. -/
def stepLimit : Nat := Nat.pow 10 12

/-- The pattern fits the text from some place on; the fuel bounds the places. -/
def searchFrom (p : Parsed) (text : Array Char) : Nat → Nat → Bool
  | 0, _ => false
  | fuel + 1, place =>
    Matching.run text p.widths stepLimit ⟨[.items p.options p.items], place, [], []⟩ ||
      searchFrom p text fuel (place + 1)

/-- The pattern fits some part of the text. -/
def search (p : Parsed) (text : String) : Bool :=
  let chars := text.toList.toArray
  searchFrom p chars (chars.size + 1) 0

mutual

/-- Some look behind has no fixed width. -/
def looksFreely (widths : List (Option Width)) (item : Item) : Bool :=
  match item with
  | .group _ _ _ body => anyLooksFreely widths body
  | .atomic body => anyLooksFreely widths body
  | .branch alternatives => eachLooksFreely widths alternatives
  | .repeated _ _ _ body => anyLooksFreely widths body
  | .look behind _ body =>
    let w := width widths body
    (behind && w.least != w.most) || anyLooksFreely widths body
  | .choice _ positive negative =>
    anyLooksFreely widths positive ||
      match negative with
      | none => false
      | some items => anyLooksFreely widths items
  | _ => false

/-- Some look behind in a sequence has no fixed width. -/
def anyLooksFreely (widths : List (Option Width)) : List Item → Bool
  | [] => false
  | item :: rest => looksFreely widths item || anyLooksFreely widths rest

/-- Some look behind in several sequences has no fixed width. -/
def eachLooksFreely (widths : List (Option Width)) : List (List Item) → Bool
  | [] => false
  | items :: rest => anyLooksFreely widths items || eachLooksFreely widths rest

end

/-- Reads a pattern and makes sure that it can be fitted. -/
def compile (options : Options) (pattern : String) : Except Problem Parsed :=
  match parse options pattern.toList with
  | .error p => .error p
  | .ok parsed =>
    if anyLooksFreely parsed.widths parsed.items then
      .error (.unusable "look-behind requires fixed-width pattern")
    else .ok parsed

/-- How many line ends stand in front of a position, and how far behind the last one it is. -/
def lineAndColumn (chars : List Char) (position : Nat) : Nat × Nat :=
  let before := chars.take position
  (before.count '\n' + 1, (before.reverse.takeWhile (· != '\n')).length + 1)

/-- The words for a refused pattern. -/
def placeText (chars : List Char) (message : String) (position : Nat) : String :=
  let text := message ++ " at position " ++ toString position
  if chars.contains '\n' then
    let (line, column) := lineAndColumn chars position
    text ++ " (line " ++ toString line ++ ", column " ++ toString column ++ ")"
  else text

/-- A refusal of the pattern as such in words, or another fault. -/
def Problem.explain (pattern : String) : Problem → Except Fault String
  | .refused message position => .ok (placeText pattern.toList message position)
  | .unusable message => .ok message
  | .overflow => .error (.other .overflow "the repetition number is too large")
  | .incompatible => .error (.valued "ASCII and UNICODE flags are incompatible")

end WorkflowEngine.Pattern
