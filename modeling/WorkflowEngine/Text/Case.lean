import WorkflowEngine.Text.Unicode.Case

/-!
# Texts in one case

Lowering and raising a text go letter by letter, with one exception: a capital sigma that closes a
word becomes the closing small sigma.  It closes a word when the nearest letter before it has case
and the nearest one after it has none, passing over marks in both directions.
-/

namespace WorkflowEngine.Text

/-- The capital sigma, the letter whose small form depends on its place. -/
def capitalSigma : Char := Char.ofNat 0x3a3

/-- The small sigma inside a word. -/
def innerSigma : Char := Char.ofNat 0x3c3

/-- The small sigma at the end of a word. -/
def closingSigma : Char := Char.ofNat 0x3c2

/-- The nearest character that counts has case. -/
def caseFollows (rest : List Char) : Bool :=
  match rest.dropWhile Unicode.isCaseIgnorable with
  | [] => false
  | c :: _ => Unicode.isCased c

/-- Whether the nearest counting character has case, after one more character. -/
def casedAfter (before : Bool) (c : Char) : Bool :=
  if Unicode.isCaseIgnorable c then before else Unicode.isCased c

/-- The small form of a character whose place in a word does not matter. -/
def lowerChar (c : Char) : List Char :=
  if c.toNat == 0x130 then ['i', Char.ofNat 0x307] else [Unicode.lowerOne c]

/-- The small forms of the characters, in front of those already done (which stand reversed). -/
def lowerFrom (before : Bool) (done : List Char) : List Char → List Char
  | [] => done.reverse
  | c :: rest =>
    let small :=
      if c == capitalSigma then
        [if before && !caseFollows rest then closingSigma else innerSigma]
      else lowerChar c
    lowerFrom (casedAfter before c) (small.reverse ++ done) rest

/-- The characters in small letters. -/
def lowerChars (chars : List Char) : List Char :=
  lowerFrom false [] chars

/-- The text in small letters. -/
def lower (text : String) : String :=
  String.ofList (lowerChars text.toList)

/-- The text in capital letters. -/
def upper (text : String) : String :=
  String.ofList (text.toList.flatMap Unicode.raise)

end WorkflowEngine.Text
