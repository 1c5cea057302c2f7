import WorkflowEngine.Text.Unicode.Ranges

/-!
# Trimming

Trimming removes blank characters at both ends of a text and nothing else.
-/

namespace WorkflowEngine.Text

/-- The characters without the blanks in front. -/
def dropBlanks (chars : List Char) : List Char :=
  chars.dropWhile Unicode.isBlank

/-- The characters without the blanks at both ends. -/
def trimChars (chars : List Char) : List Char :=
  (dropBlanks (dropBlanks chars).reverse).reverse

/-- The text without the blanks at both ends. -/
def trim (text : String) : String :=
  String.ofList (trimChars text.toList)

/-- The text has no character other than blanks. -/
def isBlankText (text : String) : Bool :=
  text.toList.all Unicode.isBlank

end WorkflowEngine.Text
