import PaperHtml.Text.Alphanumeric
import PaperHtml.Text.Basic

/-!
# Word characters

A word character is a letter, a number or an underscore.  A command name such as
`\item` ends where no word character follows.
-/

namespace PaperHtml

/-- A letter, a number in any sense, or an underscore; combining marks are none of these. -/
def isWordChar (c : Char) : Bool :=
  c.isAlphanum || c == '_' || (127 < c.toNat && alphanumericRanges.mem c)

/-- A decimal digit of any script. -/
def isDecimalDigit (c : Char) : Bool :=
  c.isDigit ||
    (127 < c.toNat && decimalZeros.any fun first => first ≤ c.toNat && c.toNat ≤ first + 9)

namespace Text

/-- Whether no word character is at the front, as after a whole command name. -/
def atWordEnd : Text → Bool
  | [] => true
  | c :: _ => !isWordChar c

/-- The longest beginning that consists of word characters, and the rest. -/
def spanWord (t : Text) : Text × Text := t.span isWordChar

end Text

/-- Every letter and digit of the ASCII class is a word character. -/
theorem isWordChar_of_isAlphanum {c : Char} (h : c.isAlphanum = true) : isWordChar c = true := by
  simp [isWordChar, h]

end PaperHtml
