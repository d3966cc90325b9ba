import PaperHtml.Text.Basic

/-!
# Comment lines

A line whose first character is a percent sign is a comment.  Its text goes,
its line end stays.
-/

namespace PaperHtml.Latex

open Text

/-- Whether a line is a comment. -/
def isCommentLine (line : Text) : Bool := line.head? == some '%'

/-- Every comment line made empty. -/
def eraseComments (t : Text) : Text :=
  unlines ((lines t).map fun line => if isCommentLine line then [] else line)

end PaperHtml.Latex
