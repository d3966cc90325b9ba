import PaperHtml.Text.Blank

/-!
# The body of a document

The body is what stands between the two marks of the document environment.  A
text whose marks are missing or stand in the wrong order is its own body.
-/

namespace PaperHtml.Latex

open Text

/-- The mark that opens the document environment. -/
def beginDocument : Text := "\\begin".toList ++ braced "document".toList

/-- The mark that closes the document environment. -/
def endDocument : Text := "\\end".toList ++ braced "document".toList

/-- The text between the document marks, trimmed. -/
def body (t : Text) : Text :=
  match cut? beginDocument t with
  | none => t
  | some (before, after) =>
    if holds endDocument before then t
    else
      match cut? endDocument after with
      | some (inner, _) => trim inner
      | none => t

end PaperHtml.Latex
