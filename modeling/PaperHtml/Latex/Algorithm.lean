import PaperHtml.Latex.Environment
import PaperHtml.Text.Blank

/-!
# Algorithm blocks

An algorithm is shown as the plain lines of its statements, without the markup
of the listing around them.
-/

namespace PaperHtml.Latex

open Text

/-- What follows a number in brackets, or the same text if there is none. -/
def dropNumberNote : Text → Text
  | '[' :: rest =>
    match rest.dropWhile isDecimalDigit with
    | ']' :: after => after
    | _ => '[' :: rest
  | t => t

/-- What follows the opening mark of a listing with its line number note. -/
def dropListingBegin? (t : Text) : Option Text :=
  (dropPrefix? ("\\begin".toList ++ braced "algorithmic".toList) t).map dropNumberNote

/-- A listing without its own marks, its caption and its labels. -/
def stripListing (block : Text) : Text :=
  let t := Scanner.erase dropListingBegin? block
  let t := replaceAll ("\\end".toList ++ braced "algorithmic".toList) [] t
  eraseArgument "label".toList (eraseArgument "caption".toList t)

/-- The statements of an algorithm, one a line, without the backslash that may begin them. -/
def algorithmLines (block : Text) : List Text :=
  ((lines (trim (stripListing block))).map fun line => trim (dropOptional '\\' line)).filter
    fun line => line ≠ []

/-- Every algorithm replaced by what `render` makes of its lines. -/
def renderAlgorithms (render : List Text → Text) (t : Text) : Text :=
  Scanner.substitute
    (Scanner.map (fun inner => render (algorithmLines inner))
      (notedEnvironment "algorithm".toList)) t

end PaperHtml.Latex
