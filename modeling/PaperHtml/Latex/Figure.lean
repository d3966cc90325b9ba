import PaperHtml.Latex.Environment
import PaperHtml.Latex.Group

/-!
# Figures

A figure is shown by its caption and the path of its picture.
-/

namespace PaperHtml.Latex

open Text

/-- The caption of a figure, with its nested groups; an empty one counts as none. -/
def caption? (figure : Text) : Option Text :=
  (commandArgument? "caption".toList figure).filter fun caption => caption ≠ []

/-- The path of the first picture in a figure. -/
def picture? (figure : Text) : Option Text :=
  Scanner.find? (withNotedArgument "includegraphics".toList id) figure

/-- Every figure replaced by what `render` makes of its source. -/
def renderFigures (render : Text → Text) (t : Text) : Text :=
  Scanner.substitute (Scanner.map render (environmentSource "figure".toList)) t

end PaperHtml.Latex
