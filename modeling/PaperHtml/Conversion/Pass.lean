import PaperHtml.Citation.Link
import PaperHtml.Conversion.Markdown
import PaperHtml.Conversion.Plain

/-!
# The two ways to convert a body

A body is converted by a list of passes, each of which relies on the ones
before it: one list leads to Markdown, the other to LaTeX that the engine
understands.
-/

namespace PaperHtml.Conversion

open Citation

/-- A pass of a conversion with its name. -/
structure Pass where
  name : Text
  run : Text → Text

/-- The passes that lead to Markdown. -/
def markdownPasses (numbers : Numbering) : List Pass :=
  [⟨"strip_comments".toList, Latex.eraseComments⟩,
    ⟨"link_citations".toList, linkAll .markdown numbers⟩,
    ⟨"strip_two_column".toList, stripTwoColumn⟩,
    ⟨"strip_preamble_directives".toList, stripPreamble⟩,
    ⟨"title_block".toList, Markdown.titleBlock⟩,
    ⟨"abstract".toList, Markdown.abstractBlock⟩,
    ⟨"sections".toList, Markdown.sections⟩,
    ⟨"lists".toList, Markdown.lists⟩,
    ⟨"math_environments".toList, Markdown.mathEnvironments⟩,
    ⟨"strip_labels".toList, stripLabels⟩,
    ⟨"inline_macros".toList, Markdown.inlineMacros⟩,
    ⟨"algorithms".toList, Markdown.algorithms⟩,
    ⟨"figures".toList, Markdown.figures⟩,
    ⟨"text_styles".toList, Markdown.textStyles⟩,
    ⟨"theorems".toList, Markdown.theorems⟩,
    ⟨"appendix".toList, Markdown.appendix⟩,
    ⟨"strip_page_directives".toList, stripPageCommands⟩,
    ⟨"collapse_blank_lines".toList, collapseBlankLines⟩]

/-- The passes that lead to plain LaTeX. -/
def plainPasses (numbers : Numbering) : List Pass :=
  [⟨"strip_comments".toList, Latex.eraseComments⟩,
    ⟨"strip_two_column".toList, stripTwoColumn⟩,
    ⟨"strip_preamble_directives".toList, stripPreamble⟩,
    ⟨"strip_graphics".toList, Plain.stripPictures⟩,
    ⟨"strip_page_directives".toList, stripPageCommands⟩,
    ⟨"appendix".toList, Plain.appendix⟩,
    ⟨"strip_labels".toList, stripLabels⟩,
    ⟨"link_citations".toList, linkAll .latex numbers⟩,
    ⟨"theorems".toList, Plain.theorems⟩,
    ⟨"figures".toList, Plain.figures⟩,
    ⟨"algorithms".toList, Plain.algorithms⟩,
    ⟨"macro_prelude".toList, Plain.addPrelude⟩]

/-- A text after a list of passes. -/
def runPasses (passes : List Pass) (t : Text) : Text :=
  passes.foldl (fun t pass => pass.run t) t

/-- The text after each of a list of passes. -/
def trace : List Pass → Text → List (Pass × Text × Text)
  | [], _ => []
  | pass :: rest, t => (pass, t, pass.run t) :: trace rest (pass.run t)

/-- A body as Markdown. -/
def toMarkdown (numbers : Numbering) (body : Text) : Text :=
  runPasses (markdownPasses numbers) body

/-- A body as plain LaTeX. -/
def toPlainLatex (numbers : Numbering) (body : Text) : Text :=
  runPasses (plainPasses numbers) body

end PaperHtml.Conversion
