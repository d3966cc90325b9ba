import PaperHtml.Citation.Numbering
import PaperHtml.Citation.Resolve
import PaperHtml.Html.Rejection

/-!
# The outcome of a load

Loading a paper ends on one of two ways to render it, fails, or breaks off
without an outcome.
-/

namespace PaperHtml.Session

/-- A way to render a paper. -/
inductive Way where
  | markdown
  | latex
  deriving DecidableEq

/-- What a page says while a paper is loaded. -/
def loadingStatus : Text := "Loading main paper…".toList

/-- What a page says of a paper rendered as Markdown. -/
def markdownStatus : Text := "Rendered via Markdown".toList

/-- What a page says of a paper rendered as LaTeX. -/
def latexStatus : Text := "Rendered with LaTeX".toList

/-- What a page says of a paper rendered as LaTeX after Markdown failed. -/
def fallbackStatus : Text := "Rendered via LaTeX fallback".toList

/-- What a page says of a paper that could not be loaded. -/
def failedStatus : Text := "Failed to load paper".toList

/-- What is known of the citations of a paper. -/
structure Citations where
  order : List Text := []
  numbers : Citation.Numbering := []
  references : List Citation.Reference := []

/-- What came of loading a paper. -/
structure Outcome where
  status : Text
  way : Option Way := none
  /-- Whether Markdown was tried and failed. -/
  fallback : Bool := false
  error : Option Text := none
  citations : Citations := {}

/-- Whether the paper was rendered. -/
def Outcome.isOk (outcome : Outcome) : Bool := outcome.error.isNone

/-- Why a load breaks off without an outcome. -/
inductive Broken where
  /-- A source that is neither an address nor a path. -/
  | source (message : Text)
  /-- Rendered LaTeX that is rejected as the source of a page. -/
  | markup (why : Html.Rejection)
  deriving DecidableEq

/-- The reason in words. -/
def Broken.message : Broken → Text
  | .source message => message
  | .markup why => why.message

end PaperHtml.Session
