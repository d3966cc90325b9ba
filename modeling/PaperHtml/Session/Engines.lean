import PaperHtml.Engine.Pandoc
import PaperHtml.Math.Typeset
import PaperHtml.Session.Outcome
import PaperHtml.Source.Fetch

/-!
# What a load draws on

A load asks for sources, for the rendering of texts and for the setting of
formulas.  Each of them is a function of its input that may fail, so that a load
is a function too.
-/

namespace PaperHtml.Session

open Html

/-- Something that happened during a load, in order. -/
inductive Event where
  | report (message : Text)
  | progress (percent : Nat) (message : Text)
  /-- A text given to the engine of a way. -/
  | asked (way : Way) (text : Text)

/-- A source asked for: its text or a failure, and the reports. -/
structure Answer where
  result : Except Source.Failure Text
  reports : List Text

/-- A text rendered as LaTeX: HTML or why there is none, and the reports. -/
structure LatexAnswer where
  result : Except Text Text
  reports : List Text

/-- The formulas below an element set: the nodes, the number of formulas or why the setting
broke off, and the reports. -/
structure SettingAnswer where
  nodes : List Node
  result : Except Text Nat
  reports : List Text

/-- Sets the formulas among the children of an element, whose name and those of the elements
around it are given. -/
abbrev Setter := (around : List Text) → List Node → SettingAnswer

/-- What a load draws on. -/
structure Engines where
  fetch : Text → Answer
  markdown : Text → Except Text Text
  latex : Text → LatexAnswer
  /-- The style sheets and scripts for papers rendered as LaTeX. -/
  assets : Except Text (Option Text)
  setter : Option Setter

/-- Sets formulas with a converter. -/
def setterOf (convert : Math.Converter) : Setter := fun around nodes =>
  let set := Math.setBelow convert around nodes
  let result := match set.rejected with
    | some why => .error why.message
    | none => .ok set.count
  ⟨set.nodes, result, set.reports⟩

/-- The answer that came of fetching a source. -/
def answerOf (fetched : Source.Fetched) : Answer := ⟨fetched.result, fetched.reports⟩

/-- Asks for sources in the surroundings. -/
def fetchFrom (world : Source.Surroundings) (source : Text) : Answer :=
  answerOf (Source.fetch world source)

/-- Asks a program for the rendering of LaTeX. -/
def latexBy (program : Engine.Program) (text : Text) : LatexAnswer :=
  let rendered := program.render text
  ⟨rendered.result.mapError Engine.Problem.message, rendered.reports⟩

end PaperHtml.Session
