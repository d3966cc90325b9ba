import PaperHtml.CommandLine.Options
import PaperHtml.Source.Query

/-!
# Carrying out a command line

The paper is rendered and its page written.  On the way each stage shows its
share of the work, and each report the time of the day.
-/

namespace PaperHtml.CommandLine

open Text

/-- The name of the program. -/
def programName : Text := "texpaper".toList

/-- A line that is shown. -/
inductive Line where
  | progress (percent : Nat) (text : Text)
  | report (message : Text)

/-- A number with spaces in front of it up to a width. -/
def padded (width n : Nat) : Text :=
  let digits := ofNat n
  List.replicate (width - digits.length) ' ' ++ digits

/-- A line as it is shown, with the time of the day for a report. -/
def Line.print (time : Text) : Line → Text
  | .progress percent text => '[' :: padded 3 percent ++ "%] ".toList ++ text
  | .report message => '[' :: time ++ "] ".toList ++ message

/-- The lines that show what happened. -/
def linesFor (events : List Session.Event) : List Line :=
  events.filterMap fun
    | .report message => some (.report message)
    | .progress percent text => some (.progress percent text)
    | .asked _ _ => none

/-- What came of carrying out a command line: the lines shown, the folder, and the status or
a failure. -/
structure Finished where
  lines : List Line
  folder : Source.Folder
  result : Except Session.Failure Nat

/-- The renderer that the options ask for.  That of the query counts, if it names one. -/
def Options.chosenRenderer (options : Options) : Text :=
  (Source.rendererOf? options.query).getD options.renderer

/-- The request that the options make. -/
def Options.request (options : Options) : Session.Request where
  paper := options.paper
  bibliography := some options.bibliography
  renderer := some options.chosenRenderer

/-- The paper that the options name rendered and written; `engines` are those that set
formulas, or not. -/
def run (engines : (typeset : Bool) → Session.Engines) (options : Options)
    (folder : Source.Folder) : Finished :=
  let rendered :=
    Session.render (engines options.typeset) options.request options.output folder
  ⟨linesFor rendered.events, rendered.folder,
    rendered.result.map fun outcome => if outcome.isOk then 0 else 1⟩

/-- The message for a misuse of the command line. -/
def misuseMessage (misuse : Misuse) : Text :=
  programName ++ ": error: ".toList ++ misuse.message

/-- How the program is called. -/
def usage : List String :=
  ["usage: texpaper [-h] [--paper PAPER] [--bib BIB] [--output OUTPUT]",
    "                [--renderer \x7bauto,latex\x7d] [--query QUERY] [--no-typeset]"]

/-- What is shown when help is asked for. -/
def help : List String :=
  usage ++
    ["", "LaTeX paper to HTML renderer (CLI)", "", "options:",
      "  -h, --help            show this help message and exit",
      "  --paper PAPER         Paper .tex path or URL (default: core.tex)",
      "  --bib BIB             Bibliography .bib path or URL (default: refs.bib)",
      "  --output OUTPUT       Output HTML file (default: paper.html)",
      "  --renderer \x7bauto,latex\x7d",
      "                        auto tries Markdown first and falls back to LaTeX;",
      "                        latex skips Markdown",
      "  --query QUERY         Page query string, e.g. \"?renderer=latexjs\" (overrides",
      "                        --renderer when it names one)",
      "  --no-typeset          Leave TeX math as-is instead of converting to MathML"]

end PaperHtml.CommandLine
