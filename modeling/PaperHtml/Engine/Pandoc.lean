import PaperHtml.Text.Lines

/-!
# The engine for LaTeX

LaTeX is rendered by a program of its own, which gets the text and answers with
a fragment of HTML.  It may be missing, take too long or fail.
-/

namespace PaperHtml.Engine

open Text

/-- How a run of the program ends. -/
inductive Ending where
  | finished (status : Int) (output errors : Option Text)
  /-- The program was gone when it was to be started. -/
  | vanished
  | timedOut

/-- A program with its settings; `ending` is how it answers, if it is installed. -/
structure Program where
  command : Text := "pandoc".toList
  timeout : Int := 60
  onWindows : Bool := false
  ending : Option (Text → Ending)

/-- A run of the program. -/
structure Run where
  arguments : List Text
  input : Text
  timeout : Int
  flags : Nat

/-- Why the program gives no HTML. -/
inductive Problem where
  | notInstalled (command : Text)
  | timedOut (command : Text) (timeout : Int)
  | failed (command : Text) (status : Int)

/-- The problem in words. -/
def Problem.message : Problem → Text
  | .notInstalled command => command ++ " not found on system PATH.".toList
  | .timedOut command timeout =>
    command ++ " timed out after ".toList ++ ofInt timeout ++ ['s']
  | .failed command status => command ++ " exited with status ".toList ++ ofInt status

/-- What came of rendering a text: HTML or a problem, the reports, and the runs. -/
structure Rendered where
  result : Except Problem Text
  reports : List Text
  runs : List Run

/-- The flag that keeps a console window from opening. -/
def noWindow : Nat := 0x08000000

/-- The run that renders a text. -/
def Program.run (program : Program) (text : Text) : Run where
  arguments := program.command ::
    ["--quiet", "--wrap=none", "--mathjax", "-f", "latex", "-t", "html"].map String.toList
  input := text
  timeout := program.timeout
  flags := if program.onWindows then noWindow else 0

/-- The last lines of the messages of a run that failed. -/
def messageTail (errors : Option Text) : Text :=
  let ls := messageLines (errors.getD [])
  unlines (ls.drop (ls.length - 12))

/-- A text rendered. -/
def Program.render (program : Program) (text : Text) : Rendered :=
  match program.ending with
  | none => ⟨.error (.notInstalled program.command), [], []⟩
  | some ending =>
    let begun := "Running ".toList ++ program.command ++ " (latex -> html)...".toList
    let runs := [program.run text]
    match ending text with
    | .vanished => ⟨.error (.notInstalled program.command), [begun], runs⟩
    | .timedOut => ⟨.error (.timedOut program.command program.timeout), [begun], runs⟩
    | .finished status output errors =>
      if status = 0 then ⟨.ok (output.getD []), [begun], runs⟩
      else
        let report := program.command ++ " returned ".toList ++ ofInt status ++
          "; tail of log:\n".toList ++ messageTail errors
        ⟨.error (.failed program.command status), [begun, report], runs⟩

end PaperHtml.Engine
