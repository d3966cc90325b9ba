import PaperHtml.Session.Output

/-!
# The window

The user fills in the sources, starts rendering, and opens the page when it is
there.

## Strategy

A worker renders beside the window and must not touch what it shows.  What is to
be shown is therefore left to the window as a *task*, and the window performs
its tasks one after another, in the order in which they were left.  The button
for rendering is disabled when a worker is started, and enabled by the last task
that the worker leaves.
-/

namespace PaperHtml

open Text

/-- The sources to render. -/
structure Window.Job where
  paper : Text
  bibliography : Option Text

/-- A worker that is alive. -/
structure Window.Worker where
  job : Job
  /-- Whether the worker has left its last task and has only to go. -/
  isDone : Bool := false

/-- Something left to the window, to be performed in its turn. -/
inductive Window.Task where
  | append (message : Text)
  | showProgress (percent : Nat) (status : Text)
  | enableRender

/-- The window. -/
structure Window where
  paper : Text := Session.defaultPaper
  bibliography : Text := Session.defaultBibliography
  renderer : Text := "auto".toList
  typeset : Bool := true
  status : Text := "Ready".toList
  renderEnabled : Bool := true
  worker : Option Window.Worker := none
  /-- The tasks that are left, the oldest first. -/
  tasks : List Window.Task := []
  /-- The file that the last page was written to. -/
  output : Option Text := none

namespace Window

/-- Something that the user sees or is asked. -/
inductive Effect where
  | logged (message : Text)
  | showed (percent : Nat) (status : Text)
  | opened (address : Text)
  /-- A file was asked for, with the patterns of the names to choose from. -/
  | asked (patterns : List (Text × Text))

/-- The window after something, and what the user saw of it. -/
abbrev Step := Window × List Effect

/-! ## Tasks -/

/-- A task left to the window. -/
def leave (task : Task) (window : Window) : Window :=
  { window with tasks := window.tasks ++ [task] }

/-- A message for the log. -/
def log (message : Text) : Window → Window := leave (.append message)

/-- A progress and a status to be shown; no more than the whole can be done. -/
def showProgress (percent : Int) (status : Text) : Window → Window :=
  leave (.showProgress (min percent.toNat 100) status)

/-- A task performed. -/
def perform (task : Task) (window : Window) : Step :=
  match task with
  | .append message => (window, [.logged message])
  | .showProgress percent status => ({ window with status }, [.showed percent status])
  | .enableRender => ({ window with renderEnabled := true }, [])

/-- The oldest task performed, if one is left. -/
def performNext (window : Window) : Step :=
  match window.tasks with
  | [] => (window, [])
  | task :: rest => perform task { window with tasks := rest }

/-- Several tasks performed in order. -/
def performAll : List Task → Window → Step
  | [], window => (window, [])
  | task :: rest, window =>
    let first := perform task window
    let others := performAll rest first.1
    (others.1, first.2 ++ others.2)

/-- All tasks that are left performed. -/
def settle (window : Window) : Step := performAll window.tasks { window with tasks := [] }

/-- Performing a task leaves no new one. -/
@[simp] theorem tasks_perform (task : Task) (window : Window) :
    (perform task window).1.tasks = window.tasks := by
  cases task <;> rfl

/-- A window settles by performing one task after another. -/
theorem settle_of_tasks_eq_cons {window : Window} {task : Task} {rest : List Task}
    (h : window.tasks = task :: rest) :
    window.settle =
      (window.performNext.1.settle.1, window.performNext.2 ++ window.performNext.1.settle.2) := by
  cases task <;> simp [settle, performNext, performAll, perform, h]

/-! ## What the user does -/

/-- The patterns of the names to choose a source from. -/
def patterns (pattern : String) : List (Text × Text) :=
  [("Source".toList, pattern.toList), ("All files".toList, "*.*".toList)]

/-- A file for the paper chosen; an empty answer changes nothing. -/
def browsePaper (answer : Text) (window : Window) : Step :=
  (if answer.isEmpty then window else { window with paper := answer },
    [.asked (patterns "*.tex")])

/-- A file for the bibliography chosen; an empty answer changes nothing. -/
def browseBibliography (answer : Text) (window : Window) : Step :=
  (if answer.isEmpty then window else { window with bibliography := answer },
    [.asked (patterns "*.bib")])

/-- Rendering started, unless there is no paper or a worker is still alive. -/
def startRendering (window : Window) : Window :=
  let paper := trim window.paper
  let bibliography := trim window.bibliography
  if paper.isEmpty then window.log "Please enter a paper path or URL.".toList
  else if window.worker.isSome then window.log "Another task is running.".toList
  else
    let bibliography := if bibliography.isEmpty then none else some bibliography
    { window with worker := some { job := ⟨paper, bibliography⟩ }, renderEnabled := false }

/-- The button for rendering pressed. -/
def pressRender (window : Window) : Window :=
  if window.renderEnabled then window.startRendering else window

/-- The page opened in the browser, if it is there. -/
def openPage (folder : Source.Folder) (window : Window) : Step :=
  match window.output.filter folder.isFile with
  | some output => (window, [.opened ("file://".toList ++ output)])
  | none => (window.log "No rendered page yet.".toList, [])

end Window

end PaperHtml
