import PaperHtml.Window.Basic

/-!
# The worker

A worker renders the sources that it was started with, and asks for the settings
when it comes to need them.  It tells the window of every event, leaves the task
that enables the button again whatever came of the job, and goes.
-/

namespace PaperHtml.Window

/-- An event of a load told to the window. -/
def tell (event : Session.Event) (window : Window) : Window :=
  match event with
  | .report message => window.log message
  | .progress percent status => window.showProgress percent status
  | .asked _ _ => window

/-- The end of the job: the file of the page, if one was written, and the last task. -/
def finish (output : Option Text) (window : Window) : Window :=
  match window.worker with
  | some ⟨job, false⟩ =>
    leave .enableRender { window with worker := some ⟨job, true⟩, output }
  | _ => window

/-- The worker gone, if it has left its last task. -/
def dismiss (window : Window) : Window :=
  match window.worker with
  | some ⟨_, true⟩ => { window with worker := none }
  | _ => window

/-- The file that pages are written to. -/
def outputPath (folder : Source.Folder) : Text := folder.absolute [Session.defaultOutput]

/-- The report of a job that failed. -/
def failureReport (message : Text) : Session.Event :=
  .report ("Render failed: ".toList ++ message)

/-- The file that a job has written, and what there is to tell of its end. -/
def ending (output : Text) : Except Session.Failure Session.Outcome →
    Option Text × List Session.Event
  | .ok outcome => (some output, (outcome.error.map failureReport).toList)
  | .error failure => (none, [.progress 0 "Failed".toList, failureReport failure.message])

/-- The worker run to its end, if there is one; `engines` are those that set formulas, or
not. -/
def work (engines : (typeset : Bool) → Session.Engines) (folder : Source.Folder)
    (window : Window) : Source.Folder × Window :=
  match window.worker with
  | some ⟨job, false⟩ =>
    let output := outputPath folder
    let rendered := Session.render (engines window.typeset)
      ⟨job.paper, job.bibliography, some window.renderer⟩ output folder
    let (written, last) := ending output rendered.result
    let told := (rendered.events ++ last).foldl (fun window event => window.tell event) window
    (rendered.folder, (told.finish written).dismiss)
  | _ => (folder, window)

end PaperHtml.Window
