import PaperHtml.Session.Load

/-!
# Writing the page

The page that a load has left is written to a file, whether or not the paper
could be rendered.
-/

namespace PaperHtml.Session

open Text

/-- The source of the paper, where none is given. -/
def defaultPaper : Text := "core.tex".toList

/-- The source of the bibliography, where none is given. -/
def defaultBibliography : Text := "refs.bib".toList

/-- The file that the page is written to, where none is given. -/
def defaultOutput : Text := "paper.html".toList

/-- Why no page is written. -/
inductive Failure where
  /-- The load broke off. -/
  | broken (why : Broken)
  /-- A file to write to that no path leads to. -/
  | invalid (message : Text)
  | file (error : Source.FileError)

/-- The failure in words. -/
def Failure.message : Failure → Text
  | .broken why => why.message
  | .invalid message => message
  | .file error => error.message

/-- The page written to a file: what went wrong, and the folder as it is left. -/
def write (path : Text) (page : Page) (folder : Source.Folder) :
    Option Failure × Source.Folder :=
  if path.contains (Char.ofNat 0) then (some (.invalid "embedded null byte".toList), folder)
  else
    let (error, folder) := folder.write path (Utf8.encode page.print)
    (error.map .file, folder)

/-- What came of loading a paper and writing its page. -/
structure Rendered where
  events : List Event
  folder : Source.Folder
  result : Except Failure Outcome

/-- A paper loaded into a page of its own, which is then written. -/
def render (engines : Engines) (request : Request) (output : Text) (folder : Source.Folder) :
    Rendered :=
  let loaded := load engines request new
  match loaded.result with
  | .error why => ⟨loaded.events, folder, .error (.broken why)⟩
  | .ok outcome =>
    match write output loaded.session.page folder with
    | (some failure, folder) => ⟨loaded.events, folder, .error failure⟩
    | (none, folder) =>
      ⟨loaded.events ++ [.report ("HTML written to ".toList ++ output)], folder, .ok outcome⟩

end PaperHtml.Session
