import PaperHtml.CommandLine.Run
import PaperHtml.Markdown.Printer
import PaperHtml.Math.Markup

/-!
# The program

Renders a paper from the command line.  The files that the options name are read
first; all that follows is `CommandLine.run`, and at the end the page is written.
There is neither a network nor an engine for LaTeX here: requests fail, and the
engine counts as not installed.
-/

namespace PaperHtml.Program

open Text

/-- The file of a source, if there is one. -/
def readSource (source : Text) : IO (List (Source.Path × List Byte)) := do
  try
    let content ← IO.FS.readBinFile (String.ofList source)
    let path := (splitOn '/' source).filter fun name => !name.isEmpty
    pure [(path, content.toList.map UInt8.toNat)]
  catch _ => pure []

/-- The engines that are there. -/
def engines (folder : Source.Folder) (typeset : Bool) : Session.Engines where
  fetch := Session.fetchFrom
    { folder, request := fun _ => .failure false "there is no network here".toList }
  markdown t := .ok (Markdown.render t)
  latex := Session.latexBy { ending := none }
  assets := .ok (some Page.latexStyleSheet)
  setter :=
    if typeset then
      some (Session.setterOf fun display latex => .ok (Math.toMathml display latex))
    else none

/-- Two digits of a number. -/
def twoDigits (n : Nat) : Text := [Nat.digitChar (n / 10 % 10), Nat.digitChar (n % 10)]

/-- The time of the day at which a file was written. -/
def timeOf (file : String) : IO Text := do
  try
    let written ← ((← IO.currentDir) / file).metadata
    let seconds := (written.modified.sec % 86400).toNat
    pure (join [':']
      [twoDigits (seconds / 3600), twoDigits (seconds / 60 % 60), twoDigits (seconds % 60)])
  catch _ => pure "00:00:00".toList

/-- Writes the file that a path leads to. -/
def writeFile (folder : Source.Folder) (path : Text) : IO Unit := do
  match folder.read path with
  | .error _ => pure ()
  | .ok content =>
    let around := (splitOn '/' path).dropLast
    unless around.isEmpty do
      IO.FS.createDirAll (String.ofList (join ['/'] around ++ ['/']))
    IO.FS.writeBinFile (String.ofList path) ⟨(content.map UInt8.ofNat).toArray⟩

/-- Carries out a command line that has been read. -/
def carryOut (options : CommandLine.Options) : IO UInt32 := do
  let files := (← readSource options.paper) ++ (← readSource options.bibliography)
  let folder : Source.Folder := { home := [], files }
  let finished := CommandLine.run (engines folder) options folder
  if finished.result.isOk then writeFile finished.folder options.output
  let time ← timeOf (String.ofList options.output)
  for line in finished.lines do
    IO.println (String.ofList (line.print time))
  match finished.result with
  | .ok status => pure status.toUInt32
  | .error failure =>
    IO.eprintln (String.ofList failure.message)
    pure 1

end PaperHtml.Program

/-- Renders the paper that the words of the command line name. -/
def main (arguments : List String) : IO UInt32 := do
  match PaperHtml.CommandLine.Options.read (arguments.map String.toList) with
  | .error .help =>
    PaperHtml.CommandLine.help.forM IO.println
    pure 0
  | .error (.misuse misuse) =>
    PaperHtml.CommandLine.usage.forM fun line => IO.eprintln line
    IO.eprintln (String.ofList (PaperHtml.CommandLine.misuseMessage misuse))
    pure 2
  | .ok options => PaperHtml.Program.carryOut options
