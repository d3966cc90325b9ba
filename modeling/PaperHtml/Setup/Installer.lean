import PaperHtml.Text.Quoted

/-!
# Setting up the prerequisites

The installer adds the packages of the program and then the engine for LaTeX, by
whatever package manager there is; where nothing helps it shows the way to the
engine's own page.
-/

namespace PaperHtml.Setup

open Text

/-- How a command ends. -/
inductive Ending where
  | done
  /-- The command ended with a status other than zero. -/
  | failed
  /-- There is no such command. -/
  | missing
  deriving DecidableEq

/-- The machine that the installer runs on. -/
structure Machine where
  onWindows : Bool
  /-- The programs that are found. -/
  tools : List Text
  /-- How the command of a tool ends. -/
  ending : (tool : Text) → Ending
  /-- Whether an installed program is found at once. -/
  findsInstalled : Bool

/-- What the installer has done: lines shown, commands run and pages opened; and the tool
whose absence ended it, if one did. -/
structure Record where
  lines : List Text := []
  runs : List (List Text) := []
  opened : List Text := []
  stopped : Option Text := none

/-- A record and what is to follow it. -/
def Record.append (first next : Record) : Record :=
  ⟨first.lines ++ next.lines, first.runs ++ next.runs, first.opened ++ next.opened,
    next.stopped⟩

instance : Append Record := ⟨Record.append⟩

/-- A line shown. -/
def say (line : String) : Record := { lines := lines line.toList }

/-- A command run. -/
def ran (command : List Text) : Record := { runs := [command] }

/-- Words of a command. -/
def command (words : List String) : List Text := words.map String.toList

/-- What a command reports that ended with another status than zero. -/
def failureMessage (command : List Text) : Text :=
  "Command '".toList ++ quotedList command ++ "' returned non-zero exit status 1.".toList

/-- Looks for the engine. -/
def check (isFound : Bool) : Record :=
  say "Checking for pandoc..." ++
    if isFound then say "pandoc is already installed!" else {}

/-- The package managers that are tried, with their commands; the first that is there counts. -/
def managers : List (Text × List Text) :=
  [("brew".toList, command ["brew", "install", "pandoc"]),
    ("apt-get".toList, command ["sudo", "apt-get", "install", "-y", "pandoc"]),
    ("dnf".toList, command ["sudo", "dnf", "install", "-y", "pandoc"]),
    ("pacman".toList, command ["sudo", "pacman", "-S", "--noconfirm", "pandoc"])]

/-- Installs the engine with the package manager of Windows. -/
def installOnWindows (machine : Machine) : Bool × Record :=
  let begun := say "Attempting to install pandoc using Winget..." ++
    ran (command ["winget", "install", "JohnMacFarlane.Pandoc"])
  match machine.ending "winget".toList with
  | .done => (true, begun ++ say "pandoc installed successfully via Winget.")
  | _ => (false, begun ++ say "Winget installation failed or winget is not available.")

/-- Installs the engine with the first package manager that is there. -/
def installByManager (machine : Machine) : Bool × Record :=
  match managers.find? fun manager => machine.tools.contains manager.1 with
  | none => (false, say "No supported package manager found.")
  | some (tool, words) =>
    let begun : Record :=
      { lines := ["Installing pandoc with ".toList ++ tool ++ "...".toList], runs := [words] }
    let failed (message : Text) : Bool × Record :=
      (false, begun ++ { lines := [tool ++ " failed: ".toList ++ message] })
    match machine.ending tool with
    | .done => (true, begun)
    | .failed => failed (failureMessage words)
    | .missing => failed tool

/-- Where the engine is to be had. -/
def enginePage : String := "https://pandoc.org/installing.html"

/-- Installs the engine, unless it is there. -/
def installEngine (machine : Machine) : Record :=
  let isThere := machine.tools.contains "pandoc".toList
  if isThere then check true
  else
    let (installed, record) :=
      if machine.onWindows then installOnWindows machine else installByManager machine
    let ended : Record :=
      if installed then
        check machine.findsInstalled ++
          if machine.findsInstalled then {}
          else
            say ("\nAfter installation, you may need to restart your terminal so pandoc is " ++
              "on PATH.")
      else
        say ("\nCould not install automatically. Please install pandoc manually from " ++
          enginePage) ++ { opened := [enginePage.toList] }
    check false ++
      say ("\npandoc is used for the LaTeX rendering path (the Markdown path works without " ++
        "it).") ++ record ++ ended

/-- Installs the packages of the program and the engine. -/
def install (machine : Machine) (interpreter root : Text) : Record :=
  let words := interpreter :: command ["-m", "pip", "install", "-e"] ++ [root]
  let begun := say "--- Paper Renderer Prerequisites Installer ---" ++
    say "\n--- Installing Python packages ---" ++ ran words
  match machine.ending "pip".toList with
  | .done => begun ++ installEngine machine
  | .failed =>
    begun ++ { lines := ["Warning: pip install failed: ".toList ++ failureMessage words] } ++
      installEngine machine
  | .missing => { begun with stopped := some "pip".toList }

end PaperHtml.Setup
