import PaperHtml.Text.Basic

/-!
# The layout of the window

The window shows its widgets in frames, from the top to the bottom: a heading,
the two sources, the settings and actions, the progress, and the log.
-/

namespace PaperHtml.Window

/-- A widget, with what is written on it. -/
inductive Widget where
  | frame
  | label (text : String)
  | entry (hint : String)
  | button (text : String)
  | menu (choices : List String)
  | checkBox (text : String)
  | progressBar
  /-- A text that the user cannot change. -/
  | lockedText

/-- How the window looks as a whole. -/
structure Appearance where
  title : String
  width : Nat
  height : Nat
  resizesWidth : Bool
  resizesHeight : Bool
  mode : String
  colours : String

/-- The appearance of the window. -/
def appearance : Appearance where
  title := "LaTeX Paper to HTML"
  width := 960
  height := 640
  resizesWidth := true
  resizesHeight := true
  mode := "dark"
  colours := "dark-blue"

/-- The text of the buttons that choose a file. -/
def browseText : String := "Browse"

/-- The text of the button that opens the page. -/
def openText : String := "Open in Browser"

/-- The text of the button that begins rendering. -/
def renderText : String := "Render"

/-- The widgets in the order in which they are made. -/
def widgets : List Widget :=
  [.frame, .frame, .label "Paper Renderer",
    .label "Render a LaTeX paper and its bibliography to a single HTML page.", .frame,
    .entry "Paper .tex path or URL", .button browseText,
    .entry "Bibliography .bib path or URL", .button browseText, .frame,
    .menu ["auto", "latex"], .checkBox "Typeset math (MathML)", .button openText,
    .button renderText, .frame, .label "Ready", .progressBar, .lockedText]

end PaperHtml.Window
