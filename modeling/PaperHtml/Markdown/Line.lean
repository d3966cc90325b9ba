import PaperHtml.Text.Blank

/-!
# Lines of a Markdown text

A line is a lead of spaces and tabs and a body.  Its indentation is the number
of columns of the lead, with tab stops at every fourth column of the whole text;
so a line that has lost the mark of a block it stands in remembers the column at
which its lead begins.
-/

namespace PaperHtml.Markdown

open Text

/-- A line of a Markdown text. -/
structure Line where
  /-- The column of the whole text at which the lead begins. -/
  column : Nat
  /-- The spaces and tabs at the front. -/
  lead : Text
  body : Text
  /-- The columns of the lead; negative for a line that only continues a paragraph. -/
  indent : Int
  /-- Whether a line feed ends the line. -/
  ended : Bool

/-- A space or a tab. -/
def isSpace (c : Char) : Bool := c == ' ' || c == '\t'

/-- The column behind a space or a tab that stands at a column. -/
def nextColumn (column : Nat) (c : Char) : Nat :=
  if c = '\t' then column + (4 - column % 4) else column + 1

/-- The column behind a lead that begins at a column. -/
def columnAfter (column : Nat) (lead : Text) : Nat := lead.foldl nextColumn column

/-- A line from its text and the column at which it begins. -/
def Line.ofText (column : Nat) (t : Text) (ended : Bool) : Line :=
  let (lead, body) := t.span isSpace
  ⟨column, lead, body, columnAfter column lead - column, ended⟩

/-- Whether a line holds nothing but its lead. -/
def Line.isEmpty (line : Line) : Bool := line.body.isEmpty

/-- The lead without a number of columns; the rest of a tab that is cut becomes spaces. -/
def dropColumns : (column : Nat) → (count : Nat) → Text → Text
  | _, _, [] => []
  | _, 0, lead => lead
  | column, count + 1, c :: rest =>
    let width := nextColumn column c - column
    if width ≤ count + 1 then dropColumns (column + width) (count + 1 - width) rest
    else List.replicate (width - (count + 1)) ' ' ++ rest

/-- The text of a line without a number of columns of its lead. -/
def Line.cut (count : Nat) (line : Line) : Text :=
  dropColumns line.column count line.lead ++ line.body

/-- The lines of a text.  A line feed at the end begins no further line. -/
def linesOf (t : Text) : List Line :=
  let ls := lines t
  match ls.reverse with
  | [] :: rest => rest.reverse.map fun l => Line.ofText 0 l true
  | last :: rest =>
    (rest.reverse.map fun l => Line.ofText 0 l true) ++ [Line.ofText 0 last false]
  | [] => []

/-- The text of several lines, each without a number of columns of its lead, with their line
feeds; `keepLast` keeps that of the last line too. -/
def textOf (count : Nat) (keepLast : Bool) : List Line → Text
  | [] => []
  | [line] => line.cut count ++ if keepLast && line.ended then ['\n'] else []
  | line :: rest => line.cut count ++ '\n' :: textOf count keepLast rest

end PaperHtml.Markdown
