import PaperHtml.Markdown.Block
import PaperHtml.Markdown.Start

/-!
# Tables

The second line of a table tells how its columns are aligned; the table is one
only if the first line has as many cells.
-/

namespace PaperHtml.Markdown

open Text

/-- The cells of a row; `cell` is the one that has begun, in reverse order.  A backslash makes
the bar behind it a part of the cell. -/
def cellsFrom : (cell : Text) → Text → List Text
  | cell, [] => [cell.reverse]
  | cell, '\\' :: '|' :: rest => cellsFrom ('|' :: cell) rest
  | cell, '|' :: rest => cell.reverse :: cellsFrom [] rest
  | cell, c :: rest => cellsFrom (c :: cell) rest

/-- The list without an empty text at its front. -/
def dropEmptyFront : List Text → List Text
  | [] :: rest => rest
  | cells => cells

/-- The cells of a row; the outer bars are not needed. -/
def cells (row : Text) : List Text :=
  let cells := dropEmptyFront (cellsFrom [] (trim row))
  (dropEmptyFront cells.reverse).reverse

/-- How a column is aligned, from the dashes and colons that stand for it. -/
def alignment? (t : Text) : Option Alignment :=
  let isLeft := t.head? == some ':'
  let dashes := dropOptional ':' t
  let isRight := dashes.getLast? == some ':'
  let dashes := if isRight then dashes.dropLast else dashes
  if dashes.isEmpty || !dashes.all (· == '-') then none
  else some (if isRight then if isLeft then .center else .right
    else if isLeft then .left else .none)

/-- The columns that a line of dashes, colons and bars tells of.  Nothing may stand for no
column, except in front of the first bar and behind the last. -/
def columns? (body : Text) : Option (List Alignment) :=
  let isMark (c : Char) := c == '|' || c == '-' || c == ':'
  match body with
  | c :: d :: _ =>
    if !isMark c || (c == '-' && isSpace d) || !body.all (fun e => isMark e || isSpace e) then none
    else
      let parts := (splitOn '|' (trim body)).map trim
      let inner := (dropEmptyFront (dropEmptyFront parts).reverse).reverse
      inner.mapM alignment?
  | _ => none

/-- The columns and the header of a table that a line begins, from it and the next one. -/
def Setting.tableHeader? (setting : Setting) (line : Line) :
    List Line → Option (List Alignment × List Text)
  | [] => none
  | second :: _ =>
    if setting.isOutside second || setting.isCode second || setting.isCode line then none
    else
      (columns? second.body).bind fun columns =>
        let header := cells line.body
        if !(line.body.contains '|') || header.isEmpty || header.length ≠ columns.length then none
        else some (columns, header.map trim)

/-- The rows of a table in the lines behind its header. -/
def Setting.tableRows (setting : Setting) (width : Nat) : List Line → List (List Text)
  | [] => []
  | line :: rest =>
    if setting.isOutside line || setting.endsQuote line || line.isEmpty || setting.isCode line then
      []
    else
      let row := cells line.body
      (List.range width).map (fun i => trim (row.getD i [])) :: setting.tableRows width rest

end PaperHtml.Markdown
