import PaperHtml.Text.Basic

/-!
# Line ends

Two rules about line ends.  A text read from a file has its line ends made one
(`normalizeLineEnds`), and a program's message is shown by lines (`messageLines`)
that end at any of the line separators of Unicode.
-/

namespace PaperHtml

/-- A character that ends a line of a message. -/
def isLineEnd (c : Char) : Bool :=
  let n := c.toNat
  (10 ≤ n && n ≤ 13) || (28 ≤ n && n ≤ 30) || n == 0x85 || n == 0x2028 || n == 0x2029

namespace Text

/-- Carriage returns, alone or before a line feed, made line feeds. -/
def normalizeLineEnds : Text → Text
  | [] => []
  | '\r' :: '\n' :: rest => '\n' :: normalizeLineEnds rest
  | '\r' :: rest => '\n' :: normalizeLineEnds rest
  | c :: rest => c :: normalizeLineEnds rest

/-- The lines of a message, with `line` begun; a last line that is empty is none. -/
def messageLinesFrom : (line : Text) → Text → List Text
  | [], [] => []
  | line, [] => [line.reverse]
  | line, '\r' :: '\n' :: rest => line.reverse :: messageLinesFrom [] rest
  | line, c :: rest =>
    if isLineEnd c then line.reverse :: messageLinesFrom [] rest
    else messageLinesFrom (c :: line) rest

/-- The lines of a message, at whatever separator each of them ends. -/
def messageLines (t : Text) : List Text := messageLinesFrom [] t

end Text

end PaperHtml
