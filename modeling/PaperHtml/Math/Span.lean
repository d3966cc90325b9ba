import PaperHtml.Text.Blank
import PaperHtml.Text.Scan

/-!
# Formulas in the text of a page

A formula stands between two dollars of one line, between `$$` pairs, or between
a backslash bracket or a backslash parenthesis and its counterpart.  It is never
empty.
-/

namespace PaperHtml.Math

open Text

/-- A formula found in a text. -/
structure Span where
  /-- The formula with its delimiters. -/
  source : Text
  /-- The formula between its delimiters, trimmed. -/
  formula : Text
  /-- Whether the formula is set on a line of its own. -/
  display : Bool
  deriving DecidableEq

/-- A formula up to the first closing delimiter behind its first character. -/
def delimitedSpan (display : Bool) (opening closing : Text) : Scanner Span := fun t =>
  match dropPrefix? opening t with
  | some (c :: rest) =>
    (cut? closing rest).map fun found =>
      (⟨opening ++ c :: found.1 ++ closing, trim (c :: found.1), display⟩, found.2)
  | _ => none

/-- A formula between two dollars of one line. -/
def inlineSpan : Scanner Span
  | '$' :: rest =>
    let inner := rest.takeWhile fun c => c ≠ '$' ∧ c ≠ '\n'
    match inner, rest.drop inner.length with
    | _ :: _, '$' :: after => some (⟨'$' :: inner ++ ['$'], trim inner, false⟩, after)
    | _, _ => none
  | _ => none

/-- A formula at the front of a text, by the first delimiters that fit. -/
def span? : Scanner Span := fun t =>
  (delimitedSpan true ['$', '$'] ['$', '$'] t).or <|
    (delimitedSpan true ['\\', '['] ['\\', ']'] t).or <|
      (delimitedSpan false ['\\', '('] ['\\', ')'] t).or (inlineSpan t)

/-- The formulas of a text. -/
def spans (t : Text) : List Span := Scanner.findAll span? t

end PaperHtml.Math
