import PaperHtml.Text.Basic

/-!
# The parts of a paragraph

The text of a paragraph, a heading or a cell is a list of parts.  Styled parts
and links hold parts again.
-/

namespace PaperHtml.Markdown

/-- How a stretch of text is set off. -/
inductive Style where
  /-- Set off by one mark, which may be an asterisk or an underscore. -/
  | emphasis (mark : Char)
  | strong
  | struck
  deriving DecidableEq, Repr

/-- A part of a paragraph. -/
inductive Inline where
  | text (text : Text)
  | code (text : Text)
  | html (text : Text)
  | lineBreak (hard : Bool)
  | styled (style : Style) (content : List Inline)
  | link (address title : Text) (content : List Inline)
  | image (address title : Text) (content : List Inline)

/-- The parts set off by one more mark.  What two marks of a kind set off is strong. -/
def Inline.emphasized (mark : Char) (content : List Inline) : Inline :=
  match content with
  | [.styled (.emphasis inner) inside] =>
    if inner = mark then .styled .strong inside else .styled (.emphasis mark) content
  | _ => .styled (.emphasis mark) content

end PaperHtml.Markdown
