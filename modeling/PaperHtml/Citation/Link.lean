import PaperHtml.Citation.Numbering
import PaperHtml.Html.Escape

/-!
# Citation links

A citation command becomes links to its references, in the form that the text
around it calls for.  A key without a number becomes plain text.
-/

namespace PaperHtml.Citation

open Text

/-- The form of a text that citations stand in. -/
inductive LinkStyle where
  | markdown
  | latex
  deriving DecidableEq

/-- The link to the reference with a key. -/
def link (style : LinkStyle) (key place : Text) (number : Option Int) : Text :=
  match style, number with
  | .markdown, none => Html.escape key
  | .markdown, some n =>
    "<a class=\"citation\" href=\"#ref-".toList ++ place ++ "\" data-cite-key=\"".toList ++
      Html.escape key ++ "\">".toList ++ mark n ++ "</a>".toList
  | .latex, none => key
  | .latex, some n => "\\href".toList ++ braced ("#ref-".toList ++ place) ++ braced (mark n)

/-- The links of one citation command. -/
def linkKeys (style : LinkStyle) (numbers : Numbering) (keys : List Text) : Text :=
  join [';', ' '] (keys.map fun key => link style key (slug key) (numbers.get? key))

/-- Every citation command made links. -/
def linkAll (style : LinkStyle) (numbers : Numbering) (t : Text) : Text :=
  Scanner.substitute (Scanner.map (linkKeys style numbers) command?) t

end PaperHtml.Citation
