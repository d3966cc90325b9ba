import PaperHtml.Assoc
import PaperHtml.Text.Blank
import PaperHtml.Text.Digits
import PaperHtml.Text.Lowercase
import PaperHtml.Text.Utf8

/-!
# Query strings

A query string names values, with ampersands between them; the value of
`renderer` chooses how the paper is rendered.
-/

namespace PaperHtml.Source

open Text

/-- A byte written as two hexadecimal digits. -/
def hexByte? (high low : Char) : Option Byte :=
  (hexValue? high).bind fun h => (hexValue? low).map fun l => h * 16 + l

/-- Percent codes decoded; `run` holds the bytes of a stretch of ASCII in reverse order,
and `skip` counts digits of a code still to pass over. -/
def decodeFrom : (run : List Byte) → (skip : Nat) → Text → Text
  | run, _, [] => Utf8.decode run.reverse
  | run, skip + 1, _ :: rest => decodeFrom run skip rest
  | run, 0, c :: rest =>
    if c.toNat < 128 then
      match c, rest with
      | '%', high :: low :: _ =>
        match hexByte? high low with
        | some b => decodeFrom (b :: run) 2 rest
        | none => decodeFrom (c.toNat :: run) 0 rest
      | _, _ => decodeFrom (c.toNat :: run) 0 rest
    else Utf8.decode run.reverse ++ c :: decodeFrom [] 0 rest

/-- A name or a value as it is meant: a plus sign is a space, and percent codes are UTF-8. -/
def decodeComponent (t : Text) : Text :=
  decodeFrom [] 0 (t.map fun c => if c = '+' then ' ' else c)

/-- The named values of a query string that are not empty. -/
def queryValues (query : Text) : List (Text × Text) :=
  (splitOn '&' (query.dropWhile (· = '?'))).filterMap fun part =>
    match cutChar? '=' part with
    | some (name, c :: value) => some (decodeComponent name, decodeComponent (c :: value))
    | _ => none

/-- The renderer that a query string names. -/
def rendererOf? (query : Text) : Option Text :=
  Assoc.get? "renderer".toList (queryValues query)

/-- The names of renderers that go to LaTeX without trying Markdown. -/
def latexRenderers : List Text := ["latex", "latexjs", "pandoc"].map String.toList

/-- Whether a renderer goes to LaTeX without trying Markdown. -/
def forcesLatex (renderer : Option Text) : Bool :=
  latexRenderers.contains (lower (trim (renderer.getD [])))

end PaperHtml.Source
