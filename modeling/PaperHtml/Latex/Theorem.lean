import PaperHtml.Latex.Environment
import PaperHtml.Text.Blank

/-!
# Theorem environments

A theorem, lemma or proof is flattened: its opening mark becomes a label, with
the name in brackets if it has one, and its closing mark goes.
-/

namespace PaperHtml.Latex

open Text

/-- A kind of environment that is flattened, with its label. -/
structure TheoremKind where
  env : Text
  label : Text

/-- The label of an environment with a name: `Theorem.` and `Main` make `Theorem (Main).` -/
def namedLabel (label name : Text) : Text :=
  if name = [] then label
  else
    (label.reverse.dropWhile (· = '.')).reverse ++ [' ', '('] ++ trim name ++ [')', '.']

/-- The opening mark of an environment, by the name in its note. -/
def theoremBegin (env : Text) : Scanner Text := fun t =>
  (dropBegin? env t).map fun rest => (note? rest).getD ([], rest)

/-- One kind of environment flattened. -/
def flattenKind (render : Text → Text) (kind : TheoremKind) (t : Text) : Text :=
  let t := Scanner.substitute
    (Scanner.map (fun name => render (namedLabel kind.label name)) (theoremBegin kind.env)) t
  Scanner.erase (dropEnd? kind.env) t

/-- Several kinds of environment flattened, one after another. -/
def flattenTheorems (render : Text → Text) (kinds : List TheoremKind) (t : Text) : Text :=
  kinds.foldl (fun t kind => flattenKind render kind t) t

end PaperHtml.Latex
