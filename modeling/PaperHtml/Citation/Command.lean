import PaperHtml.Citation.Key
import PaperHtml.Latex.Command

/-!
# Citation commands

`\cite`, `\citep` and `\citet` carry up to two notes in brackets and a list of
keys in braces.
-/

namespace PaperHtml.Citation

open Text Latex

/-- A citation command at the front of a text, by its keys. -/
def command? : Scanner (List Text) := fun t =>
  (dropCommand? "cite".toList t).bind fun rest =>
    let rest := (dropAny? [['p'], ['t']] rest).getD rest
    (argument? (dropNote (dropNote rest))).map fun found => (splitKeys found.1, found.2)

end PaperHtml.Citation
