import PaperHtml.Conversion.Cleanup
import PaperHtml.Latex.Algorithm
import PaperHtml.Latex.Figure
import PaperHtml.Latex.Theorem

/-!
# Passes into plain LaTeX

The engine for LaTeX knows the standard commands.  These passes say with them
what the paper says with its own, and take away what the page cannot show.
-/

namespace PaperHtml.Conversion.Plain

open Text Latex

/-- Pictures taken away. -/
def stripPictures (t : Text) : Text :=
  Scanner.substitute (withNotedArgument "includegraphics".toList fun _ => []) t

/-- The start of the appendix, as a section without a number. -/
def appendix (t : Text) : Text :=
  replaceAll "\\appendix".toList ("\\section*".toList ++ braced "Appendix".toList) t

/-- The environments that are flattened, with their labels. -/
def theoremKinds : List TheoremKind :=
  [⟨"theorem".toList, "Theorem.".toList⟩, ⟨"lemma".toList, "Lemma.".toList⟩,
    ⟨"corollary".toList, "Corollary.".toList⟩, ⟨"proof".toList, "Proof.".toList⟩]

/-- Theorems, by a label that heads a paragraph. -/
def theorems (t : Text) : Text :=
  flattenTheorems (fun label => "\\paragraph".toList ++ braced label) theoremKinds t

/-- An environment with its marks. -/
def inEnvironment (env inner : Text) : Text :=
  "\\begin".toList ++ braced env ++ inner ++ "\\end".toList ++ braced env

/-- Figures, as quotations of their captions. -/
def figures (t : Text) : Text :=
  renderFigures
    (fun figure => inEnvironment "quote".toList ((caption? figure).getD "Figure".toList)) t

/-- Algorithms, as verbatim blocks. -/
def algorithms (t : Text) : Text :=
  renderAlgorithms
    (fun ls => inEnvironment "verbatim".toList ('\n' :: unlines ls ++ ['\n'])) t

/-- A definition of a macro with a number of parameters. -/
def macroLine (name : Text) (parameters : Nat) (meaning : Text) : Text :=
  "\\newcommand".toList ++ braced ('\\' :: name) ++
    (if parameters = 0 then [] else '[' :: ofNat parameters ++ [']']) ++ braced meaning

/-- A command with an argument in braces. -/
def applied (name argument : Text) : Text := '\\' :: name ++ braced argument

/-- The definitions of the macros that papers use and the engine does not know. -/
def prelude : Text :=
  let parameter := "#1".toList
  unlines
    [macroLine "aistatstitle".toList 1 (applied "section*".toList parameter),
      macroLine "aistatsauthor".toList 1 [],
      macroLine "aistatsaddress".toList 1 [],
      macroLine "textproc".toList 1 (applied "texttt".toList parameter),
      macroLine "mathds".toList 1 (applied "mathbb".toList parameter),
      macroLine "citep".toList 1 "[ #1 ]".toList,
      macroLine "citet".toList 1 "[ #1 ]".toList,
      macroLine "argmax".toList 0 (applied "mathrm".toList "argmax".toList),
      macroLine "argmin".toList 0 (applied "mathrm".toList "argmin".toList),
      macroLine "logit".toList 0 (applied "mathrm".toList "logit".toList),
      macroLine "ceil".toList 1 "\\lceil #1 \\rceil".toList,
      macroLine "floor".toList 1 "\\lfloor #1 \\rfloor".toList]

/-- The macro definitions put in front. -/
def addPrelude (t : Text) : Text := prelude ++ '\n' :: t

end PaperHtml.Conversion.Plain
