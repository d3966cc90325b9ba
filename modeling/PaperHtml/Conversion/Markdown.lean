import PaperHtml.Conversion.Cleanup
import PaperHtml.Latex.Algorithm
import PaperHtml.Latex.Figure
import PaperHtml.Latex.Theorem
import PaperHtml.Math.Guard

/-!
# Passes into Markdown

Each pass turns one kind of LaTeX command into Markdown and leaves the rest
of the text alone.
-/

namespace PaperHtml.Conversion.Markdown

open Text Latex

/-! ## Titles, sections and lists -/

/-- A heading of a level. -/
def heading (level : Nat) (title : Text) : Text := List.replicate level '#' ++ ' ' :: title

/-- A text between two marks. -/
def enclose (mark t : Text) : Text := mark ++ t ++ mark

/-- The first of a command with a plain argument rendered, on a line of its own. -/
def renderFirst (name : Text) (render : Text → Text) (t : Text) : Text :=
  Scanner.substituteFirst (withArgument name fun arg => render arg ++ ['\n']) t

/-- Title and authors. -/
def titleBlock (t : Text) : Text :=
  let t := renderFirst "aistatstitle".toList (heading 1) t
  let t := renderFirst "title".toList (heading 1) t
  let t := renderFirst "aistatsauthor".toList (enclose ['*']) t
  let t := renderFirst "aistatsaddress".toList (enclose ['*']) t
  let t := renderFirst "author".toList (enclose ['*']) t
  replaceAll "\\maketitle".toList [] t

/-- The abstract, under a heading. -/
def abstractBlock (t : Text) : Text :=
  let t := replaceFirst ("\\begin".toList ++ braced "abstract".toList)
    (heading 3 "Abstract\n".toList) t
  replaceFirst ("\\end".toList ++ braced "abstract".toList) ['\n'] t

/-- Sections, one level below the title. -/
def sections (t : Text) : Text :=
  let t := Scanner.substitute (withStarredArgument "section".toList (heading 2)) t
  let t := Scanner.substitute (withStarredArgument "subsection".toList (heading 3)) t
  Scanner.substitute (withStarredArgument "subsubsection".toList (heading 4)) t

/-- What follows a mark of a list environment. -/
def dropListMark? (command : Text) (t : Text) : Option Text :=
  (dropCommand? command t).bind
    (dropAny? [braced "itemize".toList, braced "enumerate".toList])

/-- What follows the command of a list item and the blanks behind it. -/
def dropItem? (t : Text) : Option Text :=
  (dropWholeCommand? "item".toList t).map trimStart

/-- Lists, by a hyphen for each item. -/
def lists (t : Text) : Text :=
  let t := Scanner.erase (fun u => (dropListMark? "begin".toList u).map dropNote) t
  let t := Scanner.erase (dropListMark? "end".toList) t
  Scanner.substitute (fun u => (dropItem? u).map fun rest => (['-', ' '], rest)) t

/-! ## Mathematics -/

/-- A formula between two delimiters on lines of their own. -/
def displayed (opening closing : Text) (formula : Text) : Text :=
  opening ++ '\n' :: trim formula ++ '\n' :: closing

/-- The environments of displayed formulas, by their delimiters. -/
def mathEnvironments (t : Text) : Text :=
  let dollars := displayed ['$', '$'] ['$', '$']
  let t := Scanner.substitute (Scanner.map dollars (environment "equation".toList)) t
  let t := Scanner.substitute (Scanner.map dollars (environment "gather".toList)) t
  Scanner.substitute
    (Scanner.map (displayed ['\\', '['] ['\\', ']']) (environment "align".toList)) t

/-- Macros that Markdown or a formula can say otherwise. -/
def inlineMacros (t : Text) : Text :=
  let t := renderArgument "textproc".toList (enclose ['`']) t
  renderArgument "mathds".toList (fun arg => "\\mathbb".toList ++ braced arg) t

/-! ## Fonts -/

/-- The command of emphasis, under either of its names, with a plain argument. -/
def emphasis : Scanner Text := fun t =>
  ((dropCommand? "emph".toList t).or (dropCommand? "textit".toList t)).bind fun rest =>
    (argument? rest).map fun found => (enclose ['*'] found.1, found.2)

/-- Fonts and addresses of a text without formulas. -/
def styleProse (t : Text) : Text :=
  let t := renderArgument "texttt".toList (enclose ['`']) t
  let t := renderArgument "textbf".toList (enclose ['*', '*']) t
  let t := Scanner.substitute emphasis t
  renderArgument "url".toList (fun arg => '<' :: arg ++ ['>']) t

/-- A fenced block, with its fences. -/
def fence : Scanner Text := Math.delimited ['`', '`', '`'] ['`', '`', '`']

/-- Fonts and addresses, but for formulas. -/
def styleAround (t : Text) : Text :=
  let guarded := Math.guard t
  Math.restore guarded.spans (styleProse guarded.text)

/-- Every stretch of prose between fenced blocks styled; `prose` is the stretch that has
begun, in reverse order. -/
def styleStretches : (prose : Text) → List (Piece Text) → Text
  | prose, [] => styleAround prose.reverse
  | prose, .plain c :: rest => styleStretches (c :: prose) rest
  | prose, .hit block :: rest => styleAround prose.reverse ++ block ++ styleStretches [] rest

/-- Fonts and addresses, but for formulas and fenced blocks. -/
def textStyles (t : Text) : Text := styleStretches [] (Scanner.pieces fence t)

/-! ## Blocks -/

/-- Algorithms, as fenced blocks. -/
def algorithms (t : Text) : Text :=
  renderAlgorithms
    (fun ls => "\n```text\n".toList ++ unlines ls ++ "\n```\n".toList) t

/-- A figure as a quotation: its caption and its path, or the word for a figure. -/
def figureQuote (figure : Text) : Text :=
  let parts := (caption? figure).toList ++ (picture? figure).toList
  ['>', ' '] ++
    (if parts = [] then "Figure".toList else join " — ".toList parts) ++ ['\n']

/-- Figures, as quotations. -/
def figures (t : Text) : Text := renderFigures figureQuote t

/-- The environments that are flattened, with their labels. -/
def theoremKinds : List TheoremKind :=
  [⟨"lemma".toList, "Lemma.".toList⟩, ⟨"theorem".toList, "Theorem.".toList⟩,
    ⟨"corollary".toList, "Corollary.".toList⟩, ⟨"conjecture".toList, "Conjecture.".toList⟩,
    ⟨"assumption".toList, "Assumption.".toList⟩, ⟨"proof".toList, "Proof.".toList⟩]

/-- Theorems, by a label in bold type. -/
def theorems (t : Text) : Text := flattenTheorems (enclose ['*', '*']) theoremKinds t

/-- The start of the appendix, as a section. -/
def appendix (t : Text) : Text :=
  replaceAll "\\appendix".toList "\n## Appendix\n".toList t

end PaperHtml.Conversion.Markdown
