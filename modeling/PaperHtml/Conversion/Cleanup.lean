import PaperHtml.Latex.Command
import PaperHtml.Text.Blank

/-!
# Cleaning up the source

Passes that take away what has no meaning outside a typeset page: the brackets
of a two column heading, preamble lines, labels and page commands.
-/

namespace PaperHtml.Conversion

open Text Latex

/-- Whether a line is a closing bracket with nothing but blanks behind it. -/
def isBracketLine : Text → Bool
  | ']' :: rest => isBlankText rest
  | _ => false

/-- Bracket lines made empty, together with the blank lines that follow each; `dropping`
tells that one was just met. -/
def eraseBracketLines : (dropping : Bool) → List Text → List Text
  | _, [] => []
  | dropping, line :: rest =>
    if isBracketLine line then [] :: eraseBracketLines true rest
    else if dropping && isBlankText line then eraseBracketLines true rest
    else line :: eraseBracketLines false rest

/-- The wrapper of a two column heading taken away: its opening, and every line that is
only a closing bracket. -/
def stripTwoColumn (t : Text) : Text :=
  let t := replaceAll "\\twocolumn[".toList [] t
  unlines (eraseBracketLines false (lines t))

/-- What follows a package line. -/
def dropPackageLine? (t : Text) : Option Text :=
  (dropCommand? "usepackage".toList t).bind fun rest => (cutChar? '\n' rest).map Prod.snd

/-- Package lines and bibliography commands taken away. -/
def stripPreamble (t : Text) : Text :=
  let t := Scanner.erase dropPackageLine? t
  let t := eraseArgument "bibliographystyle".toList t
  let t := eraseArgument "addbibresource".toList t
  eraseArgument "bibliography".toList t

/-- Labels taken away. -/
def stripLabels (t : Text) : Text := eraseArgument "label".toList t

/-- What follows a page command. -/
def dropPageCommand? (t : Text) : Option Text :=
  ["newpage", "clearpage", "onecolumn", "twocolumn"].firstM fun name =>
    dropWholeCommand? name.toList t

/-- Page commands taken away. -/
def stripPageCommands (t : Text) : Text := Scanner.erase dropPageCommand? t

/-- At most two line feeds of a run kept; `count` of them have been kept already. -/
def limitLineFeeds : (count : Nat) → Text → Text
  | _, [] => []
  | count, c :: rest =>
    if c = '\n' then
      if count < 2 then c :: limitLineFeeds (count + 1) rest else limitLineFeeds count rest
    else c :: limitLineFeeds 0 rest

/-- Runs of blank lines made one, and the text trimmed. -/
def collapseBlankLines (t : Text) : Text := trim (limitLineFeeds 0 t)

end PaperHtml.Conversion
