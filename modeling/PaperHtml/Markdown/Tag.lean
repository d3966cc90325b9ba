import PaperHtml.Text.Blank
import PaperHtml.Text.Scan

/-!
# HTML inside Markdown

Tags, comments and declarations stand in a Markdown text as they are.  What
counts as one is narrower than what a browser takes for one.
-/

namespace PaperHtml.Markdown

open Text

/-- Drops characters of a class, of which there must be one. -/
def dropSome? (p : Char → Bool) : Text → Option Text
  | c :: rest => if p c then some (rest.dropWhile p) else none
  | [] => none

/-- Drops the name of a tag. -/
def dropTagName? : Text → Option Text
  | c :: rest => if c.isAlpha then some (rest.dropWhile fun d => d.isAlphanum || d == '-') else none
  | [] => none

/-- Drops the value of an attribute. -/
def dropValue? : Text → Option Text
  | '\'' :: rest => (cutChar? '\'' rest).map Prod.snd
  | '"' :: rest => (cutChar? '"' rest).map Prod.snd
  | t =>
    dropSome? (fun c => !(c ∈ ['"', '\'', '=', '<', '>', '`']) && 32 < c.toNat) t

/-- Drops blanks and an attribute. -/
def dropAttribute? (t : Text) : Option Text :=
  (dropSome? isBlank t).bind fun
    | c :: rest =>
      if c.isAlpha || c == '_' || c == ':' then
        let after := rest.dropWhile fun d => d.isAlphanum || d ∈ [':', '.', '_', '-']
        match trimStart after with
        | '=' :: value => some ((dropValue? (trimStart value)).getD after)
        | _ => some after
      else none
    | [] => none

/-- Drops attributes, of which there are at most `fuel`. -/
def dropAttributes : (fuel : Nat) → Text → Text
  | 0, t => t
  | fuel + 1, t =>
    match dropAttribute? t with
    | some rest => dropAttributes fuel rest
    | none => t

/-- Drops an opening tag behind its bracket. -/
def dropOpenTag? (t : Text) : Option Text :=
  (dropTagName? t).bind fun rest =>
    let rest := trimStart (dropAttributes rest.length rest)
    dropPrefix? ['>'] ((dropPrefix? ['/'] rest).getD rest)

/-- Drops a closing tag behind its bracket. -/
def dropCloseTag? (t : Text) : Option Text :=
  (dropPrefix? ['/'] t).bind fun rest =>
    (dropTagName? rest).bind fun rest => dropPrefix? ['>'] (trimStart rest)

/-- Drops a tag behind its bracket. -/
def dropTag? (t : Text) : Option Text := (dropOpenTag? t).or (dropCloseTag? t)

/-- Drops what ends with a mark. -/
def dropThrough? (mark t : Text) : Option Text := (cut? mark t).map Prod.snd

/-- Drops a comment behind its bracket. -/
def dropComment? (t : Text) : Option Text :=
  (dropPrefix? "!--".toList t).bind fun rest =>
    (dropPrefix? ['>'] rest).or <|
      (dropPrefix? ['-', '>'] rest).or <| dropThrough? "-->".toList rest

/-- Drops an instruction, a declaration or character data behind its bracket. -/
def dropDeclaration? (t : Text) : Option Text :=
  match t with
  | '?' :: rest => dropThrough? "?>".toList rest
  | '!' :: c :: rest =>
    if c.isAlpha then dropThrough? ['>'] rest
    else (dropPrefix? "[CDATA[".toList (c :: rest)).bind (dropThrough? "]]>".toList)
  | _ => none

/-- HTML inside a paragraph, with its brackets. -/
def inlineHtml? : Scanner Text
  | '<' :: rest =>
    ((dropTag? rest).or <| (dropComment? rest).or (dropDeclaration? rest)).map fun after =>
      ('<' :: rest.take (rest.length - after.length), after)
  | _ => none

/-! ## HTML as a block of its own -/

/-- How a block of HTML ends: with the line that holds one of some marks, or before an
empty line. -/
inductive HtmlEnd where
  | marks (marks : List Text)
  | emptyLine
  deriving DecidableEq

/-- The tags that begin a block of HTML. -/
def blockTagNames : List Text :=
  ["address", "article", "aside", "base", "basefont", "blockquote", "body", "caption",
    "center", "col", "colgroup", "dd", "details", "dialog", "dir", "div", "dl", "dt",
    "fieldset", "figcaption", "figure", "footer", "form", "frame", "frameset", "h1", "h2", "h3",
    "h4", "h5", "h6", "head", "header", "hr", "html", "iframe", "legend", "li", "link", "main",
    "menu", "menuitem", "nav", "noframes", "ol", "optgroup", "option", "p", "param", "search",
    "section", "summary", "table", "tbody", "td", "tfoot", "th", "thead", "title", "tr",
    "track", "ul"].map String.toList

/-- The tags whose blocks end with a closing tag. -/
def rawTagNames : List Text := ["script", "pre", "style", "textarea"].map String.toList

/-- The letters and digits at the front, in lower case, and the rest. -/
def lowerName (t : Text) : Text × Text :=
  let (name, rest) := t.span Char.isAlphanum
  (name.map Char.toLower, rest)

/-- Whether a name ends where a text begins. -/
def endsName (orSlash : Bool) : Text → Bool
  | [] => true
  | c :: rest => isBlank c || c == '>' || (orSlash && c == '/' && rest.head? == some '>')

/-- How the block of HTML ends that a line begins, and whether it may follow a paragraph
without an empty line. -/
def htmlBlock? : Text → Option (HtmlEnd × Bool)
  | '<' :: t =>
    let (name, rest) := lowerName t
    let (inner, innerRest) := lowerName (dropOptional '/' t)
    if rawTagNames.contains name && endsName false rest then
      some (.marks (rawTagNames.map fun raw => '<' :: '/' :: raw ++ ['>']), true)
    else if startsWith "!--".toList t then some (.marks ["-->".toList], true)
    else if startsWith ['?'] t then some (.marks ["?>".toList], true)
    else if startsWith ['!'] t && (t.tail.head?.any Char.isAlpha) then
      some (.marks [['>']], true)
    else if startsWith "![CDATA[".toList t then some (.marks ["]]>".toList], true)
    else if blockTagNames.contains inner && endsName true innerRest then some (.emptyLine, true)
    else if (dropTag? t).any isBlankText then some (.emptyLine, false)
    else none
  | _ => none

/-- Whether a line is the last of a block of HTML. -/
def endsHtml (ending : HtmlEnd) (t : Text) : Bool :=
  match ending with
  | .marks marks => marks.any fun mark => holds mark (t.map Char.toLower) || holds mark t
  | .emptyLine => t.isEmpty

end PaperHtml.Markdown
