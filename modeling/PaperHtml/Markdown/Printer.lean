import PaperHtml.Html.Escape
import PaperHtml.Markdown.InlineReader
import PaperHtml.Markdown.Reader
import PaperHtml.Text.Lines

/-!
# Markdown as HTML

Blocks stand on lines of their own.  The paragraphs of a tight list are printed
without tags, so that its items are lines of text.
-/

namespace PaperHtml.Markdown

open Text

/-- A text that stands for itself in content and in attribute values. -/
def escapeText (t : Text) : Text :=
  t.flatMap fun c => if c = '\'' then [c] else Html.escapeChar c

/-- An attribute with its value. -/
def attributeText (name : String) (value : Text) : Text :=
  ' ' :: name.toList ++ "=\"".toList ++ escapeText value ++ ['"']

/-- Something between an opening and a closing tag. -/
def element (name : String) (inside : Text) : Text :=
  '<' :: name.toList ++ '>' :: inside ++ "</".toList ++ name.toList ++ ['>']

/-! ## Parts of paragraphs -/

/-- The element for a style. -/
def Style.element (style : Style) : Text → Text :=
  Markdown.element <|
    match style with
    | .emphasis _ => "em"
    | .strong => "strong"
    | .struck => "s"

mutual

/-- The words of a part, for the description of an image. -/
def Inline.words : Inline → Text
  | .text t => t
  | .lineBreak _ => ['\n']
  | .styled _ content => wordsOf content
  | .link _ _ content => wordsOf content
  | .image _ _ content => wordsOf content
  | .code _ => []
  | .html _ => []

/-- The words of several parts. -/
def wordsOf : List Inline → Text
  | [] => []
  | part :: rest => part.words ++ wordsOf rest

end

/-- The attribute for a title, if there is one. -/
def titleText (title : Text) : Text :=
  if title.isEmpty then [] else attributeText "title" title

mutual

/-- A part of a paragraph as HTML. -/
def Inline.print : Inline → Text
  | .text t => escapeText t
  | .code t => element "code" (escapeText t)
  | .html t => t
  | .lineBreak hard => if hard then "<br />\n".toList else ['\n']
  | .styled style content => style.element (printInlines content)
  | .link address title content =>
    "<a".toList ++ attributeText "href" address ++ titleText title ++ '>' ::
      printInlines content ++ "</a>".toList
  | .image address title content =>
    "<img".toList ++ attributeText "src" address ++ attributeText "alt" (wordsOf content) ++
      titleText title ++ " />".toList

/-- The parts of a paragraph as HTML. -/
def printInlines : List Inline → Text
  | [] => []
  | part :: rest => part.print ++ printInlines rest

end

/-! ## Blocks -/

/-- The language that the information behind a fence names. -/
def languageText (info : Text) : Text :=
  match words (unescape info) with
  | [] => []
  | name :: _ => attributeText "class" ("language-".toList ++ name)

/-- A cell of a table. -/
def printCell (print : Text → Text) (name : String) (alignment : Alignment) (cell : Text) :
    Text :=
  let style :=
    match alignment with
    | .none => ""
    | .left => "left"
    | .right => "right"
    | .center => "center"
  let style :=
    if style.isEmpty then [] else attributeText "style" ("text-align:".toList ++ style.toList)
  '<' :: name.toList ++ style ++ '>' :: print cell ++ "</".toList ++ name.toList ++ ">\n".toList

/-- A row of a table. -/
def printRow (print : Text → Text) (name : String) (columns : List Alignment)
    (cells : List Text) : Text :=
  "<tr>\n".toList ++ (List.zipWith (printCell print name) columns cells).flatten ++
    "</tr>\n".toList

/-- A table. -/
def printTable (print : Text → Text) (columns : List Alignment) (header : List Text)
    (rows : List (List Text)) : Text :=
  let body := rows.flatMap (printRow print "td" columns)
  "<table>\n<thead>\n".toList ++ printRow print "th" columns header ++ "</thead>\n".toList ++
    (if rows.isEmpty then [] else "<tbody>\n".toList ++ body ++ "</tbody>\n".toList) ++
    "</table>\n".toList

/-- Whether a block is a paragraph. -/
def Block.isParagraph : Block → Bool
  | .paragraph _ => true
  | _ => false

/-- Whether a block begins a line of its own behind a paragraph without tags. -/
def Block.beginsLine : Block → Bool
  | .heading .. | .rule | .quote _ | .list .. | .table .. => true
  | _ => false

/-- The name of the element for a list. -/
def ListKind.name : ListKind → String
  | .bullets => "ul"
  | .numbers _ => "ol"

/-- The attribute for the number of a list's first item, if it is not one. -/
def ListKind.startText : ListKind → Text
  | .bullets => []
  | .numbers first => if first = 1 then [] else attributeText "start" (ofNat first)

mutual

/-- A block as HTML; `print` prints the text of a paragraph. -/
def Block.print (print : Text → Text) : Block → Text
  | .paragraph t => element "p" (print t) ++ ['\n']
  | .heading level t => element ("h" ++ toString level) (print t) ++ ['\n']
  | .rule => "<hr />\n".toList
  | .code t => element "pre" (element "code" (escapeText t)) ++ ['\n']
  | .fence info t =>
    "<pre><code".toList ++ languageText info ++ '>' :: escapeText t ++ "</code></pre>\n".toList
  | .html t => t
  | .quote inside =>
    let gap := if inside.any Block.isVisible then ['\n'] else []
    element "blockquote" (gap ++ printBlocks print false false inside) ++ ['\n']
  | .list kind tight items =>
    '<' :: kind.name.toList ++ kind.startText ++ ">\n".toList ++ printItems print tight items ++
      "</".toList ++ kind.name.toList ++ ">\n".toList
  | .table columns header rows => printTable print columns header rows
  | .definition _ => []

/-- Blocks as HTML; in an item of a tight list paragraphs have no tags, and `afterText` tells
that one has just been printed. -/
def printBlocks (print : Text → Text) (tight afterText : Bool) : List Block → Text
  | [] => []
  | .paragraph t :: rest =>
    if tight then print t ++ printBlocks print tight true rest
    else Block.print print (.paragraph t) ++ printBlocks print tight false rest
  | block :: rest =>
    (if afterText && block.beginsLine then ['\n'] else []) ++ block.print print ++
      printBlocks print tight (afterText && !block.isVisible) rest

/-- The items of a list. -/
def printItems (print : Text → Text) (tight : Bool) : List (List Block) → Text
  | [] => []
  | item :: rest =>
    let gap :=
      match item.filter Block.isVisible with
      | [] => []
      | first :: _ => if tight && first.isParagraph then [] else ['\n']
    element "li" (gap ++ printBlocks print tight false item) ++ '\n' :: printItems print tight rest

end

/-- A character that may stand in a document. -/
def plainChar (c : Char) : Char := if c.toNat = 0 then Html.noCharacter else c

/-- A Markdown text as HTML. -/
def render (t : Text) : Text :=
  let document := blocks ((normalizeLineEnds t).map plainChar)
  let definitions := definitionsOf document
  printBlocks (fun text => printInlines (inlines definitions text)) false false document

end PaperHtml.Markdown
