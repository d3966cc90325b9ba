import PaperHtml.Html.Tree

/-!
# Writing a page

A tree is written with its attributes in the order of their names, every
attribute with a value, and only those characters escaped that would be read as
markup.
-/

namespace PaperHtml.Html

open Text

/-- A character of running text. -/
def escapeMarkupChar : Char → Text
  | '&' => "&amp;".toList
  | '<' => "&lt;".toList
  | '>' => "&gt;".toList
  | c => [c]

/-- Running text. -/
def escapeMarkup (t : Text) : Text := t.flatMap escapeMarkupChar

/-- A value in quotation marks: double ones, unless it holds some of them and no single one. -/
def quoteValue (value : Text) : Text :=
  let value := escapeMarkup value
  if value.contains '"' then
    if value.contains '\'' then
      '"' :: value.flatMap (fun c => if c = '"' then "&quot;".toList else [c]) ++ ['"']
    else '\'' :: value ++ ['\'']
  else '"' :: value ++ ['"']

/-- Whether a name comes before another or is the same. -/
def nameLe : Text → Text → Bool
  | [], _ => true
  | _ :: _, [] => false
  | a :: as, b :: bs => if a = b then nameLe as bs else a < b

/-- The attributes of an element, sorted by name. -/
def printAttributes (attributes : Assoc Text) : Text :=
  (attributes.mergeSort fun a b => nameLe a.1 b.1).flatMap fun p =>
    ' ' :: p.1 ++ '=' :: quoteValue p.2

/-- The elements whose text is written as it is. -/
def isRawParent (name : Text) : Bool := name = "script".toList || name = "style".toList

/-- A text of a kind; `raw` tells that it stands in a script or a style sheet. -/
def printText (raw : Bool) : TextKind → Text → Text
  | .prose, t | .embedded, t => if raw then t else escapeMarkup t
  | .comment, t => "<!--".toList ++ t ++ "-->".toList
  | .doctype, t => "<!DOCTYPE ".toList ++ t ++ ">\n".toList
  | .instruction, t => "<?".toList ++ t ++ ">".toList
  | .characterData, t => "<![CDATA[".toList ++ t ++ "]]>".toList
  | .declaration, t => "<?".toList ++ t ++ "?>".toList

mutual

/-- A node written; `raw` tells that it stands in a script or a style sheet. -/
def Node.print (raw : Bool) : Node → Text
  | .text kind content => printText raw kind content
  | .element tag children =>
    let start := '<' :: tag.name ++ printAttributes tag.attributes
    if isVoid tag.name && children.isEmpty then start ++ ['/', '>']
    else
      start ++ '>' :: Node.printAll (isRawParent tag.name) children ++
        '<' :: '/' :: tag.name ++ ['>']

/-- Several nodes written. -/
def Node.printAll (raw : Bool) : List Node → Text
  | [] => []
  | node :: rest => Node.print raw node ++ Node.printAll raw rest

end

/-- A page written. -/
def print (nodes : List Node) : Text := Node.printAll false nodes

end PaperHtml.Html
