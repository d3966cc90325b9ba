import PaperHtml.Text.Basic

/-!
# The blocks of a Markdown document

A document is a list of blocks.  Quotes and the items of lists hold blocks
again; the text of the other blocks is still to be read for emphasis, links and
the like.
-/

namespace PaperHtml.Markdown

/-- How the cells of a column are aligned, where the table says so. -/
inductive Alignment where
  | none
  | left
  | right
  | center
  deriving DecidableEq, Repr

/-- How the items of a list are marked. -/
inductive ListKind where
  | bullets
  | numbers (first : Nat)
  deriving DecidableEq, Repr

/-- What a link may refer to by a label. -/
structure Definition where
  label : Text
  address : Text
  title : Text
  deriving DecidableEq, Repr

/-- A block of a document. -/
inductive Block where
  | paragraph (text : Text)
  | heading (level : Nat) (text : Text)
  | rule
  /-- Code marked by its indentation. -/
  | code (text : Text)
  /-- Code between fences; the information behind the first one names its language. -/
  | fence (info : Text) (text : Text)
  | html (text : Text)
  | quote (blocks : List Block)
  /-- A list; the paragraphs of a tight one are not marked as paragraphs. -/
  | list (kind : ListKind) (tight : Bool) (items : List (List Block))
  | table (columns : List Alignment) (header : List Text) (rows : List (List Text))
  | definition (target : Definition)

/-- Whether a block shows in the page. -/
def Block.isVisible : Block → Bool
  | .definition _ => false
  | _ => true

mutual

/-- The definitions in a block, in the order of the text. -/
def Block.definitions : Block → List Definition
  | .definition target => [target]
  | .quote blocks => definitionsOf blocks
  | .list _ _ items => definitionsOfItems items
  | _ => []

/-- The definitions in several blocks. -/
def definitionsOf : List Block → List Definition
  | [] => []
  | block :: rest => block.definitions ++ definitionsOf rest

/-- The definitions in the items of a list. -/
def definitionsOfItems : List (List Block) → List Definition
  | [] => []
  | item :: rest => definitionsOf item ++ definitionsOfItems rest

end

end PaperHtml.Markdown
