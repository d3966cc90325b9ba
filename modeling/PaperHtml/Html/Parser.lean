import PaperHtml.Html.Token
import PaperHtml.Text.Blank

/-!
# Building the tree

The tokens of a source make a tree.  No end tag is implied by another tag: an end
tag closes the elements up to the nearest open one of its name and is ignored if
there is none, and what is still open at the end is closed there.  A source with
something in it that cannot be read makes no tree.

## Strategy

A builder holds the children of every open element, the innermost first, and the
text that has been read since the last tag.  A text that is nothing but ASCII
blanks is shortened to a line feed or a space.
-/

namespace PaperHtml.Html

open Text

/-- An element whose end has not been read, with its children so far in reverse order. -/
structure Opened where
  tag : Tag
  children : List Node

/-- The state of building: the text read since the last tag, the open elements from the
innermost on, and the finished nodes outside of all elements in reverse order. -/
structure Builder where
  pending : Text := []
  opened : List Opened := []
  done : List Node := []
  /-- The names of void elements whose end tag, if it comes, is passed over. -/
  closedVoids : List Text := []
  /-- Why the source has been rejected, if it has been. -/
  rejected : Option Rejection := none

namespace Builder

/-- The elements whose texts are not prose. -/
def embeddingNames : List Text :=
  ["script", "style", "template", "rt", "rp"].map String.toList

/-- The elements that keep their blanks. -/
def blankKeepingNames : List Text := ["pre", "textarea"].map String.toList

/-- Whether an element with one of the names is open. -/
def isInside (names : List Text) (b : Builder) : Bool :=
  b.opened.any fun o => names.contains o.tag.name

/-- A blank of the ASCII class. -/
def isAsciiBlank (c : Char) : Bool := c ∈ [' ', '\n', '\t', Char.ofNat 12, '\r']

/-- A text as it is kept: one that is all ASCII blanks becomes a line feed or a space. -/
def kept (b : Builder) (content : Text) : Text :=
  if !b.isInside blankKeepingNames && content.all isAsciiBlank then
    if content.contains '\n' then ['\n'] else [' ']
  else content

/-- A node put into the innermost open element. -/
def add (node : Node) (b : Builder) : Builder :=
  match b.opened with
  | [] => { b with done := node :: b.done }
  | o :: rest => { b with opened := { o with children := node :: o.children } :: rest }

/-- The text read since the last tag made a node. -/
def flush (b : Builder) : Builder :=
  if b.pending = [] then b
  else
    let kind := if b.isInside embeddingNames then TextKind.embedded else .prose
    add (.text kind (b.kept b.pending)) { b with pending := [] }

/-- The innermost open element closed. -/
def close (b : Builder) : Builder :=
  match b.opened with
  | [] => b
  | o :: rest => add (.element o.tag o.children.reverse) { b with opened := rest }

/-- The innermost open elements closed, a number of them. -/
def closeMany : Nat → Builder → Builder
  | 0, b => b
  | n + 1, b => closeMany n b.close

/-- The elements up to the nearest open one of a name closed, if there is one. -/
def closeTo (name : Text) (b : Builder) : Builder :=
  match b.opened.findIdx? fun o => o.tag.name = name with
  | some i => closeMany (i + 1) b
  | none => b

/-! ## Attributes -/

/-- The elements and attributes whose value is a list of words. -/
def isWordList (element name : Text) : Bool :=
  let among (names : List String) (t : Text) : Bool := names.contains (String.ofList t)
  among ["class", "accesskey", "dropzone"] name ||
    (among ["a", "link"] element && among ["rel", "rev"] name) ||
    (among ["td", "th"] element && among ["headers"] name) ||
    (among ["form"] element && among ["accept-charset"] name) ||
    (among ["object"] element && among ["archive"] name) ||
    (among ["area"] element && among ["rel"] name) ||
    (among ["icon"] element && among ["sizes"] name) ||
    (among ["iframe"] element && among ["sandbox"] name) ||
    (among ["output"] element && among ["for"] name)

/-- An attribute value as it is kept: lists of words have one space between two words,
and the page is always written in UTF-8. -/
def keptValue (element name value : Text) : Text :=
  if isWordList element name then join [' '] (words value)
  else if element = "meta".toList ∧ name = "charset".toList then "utf-8".toList
  else value

/-! ## Tokens -/

/-- One token taken in. -/
def take (b : Builder) : Token → Builder
  | .text content => { b with pending := b.pending ++ content }
  | .markup kind content =>
    let b := b.flush
    b.add (.text kind (b.kept content))
  | .startTag start =>
    let b := b.flush
    let attributes := start.attributes.map fun p => (p.1, keptValue start.name p.1 p.2)
    let tag : Tag := ⟨start.name, attributes⟩
    if start.closed then b.add (.element tag [])
    else if isVoid start.name then
      { b.add (.element tag []) with closedVoids := start.name :: b.closedVoids }
    else { b with opened := ⟨tag, []⟩ :: b.opened }
  | .endTag name =>
    -- the end tag of an element that was closed at its start closes no other one
    if b.closedVoids.contains name then { b with closedVoids := b.closedVoids.erase name }
    else b.flush.closeTo name
  | .rejected why => { b with rejected := some why }

/-- The nodes built, with everything open closed. -/
def finish (b : Builder) : List Node :=
  let b := b.flush
  (closeMany b.opened.length b).done.reverse

end Builder

/-- The nodes of a page or of a part of one, or why its source is rejected. -/
def parse (source : Text) : Except Rejection (List Node) :=
  let built := (tokens source).foldl Builder.take {}
  match built.rejected with
  | some why => .error why
  | none => .ok built.finish

/-- The nodes that a source adds to a page: none, if it is rejected. -/
def parsed (source : Text) : List Node := (parse source).toOption.getD []

/-- A source that is read adds its nodes. -/
theorem parsed_of_parse {source : Text} {nodes : List Node} (h : parse source = .ok nodes) :
    parsed source = nodes := by
  simp [parsed, h, Except.toOption]

/-- A source that is rejected adds nothing. -/
theorem parsed_of_rejected {source : Text} {why : Rejection} (h : parse source = .error why) :
    parsed source = [] := by
  simp [parsed, h, Except.toOption]

end PaperHtml.Html
