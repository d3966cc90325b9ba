import PaperHtml.Html.Tree

/-!
# Finding and changing elements

Elements are looked for in the order of the source: an element comes before what
is inside it.  The first element found is changed in its place, and all else
stays as it is.
-/

namespace PaperHtml.Html.Node

/-! ## The first element found -/

mutual

/-- The first element at or below a node that `p` holds of. -/
def find? (p : Tag → Bool) : Node → Option Node
  | .text _ _ => none
  | .element tag children =>
    if p tag then some (.element tag children) else findAmong? p children

/-- The first element at or below several nodes that `p` holds of. -/
def findAmong? (p : Tag → Bool) : List Node → Option Node
  | [] => none
  | node :: rest => (find? p node).or (findAmong? p rest)

end

variable {α : Type}

mutual

/-- Changes the children of the first element that `p` holds of, at or below a node.  The
change is told the names of the elements around the children, the innermost first. -/
def update? (p : Tag → Bool) (change : List Text → List Node → α × List Node)
    (around : List Text) : Node → Option (α × Node)
  | .text _ _ => none
  | .element tag children =>
    if p tag then
      let changed := change (tag.name :: around) children
      some (changed.1, .element tag changed.2)
    else
      (updateAmong? p change (tag.name :: around) children).map fun changed =>
        (changed.1, .element tag changed.2)

/-- The same, at or below several nodes. -/
def updateAmong? (p : Tag → Bool) (change : List Text → List Node → α × List Node)
    (around : List Text) : List Node → Option (α × List Node)
  | [] => none
  | node :: rest =>
    match update? p change around node with
    | some changed => some (changed.1, changed.2 :: rest)
    | none =>
      (updateAmong? p change around rest).map fun changed => (changed.1, node :: changed.2)

end

mutual

/-- The children of a node without the first element that `p` holds of. -/
def removeBelow? (p : Tag → Bool) : Node → Option Node
  | .text _ _ => none
  | .element tag children => (removeAmong? p children).map (.element tag)

/-- Several nodes without the first element, at or below them, that `p` holds of. -/
def removeAmong? (p : Tag → Bool) : List Node → Option (List Node)
  | [] => none
  | .text kind content :: rest => (removeAmong? p rest).map (.text kind content :: ·)
  | .element tag children :: rest =>
    if p tag then some rest
    else
      match removeBelow? p (.element tag children) with
      | some node => some (node :: rest)
      | none => (removeAmong? p rest).map (.element tag children :: ·)

end

/-! ## All elements -/

mutual

/-- The tags of the elements at or below a node, in order. -/
def tags : Node → List Tag
  | .text _ _ => []
  | .element tag children => tag :: tagsAmong children

/-- The tags of the elements at or below several nodes, in order. -/
def tagsAmong : List Node → List Tag
  | [] => []
  | node :: rest => tags node ++ tagsAmong rest

end

mutual

/-- Every tag at or below a node changed. -/
def mapTags (f : Tag → Tag) : Node → Node
  | .text kind content => .text kind content
  | .element tag children => .element (f tag) (mapTagsAmong f children)

/-- Every tag at or below several nodes changed. -/
def mapTagsAmong (f : Tag → Tag) : List Node → List Node
  | [] => []
  | node :: rest => mapTags f node :: mapTagsAmong f rest

end

end PaperHtml.Html.Node
