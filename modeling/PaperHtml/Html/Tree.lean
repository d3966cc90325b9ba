import PaperHtml.Assoc

/-!
# The tree of a page

A page is a tree of elements and texts.  Texts differ in what they are: prose is
what a reader sees, and all else (scripts, comments, declarations) is carried
along untouched.
-/

namespace PaperHtml.Html

/-- What a text on a page is. -/
inductive TextKind where
  /-- Text of the page itself. -/
  | prose
  /-- Text of a script, a style sheet, a template or a ruby annotation. -/
  | embedded
  | comment
  | doctype
  | instruction
  | characterData
  | declaration
  deriving DecidableEq

/-- The name of an element with its attributes. -/
structure Tag where
  name : Text
  attributes : Assoc Text
  deriving DecidableEq

/-- A node of a page. -/
inductive Node where
  | text (kind : TextKind) (content : Text)
  | element (tag : Tag) (children : List Node)

namespace Tag

/-- The value of an attribute. -/
def attribute? (name : String) (tag : Tag) : Option Text := tag.attributes.get? name.toList

/-- Whether the element has a name. -/
def isNamed (name : String) (tag : Tag) : Bool := tag.name == name.toList

/-- Whether the element has an identifier. -/
def hasId (id : Text) (tag : Tag) : Bool := tag.attribute? "id" == some id

end Tag

/-- The names of the elements that never hold anything. -/
def voidNames : List Text :=
  ["area", "base", "br", "col", "embed", "hr", "img", "input", "keygen", "link", "menuitem",
    "meta", "param", "source", "track", "wbr", "basefont", "bgsound", "command", "frame",
    "image", "isindex", "nextid", "spacer"].map String.toList

/-- Whether an element of a name never holds anything. -/
def isVoid (name : Text) : Bool := voidNames.contains name

namespace Node

/-! ## Equality -/

mutual

/-- Whether two nodes are the same. -/
def decEq : (a b : Node) → Decidable (a = b)
  | .text kind content, .text kind' content' =>
    decidable_of_iff (kind = kind' ∧ content = content') (by simp)
  | .element tag children, .element tag' children' =>
    have := decEqAll children children'
    decidable_of_iff (tag = tag' ∧ children = children') (by simp)
  | .text _ _, .element _ _ => isFalse (by simp)
  | .element _ _, .text _ _ => isFalse (by simp)

/-- Whether two lists of nodes are the same. -/
def decEqAll : (as bs : List Node) → Decidable (as = bs)
  | [], [] => isTrue rfl
  | a :: as, b :: bs =>
    have := decEq a b
    have := decEqAll as bs
    decidable_of_iff (a = b ∧ as = bs) (by simp)
  | [], _ :: _ => isFalse (by simp)
  | _ :: _, [] => isFalse (by simp)

end

instance : DecidableEq Node := decEq

/-! ## Text of a tree -/

mutual

/-- All text below a node, whatever its kind. -/
def textContent : Node → Text
  | .text _ content => content
  | .element _ children => textContents children

/-- All text below several nodes. -/
def textContents : List Node → Text
  | [] => []
  | node :: rest => textContent node ++ textContents rest

end

end Node

end PaperHtml.Html
