import PaperHtml.Citation.Key
import PaperHtml.Html.Select
import PaperHtml.Text.Blank

/-!
# Citation anchors

An anchor that leads to a reference is marked as a citation and told the key it
stands for.  The key is found by the slug in its address; of several keys with
one slug the first counts.
-/

namespace PaperHtml.Reference

open Text Citation Html

/-- The beginning of the address of a reference on the page. -/
def placeMark : Text := "#ref-".toList

/-- The slug in an anchor's address, if it leads to a reference. -/
def place? (tag : Tag) : Option Text :=
  if tag.isNamed "a" then (tag.attribute? "href").bind (dropPrefix? placeMark) else none

/-- The first key with a slug. -/
def keyAt? (order : List Text) (place : Text) : Option Text :=
  order.find? fun key => slug key = place

/-- The classes of an element. -/
def classes (tag : Tag) : List Text := ((tag.attribute? "class").map words).getD []

/-- The class of citations. -/
def citationClass : Text := "citation".toList

/-- Whether an element is marked as a citation. -/
def isCitation (tag : Tag) : Bool := tag.isNamed "a" && (classes tag).contains citationClass

/-- The name of the attribute that holds the key of a citation. -/
def keyAttribute : Text := "data-cite-key".toList

/-- The key of a citation, unless it is empty. -/
def citedKey? (tag : Tag) : Option Text := tag.attributes.filled? keyAttribute

/-- An element marked as a citation. -/
def withClass (tag : Tag) : Tag :=
  if (classes tag).contains citationClass then tag
  else
    { tag with attributes :=
        tag.attributes.insert "class".toList (join [' '] (classes tag ++ [citationClass])) }

/-- A citation told its key, unless it has one. -/
def withKey (key : Option Text) (tag : Tag) : Tag :=
  match key, citedKey? tag with
  | some key, none => { tag with attributes := tag.attributes.insert keyAttribute key }
  | _, _ => tag

/-- An element marked and told its key, if it is an anchor that leads to a reference. -/
def annotateTag (order : List Text) (tag : Tag) : Tag :=
  match place? tag with
  | some place => withKey (keyAt? order place) (withClass tag)
  | none => tag

/-- All anchors that lead to a reference marked and told their keys, and their number. -/
def annotate (order : List Text) (nodes : List Node) : Nat × List Node :=
  (((Node.tagsAmong nodes).filter fun tag => (place? tag).isSome).length,
    Node.mapTagsAmong (annotateTag order) nodes)

/-- The distinct keys of the citations in a tree, added to those already known. -/
def citedKeys (known : List Text) (nodes : List Node) : List Text :=
  ((Node.tagsAmong nodes).filterMap fun tag => if isCitation tag then citedKey? tag else none).foldl
    (fun keys key => if key ∈ keys then keys else keys ++ [key]) known

end PaperHtml.Reference
