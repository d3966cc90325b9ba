import PaperHtml.Html.Parser
import PaperHtml.Html.Printer
import PaperHtml.Html.Select
import PaperHtml.Page.Template

/-!
# The page of a paper

A page has a status line, the content and a side panel.  Each of them is the
first element of the page with its identifier, wherever that stands.  Source
that is rejected adds nothing to a page.
-/

namespace PaperHtml

open Html

/-- The page of a paper, as a tree. -/
structure Page where
  nodes : List Node

namespace Page

/-! ## The parts of a page -/

/-- The identifier of the status line. -/
def statusId : Text := "paper-status".toList

/-- The identifier of the content. -/
def contentId : Text := "paper-content".toList

/-- The identifier of the side panel. -/
def panelId : Text := "citation-detail".toList

/-- The identifier of the details kept for the browser. -/
def dataId : Text := "citation-detail-data".toList

/-- The identifier of the script for the browser. -/
def scriptId : Text := "citation-detail-script".toList

/-- An empty page with a title. -/
def empty (title : Text) : Page := ⟨parsed (frame title)⟩

/-- The first element with an identifier. -/
def find? (id : Text) (page : Page) : Option Node := Node.findAmong? (Tag.hasId id) page.nodes

/-- The children of the first element with an identifier. -/
def childrenOf (id : Text) (page : Page) : List Node :=
  match page.find? id with
  | some (.element _ children) => children
  | _ => []

/-- The element with an identifier, written. -/
def printPart (id : Text) (page : Page) : Text :=
  match page.find? id with
  | some node => node.print false
  | none => []

/-- The whole page, written. -/
def print (page : Page) : Text := Html.print page.nodes

/-! ## Changing the page -/

/-- The children of the first element that `p` holds of changed, with what the change says. -/
def change {α : Type} (p : Tag → Bool) (f : List Text → List Node → α × List Node)
    (page : Page) : Option α × Page :=
  match Node.updateAmong? p f [] page.nodes with
  | some (a, nodes) => (some a, ⟨nodes⟩)
  | none => (none, page)

/-- The children of the first element that `p` holds of changed. -/
def modify (p : Tag → Bool) (f : List Node → List Node) (page : Page) : Page :=
  (page.change p fun _ children => ((), f children)).2

/-- The page without the first element with an identifier. -/
def remove (id : Text) (page : Page) : Page :=
  match Node.removeAmong? (Tag.hasId id) page.nodes with
  | some nodes => ⟨nodes⟩
  | none => page

/-- The status line set. -/
def setStatus (status : Text) : Page → Page :=
  modify (Tag.hasId statusId) fun _ => [.text .prose status]

/-- The content taken away. -/
def clearContent : Page → Page := modify (Tag.hasId contentId) fun _ => []

/-- Source parsed and put behind the content. -/
def appendContent (source : Text) : Page → Page :=
  modify (Tag.hasId contentId) fun children => children ++ parsed source

/-- The content replaced. -/
def setContent (source : Text) (page : Page) : Page := page.clearContent.appendContent source

/-- The side panel filled. -/
def setPanel (source : Text) : Page → Page :=
  modify (Tag.hasId panelId) fun _ => parsed source

/-- Source parsed and put at the end of the head. -/
def appendHead (source : Text) : Page → Page :=
  modify (Tag.isNamed "head") fun children => children ++ parsed source

/-- Source parsed and put at the end of the body. -/
def appendBody (source : Text) : Page → Page :=
  modify (Tag.isNamed "body") fun children => children ++ parsed source

/-- The side panel as on an empty page, and the details kept for the browser dropped. -/
def resetPanel (page : Page) : Page := (page.setPanel emptyPanel).remove dataId

/-- The content replaced by a message that the paper could not be loaded. -/
def showError (message : Text) : Page → Page :=
  setContent <|
    "<div class=\"error\">Could not load paper: ".toList ++ Html.escape message ++
      "</div>".toList

end Page

end PaperHtml
