import PaperHtml.Page.Basic
import PaperHtml.Reference.Anchor
import PaperHtml.Reference.Detail

/-!
# The side panel

A click on a citation shows the details of its reference in the side panel.  The
page also carries all details along in templates, with a script that does the
same in a browser.
-/

namespace PaperHtml

open Html

/-- The references whose details can be shown, and the keys of the citations that have been
found in the content, in order. -/
structure Panel where
  references : Assoc Citation.Reference
  handlers : List Text

namespace Panel

/-- A panel for references, with no citation found yet. -/
def ofReferences (references : List Citation.Reference) : Panel :=
  ⟨Assoc.ofList (references.map fun reference => (reference.key, reference)), []⟩

/-- What the panel shows for a key. -/
def detailFor (panel : Panel) (key : Text) : Text :=
  match panel.references.get? key with
  | some reference => Reference.detail reference
  | none => Reference.notFound key

/-- The details of a reference in a template. -/
def template (key : Text) (reference : Citation.Reference) : Text :=
  "<template data-cite-detail=\"".toList ++ escape key ++ "\">".toList ++
    Reference.detail reference ++ "</template>".toList

/-- The details of all references for the browser. -/
def dataBlock (panel : Panel) : Text :=
  "<div id=\"citation-detail-data\" hidden>".toList ++
    panel.references.flatMap (fun entry => template entry.1 entry.2) ++ "</div>".toList

/-- The script for the browser in its element. -/
def scriptBlock : Text :=
  "<script id=\"citation-detail-script\">".toList ++ Page.panelScript ++ "</script>".toList

/-- The details put into the page anew, and the script unless it is there. -/
def embed (panel : Panel) (page : Page) : Page :=
  let page := (page.remove Page.dataId).appendBody panel.dataBlock
  if (page.find? Page.scriptId).isSome then page else page.appendBody scriptBlock

/-- The citations in the content found, and the details put into the page. -/
def attach (panel : Panel) (page : Page) : Panel × Page :=
  let handlers := Reference.citedKeys panel.handlers (page.childrenOf Page.contentId)
  ({ panel with handlers }, panel.embed page)

/-- The details for a key shown, as after a click on its citation. -/
def click (panel : Panel) (key : Text) (page : Page) : Page :=
  page.setPanel (panel.detailFor key)

end Panel

end PaperHtml
