import Mathlib
import PaperHtml.Page.Basic
import PaperHtml.Proofs.Html.Selecting

/-!
# The frame of a page

A page that has only been changed through its parts keeps the frame of an empty
page.  What changes are five lists of nodes: the children of the head, of the
status line, of the content and of the side panel, and what has been put at the
end of the body.  `Layout.page` puts five such lists into the frame.
-/

namespace PaperHtml

open Html Html.Node

namespace Page

/-! ## Identifiers -/

/-- The identifiers of the elements that every page has. -/
def frameIds : List Text := [statusId, contentId, panelId]

/-- The identifiers that a page uses for itself. -/
def ownIds : List Text := frameIds ++ [dataId, scriptId]

/-- Whether an element has an identifier of the frame. -/
def isFrame (tag : Tag) : Bool := frameIds.any fun id => tag.hasId id

/-- Whether an element has an identifier that the page uses for itself. -/
def isOwn (tag : Tag) : Bool := ownIds.any fun id => tag.hasId id

/-- Whether an element has the identifier of the status line or of the content. -/
def isMain (tag : Tag) : Bool := tag.hasId statusId || tag.hasId contentId

/-- Whether an element is one that the page makes for itself beside its frame. -/
def isExtra (tag : Tag) : Bool := tag.hasId dataId || tag.hasId scriptId

theorem isOwn_eq (tag : Tag) : isOwn tag = (isFrame tag || isExtra tag) := by
  simp [isOwn, isFrame, isExtra, ownIds]

theorem isOwn_of_hasId {id : Text} (hid : id ∈ ownIds) {tag : Tag} (h : tag.hasId id = true) :
    isOwn tag = true :=
  List.any_eq_true.mpr ⟨id, hid, h⟩

theorem isFrame_of_hasId {id : Text} (hid : id ∈ frameIds) {tag : Tag}
    (h : tag.hasId id = true) : isFrame tag = true :=
  List.any_eq_true.mpr ⟨id, hid, h⟩

theorem isMain_of_hasId {id : Text} (hid : id ∈ [statusId, contentId]) {tag : Tag}
    (h : tag.hasId id = true) : isMain tag = true := by
  simp only [List.mem_cons, List.not_mem_nil, or_false] at hid
  rcases hid with rfl | rfl <;> simp [isMain, h]

theorem isFrame_of_isMain {tag : Tag} (h : isMain tag = true) : isFrame tag = true := by
  rcases Bool.or_eq_true _ _ ▸ h with h | h
  · exact isFrame_of_hasId (by simp [frameIds]) h
  · exact isFrame_of_hasId (by simp [frameIds]) h

/-! ## The frame -/

/-- The line feed between the elements of the frame. -/
def newline : Node := .text .prose ['\n']

/-- The tags of the frame around the parts. -/
def htmlTag : Tag := ⟨"html".toList, [("lang".toList, "en".toList)]⟩
def headTag : Tag := ⟨"head".toList, []⟩
def bodyTag : Tag := ⟨"body".toList, []⟩
def mainTag : Tag := ⟨"main".toList, []⟩

/-- The tags of the parts. -/
def statusTag : Tag := ⟨"p".toList, [("id".toList, statusId)]⟩
def contentTag : Tag := ⟨"div".toList, [("id".toList, contentId)]⟩
def panelTag : Tag := ⟨"aside".toList, [("id".toList, panelId)]⟩

/-- An element whose first attribute is its identifier. -/
theorem hasId_first (name own id : Text) (rest : Assoc Text) :
    Tag.hasId id ⟨name, ("id".toList, own) :: rest⟩ = decide (own = id) := by
  rw [Tag.hasId, Tag.attribute?, Assoc.get?, if_pos rfl]
  by_cases h : own = id <;> simp [h]

theorem hasId_around (id : Text) :
    htmlTag.hasId id = false ∧ headTag.hasId id = false ∧ bodyTag.hasId id = false ∧
      mainTag.hasId id = false := by
  have hlang : "lang".toList ≠ "id".toList := by decide
  refine ⟨?_, rfl, rfl, rfl⟩
  rw [htmlTag, Tag.hasId, Tag.attribute?, Assoc.get?, if_neg hlang]
  rfl

/-- Every part has its own identifier. -/
theorem hasId_part (id : Text) :
    statusTag.hasId id = decide (statusId = id) ∧ contentTag.hasId id = decide (contentId = id) ∧
      panelTag.hasId id = decide (panelId = id) :=
  ⟨hasId_first _ _ id [], hasId_first _ _ id [], hasId_first _ _ id []⟩

/-- The identifiers of a page differ. -/
theorem ids_differ :
    statusId ≠ contentId ∧ statusId ≠ panelId ∧ contentId ≠ panelId ∧ dataId ≠ scriptId ∧
      ∀ id ∈ [dataId, scriptId], statusId ≠ id ∧ contentId ≠ id ∧ panelId ≠ id := by
  have hnodup : ownIds.Nodup := by decide +kernel
  simp only [ownIds, frameIds, List.cons_append, List.nil_append, List.nodup_cons, List.mem_cons,
    List.not_mem_nil, or_false, not_or] at hnodup
  obtain ⟨⟨hsc, hsp, hsd, hss⟩, ⟨hcp, hcd, hcs⟩, ⟨hpd, hps⟩, hds, -⟩ := hnodup
  refine ⟨hsc, hsp, hcp, hds, ?_⟩
  intro id hid
  simp only [List.mem_cons, List.not_mem_nil, or_false] at hid
  rcases hid with rfl | rfl
  · exact ⟨hsd, hcd, hpd⟩
  · exact ⟨hss, hcs, hps⟩

end Page

open Page

/-- What is inside the frame of a page. -/
structure Layout where
  head : List Node
  status : List Node
  content : List Node
  panel : List Node
  /-- What has been put at the end of the body. -/
  tail : List Node

namespace Layout

/-- The element of the body with the status line, the content and the side panel. -/
def main (l : Layout) : List Node :=
  [newline, .element mainTag
    [newline, .element statusTag l.status, newline, .element contentTag l.content, newline],
    newline, .element panelTag l.panel, newline]

/-- The nodes of a page. -/
def nodes (l : Layout) : List Node :=
  [.text .doctype "html".toList, newline,
    .element htmlTag
      [newline, .element headTag l.head, newline, .element bodyTag (l.main ++ l.tail), newline],
    newline]

/-- The page with a layout. -/
def page (l : Layout) : Page := ⟨l.nodes⟩

/-- The head and what has been put at the end of the body. -/
def outer (l : Layout) : List Node := l.head ++ [.element bodyTag l.tail]

/-- The children of the side panel before a citation is clicked. -/
def emptyPanelNodes : List Node :=
  [.element ⟨"p".toList, [("class".toList, "detail-empty".toList)]⟩
    [.text .prose "Click a citation to see its details.".toList]]

theorem parse_emptyPanel : parse Page.emptyPanel = .ok emptyPanelNodes := by decide +kernel

end Layout

end PaperHtml
