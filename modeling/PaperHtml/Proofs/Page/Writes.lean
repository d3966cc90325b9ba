import Mathlib
import PaperHtml.Proofs.Html.Printing
import PaperHtml.Proofs.Page.Empty
import PaperHtml.Proofs.Page.Steady

/-!
# Writing to the side panel

The content of a page is filled with fragments of any kind, and so is its side
panel.  The panel and the details for the browser are the first elements with
their identifiers, so a fragment in the content that has one of them is written
to in their place.  Otherwise writing to the panel leaves the content alone.

## Strategy

Whatever is done with the content and with the panel, the head stays as it was
on the empty page, nothing comes into the status line, and the end of the body
has details and scripts of the page only (`Bare`).  One operation keeps this
(`Bare.exists_apply`), and so any number of them.  On such a layout a write goes to
the content or to the panel, depending on what the content has.  That a write to
the content can be seen there is told by the length of what is written.
-/

namespace PaperHtml

open Html Html.Node Page

namespace Page

/-- Something done with the content or with the side panel of a page. -/
inductive Operation where
  | setContent (source : Text)
  | appendContent (source : Text)
  | setPanel (source : Text)
  | resetPanel
  | attach (panel : Panel)
  | click (panel : Panel) (key : Text)

namespace Operation

/-- The page after an operation. -/
def apply : Operation → Page → Page
  | .setContent source, page => page.setContent source
  | .appendContent source, page => page.appendContent source
  | .setPanel source, page => page.setPanel source
  | .resetPanel, page => page.resetPanel
  | .attach panel, page => (panel.attach page).2
  | .click panel key, page => panel.click key page

/-- Whether an operation is for the side panel alone. -/
def isForPanel : Operation → Bool
  | .setPanel _ | .resetPanel | .click _ _ => true
  | .setContent _ | .appendContent _ | .attach _ => false

end Operation

/-- The page with a title after some operations. -/
def after (title : Text) (operations : List Operation) : Page :=
  operations.foldl (fun page operation => operation.apply page) (Page.empty title)

/-- Whether an element is taken for the side panel or for the details for the browser. -/
def isPanelOrData (tag : Tag) : Bool := tag.hasId panelId || tag.hasId dataId

theorem without_isPanelOrData {nodes : List Node} :
    Without isPanelOrData nodes ↔
      Without (Tag.hasId panelId) nodes ∧ Without (Tag.hasId dataId) nodes := by
  simp only [Without, isPanelOrData, List.any_eq_false, Bool.or_eq_true, not_or]
  exact forall₂_and

end Page

namespace Layout

/-- Nodes that a page puts at the end of its body by itself. -/
def IsOwnBlock (node : Node) : Prop :=
  node = Panel.scriptNode ∨ ∃ panel, node = Panel.dataNode panel

/-- Only the content and the side panel have been filled from outside. -/
structure Bare (title : Text) (l : Layout) : Prop where
  head : l.head = emptyHead title
  status : l.status = []
  tail : ∀ node ∈ l.tail, IsOwnBlock node

variable {l : Layout} {title : Text}

theorem Bare.head_without (h : l.Bare title) {id : Text} (hid : id ∈ ownIds) :
    Without (Tag.hasId id) l.head := by
  rw [h.head]
  exact (without_append.mp (without_isOwn_empty title)).1.mono fun _ => isOwn_of_hasId hid

theorem Bare.status_without (h : l.Bare title) (id : Text) : Without (Tag.hasId id) l.status := by
  rw [h.status]
  exact without_nil

theorem Bare.apart (h : l.Bare title) : l.Apart := by
  constructor
  · rw [h.head]
    exact (sound_empty title).apart.head
  · rw [h.status]
    exact without_nil

theorem Bare.with_content (h : l.Bare title) (content : List Node) :
    { l with content := content }.Bare title :=
  ⟨h.head, h.status, h.tail⟩

theorem Bare.with_panel (h : l.Bare title) (panel : List Node) :
    { l with panel := panel }.Bare title :=
  ⟨h.head, h.status, h.tail⟩

theorem bare_empty (title : Text) : (empty title).Bare title :=
  ⟨rfl, rfl, by simp [empty]⟩

/-! ## One operation -/

theorem Bare.exists_setPanel (h : l.Bare title) (source : Text) :
    ∃ l' : Layout, l.page.setPanel source = l'.page ∧ l'.Bare title := by
  obtain ⟨u, l', hupdate, hhead, htail, hstatus, -⟩ :=
    @exists_updateAmong?_panel l Unit (fun _ _ => ((), parsed source))
      (h.head_without (by simp [ownIds, frameIds]))
  refine ⟨l', modify_page ⟨u, hupdate⟩, hhead.trans h.head, ?_, htail ▸ h.tail⟩
  exact (hstatus (h.status_without panelId)).trans h.status

/-- Only details are taken away from the end of the body. -/
theorem isOwnBlock_of_removeAmong? {tail tail' : List Node} (h : ∀ node ∈ tail, IsOwnBlock node)
    (hremove : removeAmong? (Tag.hasId dataId) tail = some tail') :
    ∀ node ∈ tail', IsOwnBlock node := by
  induction tail generalizing tail' with
  | nil => cases hremove
  | cons node rest ih =>
      obtain ⟨hnode, hrest⟩ := List.forall_mem_cons.mp h
      rcases hnode with rfl | ⟨panel, rfl⟩
      · have hscript : removeAmong? (Tag.hasId dataId) [Panel.scriptNode] = none := by
          apply Without.removeAmong?_eq_none
          apply without_of_countP_eq_zero
          rw [Panel.countP_scriptNode, if_neg ids_differ.2.2.2.1.symm]
        rw [← List.singleton_append, removeAmong?_append, hscript] at hremove
        obtain ⟨found, hfound, rfl⟩ := Option.map_eq_some_iff.mp hremove
        exact List.forall_mem_cons.mpr ⟨.inl rfl, ih hrest hfound⟩
      · have hdata : Panel.dataTag.hasId dataId = true := by simp [Panel.hasId_dataTag]
        rw [Panel.dataNode, removeAmong?_element, if_pos hdata] at hremove
        cases hremove
        exact hrest

theorem Bare.exists_remove (h : l.Bare title) :
    ∃ l' : Layout, l.page.remove dataId = l'.page ∧ l'.Bare title := by
  have hhead : removeAmong? (Tag.hasId dataId) l.head = none :=
    (h.head_without (by simp [ownIds])).removeAmong?_eq_none
  simp only [Page.remove, page, removeAmong?_nodes (h.status_without dataId), hhead,
    Option.map_none, Option.none_or]
  cases removeAmong? (Tag.hasId dataId) l.content with
  | some content => exact ⟨{ l with content }, rfl, h.with_content content⟩
  | none =>
      cases removeAmong? (Tag.hasId dataId) l.panel with
      | some panel => exact ⟨{ l with panel }, rfl, h.with_panel panel⟩
      | none =>
          cases htail : removeAmong? (Tag.hasId dataId) l.tail with
          | some tail =>
              exact ⟨{ l with tail }, rfl, h.head, h.status, isOwnBlock_of_removeAmong? h.tail htail⟩
          | none => exact ⟨l, rfl, h⟩

/-- The head has no body that could take the block. -/
theorem Bare.appendBody (h : l.Bare title) {source : Text} {node : Node}
    (hsource : parse source = .ok [node]) (hnode : IsOwnBlock node) :
    ∃ l' : Layout, l.page.appendBody source = l'.page ∧ l'.Bare title := by
  have hnone : Without (Tag.isNamed "body") l.head := by
    rw [h.head, Without, tagsAmong_emptyHead]
    rfl
  refine ⟨{ l with tail := l.tail ++ [node] }, modify_page ⟨(), ?_⟩, h.head, h.status, ?_⟩
  · rw [parsed_of_parse hsource]
    exact updateAmong?_body hnone [node]
  · exact List.forall_mem_append.mpr ⟨h.tail, List.forall_mem_singleton.mpr hnode⟩

theorem Bare.exists_embed (h : l.Bare title) (panel : Panel) :
    ∃ l' : Layout, panel.embed l.page = l'.page ∧ l'.Bare title := by
  obtain ⟨l₁, hremove, hbare₁⟩ := h.exists_remove
  obtain ⟨l₂, happend, hbare₂⟩ := hbare₁.appendBody panel.parse_dataBlock (.inr ⟨panel, rfl⟩)
  obtain ⟨l₃, hscript, hbare₃⟩ := hbare₂.appendBody Panel.parse_scriptBlock (.inl rfl)
  simp only [Panel.embed, hremove, happend]
  split
  · exact ⟨l₂, rfl, hbare₂⟩
  · exact ⟨l₃, hscript, hbare₃⟩

theorem Bare.exists_apply (h : l.Bare title) (operation : Operation) :
    ∃ l' : Layout, operation.apply l.page = l'.page ∧ l'.Bare title := by
  cases operation with
  | setContent source => exact ⟨_, h.apart.setContent source, h.with_content _⟩
  | appendContent source =>
      exact ⟨_, h.apart.modify_content fun children => children ++ parsed source, h.with_content _⟩
  | setPanel source => exact h.exists_setPanel source
  | resetPanel =>
      obtain ⟨l', hpanel, hbare⟩ := h.exists_setPanel emptyPanel
      simp only [Operation.apply, Page.resetPanel, hpanel]
      exact hbare.exists_remove
  | attach panel => exact h.exists_embed panel
  | click panel key => exact h.exists_setPanel (panel.detailFor key)

/-- A page that only its content and its side panel have been filled of. -/
theorem exists_bare_after (title : Text) (operations : List Operation) :
    ∃ l : Layout, Page.after title operations = l.page ∧ l.Bare title := by
  have hrun {page : Page} (h : ∃ l : Layout, page = l.page ∧ l.Bare title) :
      ∃ l : Layout, operations.foldl (fun page operation => operation.apply page) page = l.page ∧
        l.Bare title := by
    induction operations generalizing page with
    | nil => exact h
    | cons operation rest ih =>
        obtain ⟨l, rfl, hbare⟩ := h
        exact ih (hbare.exists_apply operation)
  exact hrun ⟨empty title, page_empty title, bare_empty title⟩

/-! ## What is seen of a write in the content -/

theorem Apart.printPart_content (h : l.Apart) :
    l.page.printPart contentId = Node.print false (.element contentTag l.content) := by
  rw [Page.printPart, h.find?_content]

theorem printAll_of_print_content {children children' : List Node}
    (h : Node.print false (.element contentTag children) =
      Node.print false (.element contentTag children')) :
    printAll false children = printAll false children' := by
  have hvoid : isVoid contentTag.name = false := by decide
  have hraw : isRawParent contentTag.name = false := by decide
  rw [Node.print, Node.print, hvoid, hraw, Bool.false_and, Bool.false_and, if_neg Bool.false_ne_true,
    if_neg Bool.false_ne_true] at h
  simpa using h

/-- If no write shows in the content, it has no element that is taken for the panel. -/
theorem Bare.without_panel (h : l.Bare title)
    (hkept : ∀ source, (l.page.setPanel source).printPart contentId = l.page.printPart contentId) :
    Without (Tag.hasId panelId) l.content := by
  by_contra hnot
  obtain ⟨front, tag, back, hupdate⟩ := exists_printAll_update hnot false
  have hprint (source : Text) :
      front ++ Node.print false (.element tag (parsed source)) ++ back =
        printAll false l.content := by
    obtain ⟨changed, hchanged, -, hprint⟩ := hupdate contentAround (parsed source)
    have hpage : l.page.setPanel source = { l with content := changed }.page :=
      modify_page ⟨(), updateAmong?_panel_of_content (h.head_without (by simp [ownIds, frameIds]))
        (h.status_without panelId) hchanged⟩
    have hsame := hkept source
    rw [hpage, (h.with_content changed).apart.printPart_content,
      h.apart.printPart_content] at hsame
    rw [← hprint]
    exact printAll_of_print_content hsame
  have hlonger : (Node.print false (.element tag (parsed []))).length <
      (Node.print false (.element tag (parsed ['x']))).length := by
    have hempty : parsed [] = [] := by decide
    have hletter : parsed ['x'] = [.text .prose ['x']] := by decide
    rw [hempty, hletter]
    apply length_print_lt tag (List.cons_ne_nil _ _)
    cases isRawParent tag.name <;> decide
  have hlength := congrArg List.length ((hprint []).trans (hprint ['x']).symm)
  simp only [List.length_append] at hlength
  omega

theorem Bare.setPanel (h : l.Bare title) (hcontent : Without (Tag.hasId panelId) l.content)
    (source : Text) : l.page.setPanel source = { l with panel := parsed source }.page :=
  setPanel_page (h.head_without (by simp [ownIds, frameIds])) (h.status_without panelId) hcontent
    source

/-- If a reset does not show in the content either, it has no details for the browser. -/
theorem Bare.without_data (h : l.Bare title) (hcontent : Without (Tag.hasId panelId) l.content)
    (hkept : l.page.resetPanel.printPart contentId = l.page.printPart contentId) :
    Without (Tag.hasId dataId) l.content := by
  apply without_of_removeAmong?_eq_none
  cases hfound : removeAmong? (Tag.hasId dataId) l.content with
  | none => rfl
  | some content =>
      have hhead : removeAmong? (Tag.hasId dataId) l.head = none :=
        (h.head_without (by simp [ownIds])).removeAmong?_eq_none
      have hpage : l.page.resetPanel =
          { l with content := content, panel := parsed emptyPanel }.page := by
        have hshown := h.with_panel (parsed emptyPanel)
        rw [Page.resetPanel, h.setPanel hcontent]
        simp only [Page.remove, page, removeAmong?_nodes (hshown.status_without dataId), hhead,
          hfound, Option.map_none, Option.map_some, Option.none_or, Option.some_or]
      have hbare := (h.with_panel (parsed emptyPanel)).with_content content
      rw [hpage, hbare.apart.printPart_content, h.apart.printPart_content] at hkept
      have hless := length_printAll_lt_of_removed (removed_of_removeAmong? hfound) false
      rw [printAll_of_print_content hkept] at hless
      exact absurd hless (Nat.lt_irrefl _)

/-- A reset empties the panel and takes the page's own details away. -/
theorem Bare.resetPanel (h : l.Bare title) (hcontent : Without isPanelOrData l.content) :
    l.page.resetPanel = { l with
      panel := emptyPanelNodes
      tail := (removeAmong? (Tag.hasId dataId) l.tail).getD l.tail }.page := by
  have hhead : removeAmong? (Tag.hasId dataId) l.head = none :=
    (h.head_without (by simp [ownIds])).removeAmong?_eq_none
  have hbetween : removeAmong? (Tag.hasId dataId) l.content = none :=
    (without_isPanelOrData.mp hcontent).2.removeAmong?_eq_none
  have hpanel : removeAmong? (Tag.hasId dataId) emptyPanelNodes = none :=
    (without_emptyPanelNodes.mono fun _ => isOwn_of_hasId (by simp [ownIds])).removeAmong?_eq_none
  have hshown := h.with_panel emptyPanelNodes
  rw [Page.resetPanel, h.setPanel (without_isPanelOrData.mp hcontent).1, parsed_of_parse parse_emptyPanel]
  simp only [Page.remove, page, removeAmong?_nodes (hshown.status_without dataId), hhead,
    hbetween, hpanel, Option.map_none, Option.none_or]
  cases removeAmong? (Tag.hasId dataId) l.tail with
  | some tail => rfl
  | none => rfl

end Layout

namespace Page

open Layout

/-- Writes to the side panel leave the content as it is if and only if it has no element that is
taken for the panel or for the details for the browser.  They then change the side panel alone, and
a reset takes away what the page keeps for the browser at the end of its body. -/
theorem content_kept_iff (title : Text) (operations : List Operation) :
    let page := after title operations
    ((∀ operation : Operation, operation.isForPanel = true →
        (operation.apply page).printPart contentId = page.printPart contentId) ↔
      Without isPanelOrData (page.childrenOf contentId)) ∧
    (Without isPanelOrData (page.childrenOf contentId) → ∃ l : Layout, page = l.page ∧
      (∀ node ∈ l.tail, IsOwnBlock node) ∧
      (∀ source, page.setPanel source = { l with panel := parsed source }.page) ∧
      (∀ (panel : Panel) (key : Text),
        panel.click key page = { l with panel := parsed (panel.detailFor key) }.page) ∧
      page.resetPanel = { l with
        panel := emptyPanelNodes
        tail := (removeAmong? (Tag.hasId dataId) l.tail).getD l.tail }.page) := by
  intro page
  obtain ⟨l, hpage, hbare⟩ := exists_bare_after title operations
  rw [show page = l.page from hpage]
  have hchildren : l.page.childrenOf contentId = l.content := by
    rw [Page.childrenOf, hbare.apart.find?_content]
  have hprint {l' : Layout} (hhead : l'.head = l.head) (hstatus : l'.status = l.status)
      (hcontent : l'.content = l.content) :
      l'.page.printPart contentId = l.page.printPart contentId := by
    have hapart : l'.Apart := ⟨hhead ▸ hbare.apart.head, hstatus ▸ hbare.apart.status⟩
    rw [hapart.printPart_content, hbare.apart.printPart_content, hcontent]
  rw [hchildren]
  have hwrite (h : Without isPanelOrData l.content) (source : Text) :
      l.page.setPanel source = { l with panel := parsed source }.page :=
    hbare.setPanel (without_isPanelOrData.mp h).1 source
  refine ⟨⟨fun hkept => ?_, fun h operation hpanel => ?_⟩, fun h => ?_⟩
  · have hpanel := hbare.without_panel fun source => hkept (.setPanel source) rfl
    exact without_isPanelOrData.mpr ⟨hpanel, hbare.without_data hpanel (hkept .resetPanel rfl)⟩
  · cases operation with
    | setPanel source =>
        rw [Operation.apply, hwrite h]
        exact hprint rfl rfl rfl
    | resetPanel =>
        rw [Operation.apply, hbare.resetPanel h]
        exact hprint rfl rfl rfl
    | click panel key =>
        rw [Operation.apply, Panel.click, hwrite h]
        exact hprint rfl rfl rfl
    | setContent source => cases hpanel
    | appendContent source => cases hpanel
    | attach panel => cases hpanel
  · exact ⟨l, rfl, hbare.tail, hwrite h, fun panel key => hwrite h (panel.detailFor key),
      hbare.resetPanel h⟩

/-- A heading that is called as the side panel is gets what is written to the panel. -/
theorem content_overwritten :
    let page := after "Paper".toList
      [.setContent "<h2 id=\"citation-detail\">Citation detail</h2>".toList]
    page.printPart contentId = "<div id=\"paper-content\"><h2 id=\"citation-detail\">".toList ++
        "Citation detail</h2></div>".toList ∧
      (page.setPanel "<p>x</p>".toList).printPart contentId =
        "<div id=\"paper-content\"><h2 id=\"citation-detail\"><p>x</p></h2></div>".toList := by
  simp only [after, List.foldl_cons, List.foldl_nil, Operation.apply, page_empty]
  decide +kernel

end Page

end PaperHtml
