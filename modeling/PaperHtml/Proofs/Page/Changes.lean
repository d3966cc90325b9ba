import Mathlib
import PaperHtml.Proofs.Page.Fragments
import PaperHtml.Proofs.Page.Layout

/-!
# Changes of a page

What each change of a page does to its layout, and what is found on a page with
a layout.
-/

namespace PaperHtml

open Html Html.Node Page

namespace Layout

variable {l : Layout}

/-! ## The parts of the page -/

/-- A page whose update is known has been changed that way. -/
theorem modify_page {p : Tag → Bool} {f : List Node → List Node} {l' : Layout}
    (h : ∃ u, updateAmong? p (fun _ children => ((), f children)) [] l.nodes = some (u, l'.nodes)) :
    l.page.modify p f = l'.page := by
  obtain ⟨u, h⟩ := h
  simp only [Page.modify, Page.change, page, h]

theorem setStatus_page (h : Without isMain l.head) (status : Text) :
    l.page.setStatus status = { l with status := [.text .prose status] }.page := by
  obtain ⟨around, hupdate⟩ := @updateAmong?_status l Unit (fun _ _ => ((), [.text .prose status]))
    (h.mono fun _ => isMain_of_hasId (by simp))
  exact modify_page ⟨_, hupdate⟩

theorem Apart.modify_content (h : l.Apart) (f : List Node → List Node) :
    l.page.modify (Tag.hasId contentId) f = { l with content := f l.content }.page :=
  modify_page ⟨_, updateAmong?_content (h.head_without (by simp))
    (h.status_without (by simp [ownIds, frameIds]))⟩

theorem setPanel_page (hhead : Without (Tag.hasId panelId) l.head)
    (hbefore : Without (Tag.hasId panelId) l.status)
    (hbetween : Without (Tag.hasId panelId) l.content) (source : Text) :
    l.page.setPanel source = { l with panel := parsed source }.page := by
  obtain ⟨around, hupdate⟩ := @updateAmong?_panel l Unit (fun _ _ => ((), parsed source)) hhead
    hbefore hbetween
  exact modify_page ⟨_, hupdate⟩

theorem Sound.setPanel (h : l.Sound) (source : Text) :
    l.page.setPanel source = { l with panel := parsed source }.page := by
  have hid : panelId ∈ ownIds := by simp [ownIds, frameIds]
  exact setPanel_page (h.head_without (by simp [frameIds])) (h.apart.status_without hid)
    (h.content_without hid) source

theorem appendHead_page (l : Layout) (source : Text) :
    l.page.appendHead source = { l with head := l.head ++ parsed source }.page := by
  obtain ⟨around, hupdate⟩ := @updateAmong?_head l Unit (adding (parsed source))
  exact modify_page ⟨_, hupdate⟩

theorem Apart.with_content (h : l.Apart) (content : List Node) :
    { l with content := content }.Apart :=
  ⟨h.head, h.status⟩

theorem Apart.with_status (h : l.Apart) (status : Text) :
    { l with status := [.text .prose status] }.Apart :=
  ⟨h.head, rfl⟩

theorem Steady.with_content (h : l.Steady) (content : List Node) :
    { l with content := content }.Steady :=
  ⟨h.outer, h.status⟩

theorem Steady.with_status (h : l.Steady) (status : Text) :
    { l with status := [.text .prose status] }.Steady :=
  ⟨h.outer, rfl⟩

/-- A layout with more in the head, if none of it is taken for one of the parts. -/
theorem Steady.with_head_append (h : l.Steady) {added : List Node}
    (hadded : Without isFrame added) : { l with head := l.head ++ added }.Steady := by
  obtain ⟨hhead, hbody⟩ := without_append.mp h.outer
  exact ⟨without_append.mpr ⟨without_append.mpr ⟨hhead, hadded⟩, hbody⟩, h.status⟩

/-- A layout with other content, if it has no identifier of the page. -/
theorem Sound.with_content (h : l.Sound) {content : List Node}
    (hcontent : Without isOwn content) : { l with content := content }.Sound :=
  ⟨h.toSteady.with_content content, hcontent, h.panel, h.data, h.script⟩

theorem Sound.with_status (h : l.Sound) (status : Text) :
    { l with status := [.text .prose status] }.Sound :=
  ⟨h.toSteady.with_status status, h.content, h.panel, h.data, h.script⟩

theorem Sound.with_panel (h : l.Sound) {panel : List Node} (hpanel : Without isOwn panel) :
    { l with panel := panel }.Sound :=
  ⟨⟨h.outer, h.status⟩, h.content, hpanel, h.data, h.script⟩

/-- A layout with more in the head, if it has no identifier of the page. -/
theorem Sound.with_head_append (h : l.Sound) {added : List Node} (hadded : Without isOwn added) :
    { l with head := l.head ++ added }.Sound := by
  have hframe : Without isFrame added := hadded.mono fun tag htag => by
    rw [isOwn_eq, htag, Bool.true_or]
  have hcount : ∀ id ∈ ownIds, (tagsAmong { l with head := l.head ++ added }.outer).countP
      (Tag.hasId id) = (tagsAmong l.outer).countP (Tag.hasId id) := by
    intro id hid
    have hnone := (hadded.mono fun _ => isOwn_of_hasId hid).countP_eq_zero
    simp only [Layout.outer, tagsAmong_append, List.countP_append, hnone, Nat.add_zero]
  exact ⟨h.toSteady.with_head_append hframe, h.content, h.panel,
    (hcount dataId (by simp [ownIds])).trans_le h.data,
    (hcount scriptId (by simp [ownIds])).trans_le h.script⟩

theorem without_head_append {p : Tag → Bool} {added : List Node} (h : Without p l.outer)
    (hadded : Without p added) : Without p { l with head := l.head ++ added }.outer := by
  simp only [Layout.outer, without_append] at h ⊢
  exact ⟨⟨h.1, hadded⟩, h.2⟩

theorem Apart.clearContent (h : l.Apart) :
    l.page.clearContent = { l with content := [] }.page := h.modify_content fun _ => []

theorem Apart.setContent (h : l.Apart) (source : Text) :
    l.page.setContent source = { l with content := parsed source }.page := by
  have hempty : { l with content := [] }.Apart := h.with_content []
  rw [Page.setContent, h.clearContent]
  exact hempty.modify_content fun children => children ++ parsed source

/-! ## What is found on the page -/

theorem Apart.find?_status (h : l.Apart) :
    l.page.find? statusId = some (.element statusTag l.status) := by
  have hhead : findAmong? (Tag.hasId statusId) l.head = none :=
    (h.head.mono fun _ => isMain_of_hasId (by simp)).findAmong?_eq_none
  obtain ⟨hhtml, hheadTag, hbody, hmain⟩ := hasId_around statusId
  obtain ⟨hstatus, -, -⟩ := hasId_part statusId
  simp only [Page.find?, page, nodes, main, newline, findAmong?_text, findAmong?_element,
    findAmong?_append, findAmong?_nil, hhtml, hheadTag, hbody, hmain, hstatus, hhead, decide_true,
    Bool.false_eq_true, if_true, if_false, Option.none_or, Option.some_or]

theorem Apart.find?_content (h : l.Apart) :
    l.page.find? contentId = some (.element contentTag l.content) := by
  have hid : contentId ∈ ownIds := by simp [ownIds, frameIds]
  have hhead : findAmong? (Tag.hasId contentId) l.head = none :=
    (h.head.mono fun _ => isMain_of_hasId (by simp)).findAmong?_eq_none
  have hbefore := (h.status_without hid).findAmong?_eq_none
  obtain ⟨hhtml, hheadTag, hbody, hmain⟩ := hasId_around contentId
  obtain ⟨hstatus, hcontent, -⟩ := hasId_part contentId
  simp only [Page.find?, page, nodes, main, newline, findAmong?_text, findAmong?_element,
    findAmong?_append, findAmong?_nil, hhtml, hheadTag, hbody, hmain, hstatus, ids_differ.1,
    hcontent, hhead, hbefore, decide_true, decide_false, Bool.false_eq_true, if_true, if_false, Option.none_or,
    Option.some_or]

theorem find?_panel (hhead : Without (Tag.hasId panelId) l.head)
    (hbefore : Without (Tag.hasId panelId) l.status)
    (hbetween : Without (Tag.hasId panelId) l.content) :
    l.page.find? panelId = some (.element panelTag l.panel) := by
  obtain ⟨-, hnotStatus, hnotContent, -⟩ := ids_differ
  have hhead := hhead.findAmong?_eq_none
  have hbefore := hbefore.findAmong?_eq_none
  have hbetween := hbetween.findAmong?_eq_none
  obtain ⟨hhtml, hheadTag, hbody, hmain⟩ := hasId_around panelId
  obtain ⟨hstatus, hcontent, hpanel⟩ := hasId_part panelId
  simp only [Page.find?, page, nodes, main, newline, findAmong?_text, findAmong?_element,
    findAmong?_append, findAmong?_nil, hhtml, hheadTag, hbody, hmain, hstatus, hnotStatus,
    hnotContent, hcontent, hpanel, hhead, hbefore, hbetween, decide_true, decide_false,
    Bool.false_eq_true, if_true, if_false, Option.none_or, Option.some_or]

theorem Sound.find?_panel (h : l.Sound) :
    l.page.find? panelId = some (.element panelTag l.panel) := by
  have hid : panelId ∈ ownIds := by simp [ownIds, frameIds]
  exact Layout.find?_panel (h.head_without (by simp [frameIds])) (h.apart.status_without hid)
    (h.content_without hid)

/-- What the page makes for itself is found in the head or at the end of the body. -/
theorem Sound.find?_extra (h : l.Sound) {id : Text} (hid : id ∈ [dataId, scriptId]) :
    l.page.find? id = findAmong? (Tag.hasId id) l.outer := by
  have hmain := (h.main_without hid).findAmong?_eq_none
  obtain ⟨hhtml, hhead, hbody, -⟩ := hasId_around id
  simp only [Page.find?, page, nodes, Layout.outer, newline, findAmong?_text, findAmong?_element,
    findAmong?_append, findAmong?_nil, hhtml, hhead, hbody, hmain, Bool.false_eq_true, if_false,
    Option.none_or, Option.or_none]

/-- The head of the frame comes before all that is in it. -/
theorem findAmong?_head (l : Layout) :
    findAmong? (Tag.isNamed "head") l.nodes = some (.element headTag l.head) := by
  rfl

/-- Where nothing else can be found in it, the status line does not matter. -/
theorem find?_with_status {id : Text} (hid : statusId ≠ id) {status status' : List Node}
    (h : Without (Tag.hasId id) status) (h' : Without (Tag.hasId id) status') :
    { l with status }.page.find? id = { l with status := status' }.page.find? id := by
  obtain ⟨hhtml, hhead, hbody, hmain⟩ := hasId_around id
  obtain ⟨hstatus, -, -⟩ := hasId_part id
  have hnone := h.findAmong?_eq_none
  have hnone' := h'.findAmong?_eq_none
  simp only [Page.find?, page, nodes, main, newline, findAmong?_text, findAmong?_element,
    findAmong?_append, hhtml, hhead, hbody, hmain, hstatus, hid, hnone, hnone', decide_false,
    Bool.false_eq_true, if_false]

/-- Where nothing else can be found in it, the side panel does not matter. -/
theorem find?_with_panel {id : Text} (hid : panelId ≠ id) {panel panel' : List Node}
    (h : Without (Tag.hasId id) panel) (h' : Without (Tag.hasId id) panel') :
    { l with panel }.page.find? id = { l with panel := panel' }.page.find? id := by
  obtain ⟨hhtml, hhead, hbody, hmain⟩ := hasId_around id
  obtain ⟨-, -, hpanel⟩ := hasId_part id
  have hnone := h.findAmong?_eq_none
  have hnone' := h'.findAmong?_eq_none
  simp only [Page.find?, page, nodes, main, newline, findAmong?_text, findAmong?_element,
    findAmong?_append, hhtml, hhead, hbody, hmain, hpanel, hid, hnone, hnone', decide_false,
    Bool.false_eq_true, if_false]

/-! ## How often it is there -/

/-- Every part of a page is there once. -/
theorem Sound.countP_frame (h : l.Sound) {id : Text} (hid : id ∈ frameIds) :
    (tagsAmong l.nodes).countP (Tag.hasId id) = 1 := by
  have hown : id ∈ ownIds := List.mem_append_left _ hid
  have hhead := (h.head_without hid).countP_eq_zero
  have hbody : Without (Tag.hasId id) [.element bodyTag l.tail] :=
    (without_append.mp h.outer).2.mono fun _ => isFrame_of_hasId hid
  have htail := (without_element.mp hbody).2.1.countP_eq_zero
  have hstatus := (h.apart.status_without hown).countP_eq_zero
  have hcontent := (h.content_without hown).countP_eq_zero
  have hpanel := (h.panel_without hown).countP_eq_zero
  obtain ⟨hhtml, hheadTag, hbodyTag, hmain⟩ := hasId_around id
  obtain ⟨hstatusTag, hcontentTag, hpanelTag⟩ := hasId_part id
  obtain ⟨hsc, hsp, hcp, -⟩ := ids_differ
  simp only [nodes, main, newline, tagsAmong_text, tagsAmong_element, tagsAmong_append,
    tagsAmong_nil, List.countP_cons, List.countP_append, List.countP_nil, hhtml, hheadTag,
    hbodyTag, hmain, hhead, htail, hstatus, hcontent, hpanel, hstatusTag, hcontentTag, hpanelTag]
  simp only [frameIds, List.mem_cons, List.not_mem_nil, or_false] at hid
  rcases hid with rfl | rfl | rfl
  · simp [hsc.symm, hsp.symm]
  · simp [hsc, hcp.symm]
  · simp [hsp, hcp]

theorem Sound.countP_extra (h : l.Sound) {id : Text} (hid : id ∈ [dataId, scriptId]) :
    (tagsAmong l.nodes).countP (Tag.hasId id) = (tagsAmong l.outer).countP (Tag.hasId id) := by
  have hmain := (h.main_without hid).countP_eq_zero
  obtain ⟨hhtml, hhead, hbody, -⟩ := hasId_around id
  simp only [nodes, Layout.outer, newline, tagsAmong_text, tagsAmong_element, tagsAmong_append,
    tagsAmong_nil, List.countP_cons, List.countP_append, List.countP_nil, hhtml, hhead, hbody,
    hmain, Bool.false_eq_true, if_false, Nat.add_zero, Nat.zero_add]

/-! ## Changes that do not look at the status line -/

/-- A change takes one layout to another, whatever the status line holds, if it has no element
that `p` holds of. -/
def Takes (p : Tag → Bool) (change : Page → Page) (l l' : Layout) : Prop :=
  ∀ status, Without p status → change { l with status }.page = { l' with status }.page

theorem Takes.page {p : Tag → Bool} {change : Page → Page} {l' : Layout} (h : Takes p change l l')
    (hnone : Without p l.status) (hstatus : l'.status = l.status) :
    change l.page = l'.page := by
  have hsame : { l' with status := l.status } = l' := by rw [← hstatus]
  exact hsame ▸ h l.status hnone

theorem exists_appendBody (l : Layout) {source : Text} {block : List Node}
    (hblock : parsed source = block) :
    ∃ l' : Layout, Takes isOwn (appendBody source) l l' ∧
      l'.status = l.status ∧ l'.content = l.content ∧ l'.panel = l.panel ∧
      (l'.head = l.head ∨ Added (Tag.isNamed "body") block l.head l'.head) ∧
      Added (Tag.isNamed "body") block l.outer l'.outer := by
  obtain ⟨l', hupdate, hrest⟩ := exists_updateAmong?_body l block
  rw [← hblock] at hupdate
  exact ⟨l', fun status _ => modify_page ⟨_, hupdate status⟩, hrest⟩

/-! ## Elements that the page makes for itself -/

/-- Two layouts with the same parts, which differ only in what the page makes for itself. -/
structure Alike (l l' : Layout) : Prop where
  status : l'.status = l.status
  content : l'.content = l.content
  panel : l'.panel = l.panel
  outer : pruned isExtra l'.outer = pruned isExtra l.outer

theorem Alike.refl (l : Layout) : l.Alike l := ⟨rfl, rfl, rfl, rfl⟩

theorem Alike.trans {l₁ l₂ l₃ : Layout} (h : l₁.Alike l₂) (h' : l₂.Alike l₃) : l₁.Alike l₃ :=
  ⟨h'.status.trans h.status, h'.content.trans h.content, h'.panel.trans h.panel,
    h'.outer.trans h.outer⟩

theorem pruned_head_of_outer {l' : Layout}
    (h : pruned isExtra l'.outer = pruned isExtra l.outer) :
    pruned isExtra l'.head = pruned isExtra l.head := by
  have hbody : isExtra bodyTag = false := rfl
  simp only [Layout.outer, pruned_append, pruned_element, pruned_nil, hbody, Bool.false_eq_true,
    if_false] at h
  exact (List.append_inj' h rfl).1

/-- Layouts alike have the same head but for what the page makes for itself. -/
theorem Alike.head {l' : Layout} (h : l.Alike l') :
    pruned isExtra l'.head = pruned isExtra l.head :=
  pruned_head_of_outer h.outer

/-- The details kept for the browser are dropped. -/
theorem Sound.exists_remove (h : l.Sound) :
    ∃ l' : Layout, l.page.remove dataId = l'.page ∧ l'.Sound ∧ l.Alike l' ∧
      Without (Tag.hasId dataId) l'.outer := by
  have hextra : ∀ tag, Tag.hasId dataId tag = true → isExtra tag = true := by
    intro tag htag
    rw [isExtra, htag]
    rfl
  rcases exists_removeAmong? h (show dataId ∈ [dataId, scriptId] by simp) with
    ⟨hnone, hremove⟩ | ⟨l', hremove, hstatus, hcontent, hpanel, hremoved⟩
  · refine ⟨l, ?_, h, Alike.refl l, hnone⟩
    simp only [Page.remove, page, hremove]
  · refine ⟨l', ?_, ?_, ⟨hstatus, hcontent, hpanel, hremoved.pruned_eq hextra⟩,
      hremoved.without h.data⟩
    · simp only [Page.remove, page, hremove]
    · exact
        { outer := h.outer.of_removed hremoved
          status := hstatus ▸ h.status
          content := hcontent ▸ h.content
          panel := hpanel ▸ h.panel
          data := hremoved.countP_le.trans h.data
          script := hremoved.countP_le.trans h.script }

/-- A block of what the page makes for itself is put at the end of the body. -/
theorem Sound.exists_appendBody (h : l.Sound) {source : Text} {block : List Node}
    (hblock : parse source = .ok block) (hframe : Without isFrame block)
    (hpruned : pruned isExtra block = [])
    (hdata : (tagsAmong (l.outer ++ block)).countP (Tag.hasId dataId) ≤ 1)
    (hscript : (tagsAmong (l.outer ++ block)).countP (Tag.hasId scriptId) ≤ 1) :
    ∃ l' : Layout, l.page.appendBody source = l'.page ∧ l'.Sound ∧ l.Alike l' ∧
      Added (Tag.isNamed "body") block l.outer l'.outer := by
  obtain ⟨l', htakes, hstatus, hcontent, hpanel, -, hadded⟩ :=
    Layout.exists_appendBody l (parsed_of_parse hblock)
  rw [tagsAmong_append, List.countP_append] at hdata hscript
  refine ⟨l', htakes.page h.status hstatus, ?_,
    ⟨hstatus, hcontent, hpanel, hadded.pruned_eq hpruned⟩, hadded⟩
  · exact
      { outer := h.outer.of_added hframe hadded
        status := hstatus ▸ h.status
        content := hcontent ▸ h.content
        panel := hpanel ▸ h.panel
        data := hadded.countP_eq.trans_le hdata
        script := hadded.countP_eq.trans_le hscript }

/-- The details of the references are in the page once, and the script as well. -/
theorem Sound.exists_embed (h : l.Sound) (panel : Panel) :
    ∃ l' : Layout, panel.embed l.page = l'.page ∧ l'.Sound ∧ l.Alike l' ∧
      findAmong? (Tag.hasId dataId) l'.outer = some panel.dataNode := by
  have hdiffer := ids_differ.2.2.2.1
  obtain ⟨l₁, hremove, hsound₁, halike₁, hnone⟩ := h.exists_remove
  obtain ⟨l₂, happend, hsound₂, halike₂, hadded₂⟩ :=
    hsound₁.exists_appendBody panel.parse_dataBlock (Panel.without_isFrame_dataNode panel)
      (Panel.pruned_dataNode panel)
      (by
        rw [tagsAmong_append, List.countP_append, hnone.countP_eq_zero,
          Panel.countP_dataNode panel (by simp [ownIds]), if_pos rfl])
      (by
        rw [tagsAmong_append, List.countP_append, Panel.countP_dataNode panel (by simp [ownIds]),
          if_neg hdiffer]
        exact hsound₁.script)
  have hfound : findAmong? (Tag.hasId dataId) l₂.outer = some panel.dataNode := by
    rw [hadded₂.findAmong?_of_without hnone, Panel.findAmong?_dataNode]
  have hpage : (l.page.remove dataId).appendBody panel.dataBlock = l₂.page := by
    rw [hremove, happend]
  simp only [Panel.embed, hpage]
  split
  · exact ⟨l₂, rfl, hsound₂, halike₁.trans halike₂, hfound⟩
  · rename_i hscript
    rw [Option.not_isSome_iff_eq_none, hsound₂.find?_extra (by simp)] at hscript
    have hnoScript := without_of_findAmong?_eq_none hscript
    obtain ⟨l₃, happend₃, hsound₃, halike₃, hadded₃⟩ :=
      hsound₂.exists_appendBody Panel.parse_scriptBlock Panel.without_isFrame_scriptNode
        Panel.pruned_scriptNode
        (by
          rw [tagsAmong_append, List.countP_append, Panel.countP_scriptNode, if_neg hdiffer.symm]
          exact hsound₂.data)
        (by
          rw [tagsAmong_append, List.countP_append, hnoScript.countP_eq_zero,
            Panel.countP_scriptNode, if_pos rfl])
    have hnoData : Without (Tag.hasId dataId) [Panel.scriptNode] :=
      without_of_countP_eq_zero (by rw [Panel.countP_scriptNode, if_neg hdiffer.symm])
    exact ⟨l₃, happend₃, hsound₃, (halike₁.trans halike₂).trans halike₃,
      hadded₃.findAmong?_of_some hnoData hfound (Panel.without_body_dataNode panel)⟩

/-- The side panel is as on an empty page, and no details are kept for the browser. -/
theorem Sound.exists_resetPanel (h : l.Sound) :
    ∃ l' : Layout, l.page.resetPanel = l'.page ∧ l'.Sound ∧
      { l with panel := emptyPanelNodes }.Alike l' ∧ Without (Tag.hasId dataId) l'.outer := by
  rw [Page.resetPanel, h.setPanel, parsed_of_parse parse_emptyPanel]
  exact (h.with_panel without_emptyPanelNodes).exists_remove

end Layout

end PaperHtml
