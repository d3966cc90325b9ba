import Mathlib
import PaperHtml.Proofs.Page.Steady

/-!
# Pages with anything in the head and in the content

Style sheets and scripts come from outside, as rendered fragments do, so that
the head and the content of a page may have elements with the identifiers of its
parts, and a change may hit one of them instead of the part itself.  Even so
each change stays inside one of the five lists of the layout, and the status
line and the side panel never hold more than what the page has put there itself.

## Strategy

`Quiet` is what no change destroys, whatever it hits: the change of a part
(`Quiet.change`), taking away the details for the browser (`Quiet.remove`), and
blocks at the end of the head or of the body.
-/

namespace PaperHtml

open Html Html.Node Page

namespace Layout

/-- Neither the status line nor the side panel has an identifier of the page inside. -/
structure Quiet (l : Layout) : Prop where
  status : Without isOwn l.status
  panel : Without isOwn l.panel

variable {l : Layout} {α : Type} {change : List Text → List Node → α × List Node}

theorem Quiet.status_without (h : l.Quiet) {id : Text} (hid : id ∈ ownIds) :
    Without (Tag.hasId id) l.status :=
  h.status.mono fun _ => isOwn_of_hasId hid

/-- A change of a part hits the part itself or an element before it. -/
theorem Quiet.exists_updateAmong? (h : l.Quiet) {id : Text} (hid : id ∈ frameIds)
    (hchange : id ≠ contentId → ∀ around children, Without isOwn (change around children).2) :
    ∃ a l', updateAmong? (Tag.hasId id) change [] l.nodes = some (a, nodes l') ∧ l'.Quiet := by
  have hstatus := h.status_without (List.mem_append_left _ hid)
  cases hfound : updateAmong? (Tag.hasId id) change [headTag.name, htmlTag.name] l.head with
  | some found =>
      obtain ⟨hhtml, hheadTag, -⟩ := hasId_around id
      refine ⟨found.1, { l with head := found.2 }, ?_, h.status, h.panel⟩
      simp only [nodes, newline, updateAmong?_text, updateAmong?_element, hhtml, hheadTag, hfound,
        Option.map_some, Bool.false_eq_true, if_false]
      rfl
  | none =>
      have hhead := without_of_updateAmong?_eq_none hfound
      obtain ⟨hsc, -, hcp, -⟩ := ids_differ
      simp only [frameIds, List.mem_cons, List.not_mem_nil, or_false] at hid
      rcases hid with rfl | rfl | rfl
      · obtain ⟨around, hupdate⟩ := @updateAmong?_status l α change hhead
        exact ⟨_, _, hupdate, hchange hsc around l.status, h.panel⟩
      · exact ⟨_, _, updateAmong?_content hhead hstatus, h.status, h.panel⟩
      · obtain ⟨a, l', hupdate, -, -, hkept, hpanel⟩ :=
          @exists_updateAmong?_panel l α change hhead
        refine ⟨a, l', hupdate, hkept hstatus ▸ h.status, ?_⟩
        rcases hpanel with hsame | ⟨around, hnew⟩
        · exact hsame ▸ h.panel
        · exact hnew ▸ hchange hcp.symm around l.panel

end Layout

namespace Page

/-- Neither the status line nor the side panel of a page has an identifier of the page inside,
whatever else has one. -/
def Quiet (page : Page) : Prop := ∃ l : Layout, page = l.page ∧ l.Quiet

variable {page : Page}

theorem Quiet.change (h : page.Quiet) {α : Type} {id : Text} (hid : id ∈ frameIds)
    {change : List Text → List Node → α × List Node}
    (hchange : id ≠ contentId → ∀ around children, Without isOwn (change around children).2) :
    (page.change (Tag.hasId id) change).2.Quiet := by
  obtain ⟨l, rfl, hquiet⟩ := h
  obtain ⟨a, l', hupdate, hquiet'⟩ := hquiet.exists_updateAmong? hid hchange
  simp only [Page.change, Layout.page, hupdate]
  exact ⟨l', rfl, hquiet'⟩

theorem Quiet.setStatus (h : page.Quiet) (status : Text) : (page.setStatus status).Quiet :=
  h.change (by simp [frameIds]) fun _ _ _ => rfl

theorem Quiet.setPanel (h : page.Quiet) {source : Text} (hsource : Without isOwn (parsed source)) :
    (page.setPanel source).Quiet :=
  h.change (by simp [frameIds]) fun _ _ _ => hsource

theorem Quiet.modify_content (h : page.Quiet) (f : List Node → List Node) :
    (page.modify (Tag.hasId contentId) f).Quiet :=
  h.change (by simp [frameIds]) fun hne => absurd rfl hne

theorem Quiet.setContent (h : page.Quiet) (source : Text) : (page.setContent source).Quiet :=
  (h.modify_content _).modify_content _

theorem Quiet.appendHead (h : page.Quiet) (source : Text) : (page.appendHead source).Quiet := by
  obtain ⟨l, rfl, hquiet⟩ := h
  exact ⟨_, Layout.appendHead_page l source, hquiet.status, hquiet.panel⟩

theorem Quiet.appendBody (h : page.Quiet) (source : Text) : (page.appendBody source).Quiet := by
  obtain ⟨l, rfl, hquiet⟩ := h
  obtain ⟨l', htakes, hstatus, -, hpanel, -⟩ := @Layout.exists_appendBody l source _ rfl
  exact ⟨l', htakes.page hquiet.status hstatus, hstatus ▸ hquiet.status, hpanel ▸ hquiet.panel⟩

/-- The details for the browser may have been put into an element of the head. -/
theorem Quiet.remove (h : page.Quiet) : (page.remove dataId).Quiet := by
  obtain ⟨l, rfl, hquiet⟩ := h
  have hpanel : removeAmong? (Tag.hasId dataId) l.panel = none :=
    (hquiet.panel.mono fun _ => isOwn_of_hasId (by simp [ownIds])).removeAmong?_eq_none
  simp only [Page.remove, Layout.page,
    Layout.removeAmong?_nodes (hquiet.status_without (by simp [ownIds])), hpanel, Option.map_none,
    Option.none_or]
  cases removeAmong? (Tag.hasId dataId) l.head with
  | some head => exact ⟨{ l with head }, rfl, hquiet.status, hquiet.panel⟩
  | none =>
      cases removeAmong? (Tag.hasId dataId) l.content with
      | some content => exact ⟨{ l with content }, rfl, hquiet.status, hquiet.panel⟩
      | none =>
          cases removeAmong? (Tag.hasId dataId) l.tail with
          | some tail => exact ⟨{ l with tail }, rfl, hquiet.status, hquiet.panel⟩
          | none => exact ⟨l, rfl, hquiet⟩

theorem Quiet.embed (h : page.Quiet) (panel : Panel) : (panel.embed page).Quiet := by
  have hdata := h.remove.appendBody panel.dataBlock
  simp only [Panel.embed]
  split
  · exact hdata
  · exact hdata.appendBody Panel.scriptBlock

/-! ## The side panel alone -/

/-- The side panel is the only element of a page that has its identifier. -/
def HasOnePanel (page : Page) : Prop := (tagsAmong page.nodes).countP (Tag.hasId panelId) = 1

end Page

namespace Layout

variable {l : Layout}

theorem Quiet.countP_panel (h : l.Quiet) :
    (tagsAmong l.nodes).countP (Tag.hasId panelId) =
      (tagsAmong l.head).countP (Tag.hasId panelId) +
        (tagsAmong l.content).countP (Tag.hasId panelId) +
        (tagsAmong l.tail).countP (Tag.hasId panelId) + 1 := by
  have hown : panelId ∈ ownIds := by simp [ownIds, frameIds]
  have hstatus := (h.status_without hown).countP_eq_zero
  have hpanel := (h.panel.mono fun _ => isOwn_of_hasId hown).countP_eq_zero
  obtain ⟨hhtml, hheadTag, hbodyTag, hmain⟩ := hasId_around panelId
  obtain ⟨hstatusTag, hcontentTag, hpanelTag⟩ := hasId_part panelId
  obtain ⟨-, hsp, hcp, -⟩ := ids_differ
  simp only [nodes, main, newline, tagsAmong_text, tagsAmong_element, tagsAmong_append,
    tagsAmong_nil, List.countP_cons, List.countP_append, List.countP_nil, hhtml, hheadTag, hbodyTag,
    hmain, hstatus, hpanel, hstatusTag, hcontentTag, hpanelTag, hsp, hcp, decide_false, decide_true,
    Bool.false_eq_true, if_true, if_false]
  omega

/-- Nothing before the side panel is taken for it, and nothing inside it for another part. -/
structure PanelAlone (l : Layout) : Prop extends Quiet l where
  head : Without (Tag.hasId panelId) l.head
  content : Without (Tag.hasId panelId) l.content

theorem Quiet.panelAlone (h : l.Quiet) (hone : l.page.HasOnePanel) : l.PanelAlone := by
  have hcount := h.countP_panel
  rw [show (tagsAmong l.nodes).countP (Tag.hasId panelId) = 1 from hone] at hcount
  refine ⟨h, without_of_countP_eq_zero ?_, without_of_countP_eq_zero ?_⟩
  · omega
  · omega

theorem PanelAlone.setPanel (h : l.PanelAlone) (source : Text) :
    l.page.setPanel source = { l with panel := parsed source }.page :=
  setPanel_page h.head (h.status_without (by simp [ownIds, frameIds])) h.content source

theorem PanelAlone.with_panel (h : l.PanelAlone) {panel : List Node}
    (hpanel : Without isOwn panel) :
    { l with panel := panel }.PanelAlone :=
  ⟨⟨h.status, hpanel⟩, h.head, h.content⟩

theorem PanelAlone.find?_panel (h : l.PanelAlone) :
    l.page.find? panelId = some (.element panelTag l.panel) :=
  Layout.find?_panel h.head (h.status_without (by simp [ownIds, frameIds])) h.content

/-- All else is found as before, whatever the side panel shows. -/
theorem PanelAlone.find?_with_panel (h : l.PanelAlone) {panel : List Node}
    (hpanel : Without isOwn panel) {id : Text} (hid : id ∈ ownIds) (hne : panelId ≠ id) :
    { l with panel := panel }.page.find? id = l.page.find? id :=
  Layout.find?_with_panel hne (hpanel.mono fun _ => isOwn_of_hasId hid)
    (h.panel.mono fun _ => isOwn_of_hasId hid)

end Layout

end PaperHtml
