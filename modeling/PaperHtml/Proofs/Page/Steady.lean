import Mathlib
import PaperHtml.Proofs.Page.Changes

/-!
# Pages with any content

Rendered fragments may use the identifiers of the page for elements of their
own.  The status line and the content are still found where the frame has them,
as long as nothing in the head is taken for one of them (`Layout.Apart`).  Other
changes may then hit an element of the content, but they leave a layout of the
same kind.

## Strategy

What the page takes away and makes anew never depends on the text of the status
line, and it leaves no other trace outside the content: `Takes` and `Keeps` say
this of each change in turn.
-/

namespace PaperHtml

open Html Html.Node Page

namespace Layout

variable {l : Layout} {α : Type} {change : List Text → List Node → α × List Node}

/-! ## The side panel -/

/-- An element of the content is found before the side panel. -/
theorem updateAmong?_panel_of_content (hhead : Without (Tag.hasId panelId) l.head)
    (hbefore : Without (Tag.hasId panelId) l.status) {found : α × List Node}
    (hfound : updateAmong? (Tag.hasId panelId) change contentAround l.content = some found) :
    updateAmong? (Tag.hasId panelId) change [] l.nodes =
      some (found.1, { l with content := found.2 }.nodes) := by
  obtain ⟨-, hnotStatus, hnotContent, -⟩ := ids_differ
  have hhead : ∀ around, updateAmong? (Tag.hasId panelId) change around l.head = none :=
    hhead.updateAmong?_eq_none
  have hbefore : ∀ around, updateAmong? (Tag.hasId panelId) change around l.status = none :=
    hbefore.updateAmong?_eq_none
  have hfound : updateAmong? (Tag.hasId panelId) change
      [contentTag.name, mainTag.name, bodyTag.name, htmlTag.name] l.content = some found := hfound
  obtain ⟨hhtml, hheadTag, hbody, hmain⟩ := hasId_around panelId
  obtain ⟨hstatus, hcontent, -⟩ := hasId_part panelId
  simp only [nodes, main, newline, updateAmong?_text, updateAmong?_element,
    updateAmong?_append, hhtml, hheadTag, hbody, hmain, hstatus, hnotStatus, hnotContent,
    hcontent, hhead, hbefore, hfound, Option.map_some, decide_false, Bool.false_eq_true, if_false]

/-- An element of the status line or of the content may be taken for the side panel. -/
theorem exists_updateAmong?_panel (hhead : Without (Tag.hasId panelId) l.head) :
    ∃ a l', updateAmong? (Tag.hasId panelId) change [] l.nodes = some (a, nodes l') ∧
      l'.head = l.head ∧ l'.tail = l.tail ∧
      (Without (Tag.hasId panelId) l.status → l'.status = l.status) ∧
      (l'.panel = l.panel ∨ ∃ around, l'.panel = (change around l.panel).2) := by
  obtain ⟨-, hnotStatus, -⟩ := ids_differ
  have hnone : ∀ around, updateAmong? (Tag.hasId panelId) change around l.head = none :=
    hhead.updateAmong?_eq_none
  obtain ⟨hhtml, hheadTag, hbody, hmain⟩ := hasId_around panelId
  obtain ⟨hstatus, -, -⟩ := hasId_part panelId
  cases hbefore : updateAmong? (Tag.hasId panelId) change
      [statusTag.name, mainTag.name, bodyTag.name, htmlTag.name] l.status with
  | some found =>
      refine ⟨found.1, { l with status := found.2 }, ?_, rfl, rfl, fun hwithout => ?_, .inl rfl⟩
      · simp only [nodes, main, newline, updateAmong?_text, updateAmong?_element,
          updateAmong?_append, hhtml, hheadTag, hbody, hmain, hstatus, hnotStatus, hnone, hbefore,
          Option.map_some, decide_false, Bool.false_eq_true, if_false]
      · rw [hwithout.updateAmong?_eq_none] at hbefore
        cases hbefore
  | none =>
      have hwithout := without_of_updateAmong?_eq_none hbefore
      cases hfound : updateAmong? (Tag.hasId panelId) change contentAround l.content with
      | some found =>
          exact ⟨_, _, updateAmong?_panel_of_content hhead hwithout hfound, rfl, rfl,
            fun _ => rfl, .inl rfl⟩
      | none =>
          obtain ⟨around, hupdate⟩ := @updateAmong?_panel l α change hhead hwithout
            (without_of_updateAmong?_eq_none hfound)
          exact ⟨_, _, hupdate, rfl, rfl, fun _ => rfl, .inr ⟨around, rfl⟩⟩

theorem Steady.exists_setPanel (h : l.Steady) (source : Text) :
    ∃ l' : Layout, l.page.setPanel source = l'.page ∧ l'.Steady ∧ l'.head = l.head := by
  obtain ⟨u, l', hupdate, hhead, htail, hstatus, -⟩ :=
    @exists_updateAmong?_panel l Unit (fun _ _ => ((), parsed source))
      (h.head_without (by simp [frameIds]))
  have hsame := hstatus (h.apart.status_without (by simp [ownIds, frameIds]))
  have houter : l'.outer = l.outer := by rw [Layout.outer, Layout.outer, hhead, htail]
  exact ⟨l', modify_page ⟨u, hupdate⟩, ⟨houter ▸ h.outer, hsame ▸ h.status⟩, hhead⟩

/-- An element of the head may be taken for the side panel as well. -/
theorem exists_setPanel {source : Text} (hsource : Without isMain (parsed source))
    (h : Without isMain l.head) :
    ∃ l' : Layout, l.page.setPanel source = l'.page ∧ Without isMain l'.head := by
  obtain ⟨hhtml, hheadTag, -⟩ := hasId_around panelId
  cases hfound : updateAmong? (Tag.hasId panelId) (fun _ _ => ((), parsed source))
      [headTag.name, htmlTag.name] l.head with
  | some found =>
      refine ⟨{ l with head := found.2 }, modify_page ⟨found.1, ?_⟩,
        h.of_updateAmong? (fun _ _ _ => hsource) hfound⟩
      simp only [nodes, newline, updateAmong?_text, updateAmong?_element, hhtml, hheadTag, hfound,
        Option.map_some, Bool.false_eq_true, if_false]
      rfl
  | none =>
      obtain ⟨u, l', hupdate, hhead, -⟩ :=
        @exists_updateAmong?_panel l Unit (fun _ _ => ((), parsed source))
          (without_of_updateAmong?_eq_none hfound)
      exact ⟨l', modify_page ⟨u, hupdate⟩, hhead ▸ h⟩

/-! ## What the page makes for itself -/

/-- A change leaves the status line, and outside the content it touches nothing but what the page
makes for itself. -/
structure Keeps (l l' : Layout) : Prop where
  status : l'.status = l.status
  head : Without isMain l.head → Without isMain l'.head
  outer : Without isFrame l.outer → Without isFrame l'.outer
  pruned : pruned isExtra l'.outer = pruned isExtra l.outer

theorem Keeps.trans {l₁ l₂ l₃ : Layout} (h : l₁.Keeps l₂) (h' : l₂.Keeps l₃) : l₁.Keeps l₃ :=
  ⟨h'.status.trans h.status, h'.head ∘ h.head, h'.outer ∘ h.outer, h'.pruned.trans h.pruned⟩

theorem Steady.of_keeps {l' : Layout} (h : l.Steady) (hkeeps : l.Keeps l') : l'.Steady :=
  ⟨hkeeps.outer h.outer, hkeeps.status ▸ h.status⟩

/-- An element with the details for the browser is missing outside the content. -/
theorem keeps_of_removed {l' : Layout} (hstatus : l'.status = l.status)
    (hhead : l'.head = l.head ∨ Removed (Tag.hasId dataId) l.head l'.head)
    (hremoved : Removed (Tag.hasId dataId) l.outer l'.outer) : l.Keeps l' where
  status := hstatus
  head h := hhead.elim (fun hsame => hsame ▸ h) h.of_removed
  outer h := h.of_removed hremoved
  pruned := hremoved.pruned_eq fun tag htag => by rw [isExtra, htag, Bool.true_or]

/-- The details for the browser are looked for in each part of the page in turn. -/
theorem removeAmong?_nodes (h : Without (Tag.hasId dataId) l.status) :
    removeAmong? (Tag.hasId dataId) l.nodes =
      ((removeAmong? (Tag.hasId dataId) l.head).map fun head => { l with head }.nodes).or
        (((removeAmong? (Tag.hasId dataId) l.content).map fun content =>
          { l with content }.nodes).or
          (((removeAmong? (Tag.hasId dataId) l.panel).map fun panel => { l with panel }.nodes).or
            ((removeAmong? (Tag.hasId dataId) l.tail).map fun tail => { l with tail }.nodes))) := by
  obtain ⟨hhtml, hheadTag, hbody, hmain⟩ := hasId_around dataId
  obtain ⟨hstatus, hcontent, hpanel⟩ := hasId_part dataId
  obtain ⟨hstatusId, hcontentId, hpanelId⟩ := ids_differ.2.2.2.2 dataId (by simp)
  have hbefore := h.removeAmong?_eq_none
  unfold nodes main
  simp only [newline, removeAmong?_text, removeAmong?_element, removeAmong?_append, hhtml,
    hheadTag, hbody, hmain, hstatus, hstatusId, hcontent, hcontentId, hpanel, hpanelId, hbefore,
    decide_false, Bool.false_eq_true, if_false, removeAmong?_nil, Option.map_none]
  cases removeAmong? (Tag.hasId dataId) l.head with
  | some head => rfl
  | none =>
      cases removeAmong? (Tag.hasId dataId) l.content with
      | some content => rfl
      | none =>
          cases removeAmong? (Tag.hasId dataId) l.panel with
          | some panel => rfl
          | none => cases removeAmong? (Tag.hasId dataId) l.tail <;> rfl

/-- The details for the browser are taken away wherever they are found first. -/
theorem exists_remove (l : Layout) :
    ∃ l' : Layout, Takes (Tag.hasId dataId) (Page.remove dataId) l l' ∧ l.Keeps l' ∧
      (l'.content = l.content ∨
        removeAmong? (Tag.hasId dataId) l.content = some l'.content) := by
  have hnodes (status : List Node) (h : Without (Tag.hasId dataId) status) :=
    @removeAmong?_nodes { l with status } h
  cases hhead : removeAmong? (Tag.hasId dataId) l.head with
  | some head =>
      have hremoved := removed_of_removeAmong? hhead
      refine ⟨{ l with head }, fun status h => ?_, keeps_of_removed rfl (.inr hremoved)
        (hremoved.append_right [.element bodyTag l.tail]), .inl rfl⟩
      simp only [Page.remove, page, hnodes status h, hhead, Option.map_some, Option.some_or]
  | none =>
      cases hcontents : removeAmong? (Tag.hasId dataId) l.content with
      | some content =>
          refine ⟨{ l with content }, fun status h => ?_, ⟨rfl, id, id, rfl⟩, .inr rfl⟩
          simp only [Page.remove, page, hnodes status h, hhead, hcontents, Option.map_some,
            Option.map_none, Option.some_or, Option.none_or]
      | none =>
          cases hpanels : removeAmong? (Tag.hasId dataId) l.panel with
          | some panel =>
              refine ⟨{ l with panel }, fun status h => ?_, ⟨rfl, id, id, rfl⟩, .inl rfl⟩
              simp only [Page.remove, page, hnodes status h, hhead, hcontents, hpanels,
                Option.map_some, Option.map_none, Option.some_or, Option.none_or]
          | none =>
              cases htail : removeAmong? (Tag.hasId dataId) l.tail with
              | some tail =>
                  have hremoved := Removed.inside bodyTag [] (removed_of_removeAmong? htail)
                  refine ⟨{ l with tail }, fun status h => ?_,
                    keeps_of_removed rfl (.inl rfl) (hremoved.append_left l.head), .inl rfl⟩
                  simp only [Page.remove, page, hnodes status h, hhead, hcontents, hpanels,
                    htail, Option.map_some, Option.map_none, Option.none_or]
              | none =>
                  refine ⟨l, fun status h => ?_, ⟨rfl, id, id, rfl⟩, .inl rfl⟩
                  simp only [Page.remove, page, hnodes status h, hhead, hcontents, hpanels,
                    htail, Option.map_none, Option.none_or]

/-- An element of the status line may be taken for the details as well. -/
theorem exists_remove_of_main (h : Without isMain l.head) :
    ∃ l' : Layout, l.page.remove dataId = l'.page ∧ Without isMain l'.head := by
  by_cases hstatus : Without (Tag.hasId dataId) l.status
  · obtain ⟨l', htakes, hkeeps, -⟩ := exists_remove l
    exact ⟨l', htakes.page hstatus hkeeps.status, hkeeps.head h⟩
  · obtain ⟨hhtml, hheadTag, hbody, hmain⟩ := hasId_around dataId
    obtain ⟨hstatusTag, -, -⟩ := hasId_part dataId
    obtain ⟨hstatusId, -, -⟩ := ids_differ.2.2.2.2 dataId (by simp)
    cases hhead : removeAmong? (Tag.hasId dataId) l.head with
    | some head =>
        refine ⟨{ l with head }, ?_, h.of_removed (removed_of_removeAmong? hhead)⟩
        simp only [Page.remove, page, nodes, newline, removeAmong?_text, removeAmong?_element,
          hhtml, hheadTag, hhead, Option.map_some, Bool.false_eq_true, if_false]
        rfl
    | none =>
        cases hfound : removeAmong? (Tag.hasId dataId) l.status with
        | some status =>
            refine ⟨{ l with status }, ?_, h⟩
            simp only [Page.remove, page, nodes, main, newline, removeAmong?_text,
              removeAmong?_element, removeAmong?_append, hhtml, hheadTag, hbody, hmain, hstatusTag,
              hstatusId, hhead, hfound, Option.map_some, decide_false, Bool.false_eq_true,
              if_false]
        | none => exact absurd (without_of_removeAmong?_eq_none hfound) hstatus

/-- A block of what the page makes for itself at the end of the body leaves the content as it
is. -/
theorem exists_appendBody_of_extra (l : Layout) {source : Text} {block : List Node}
    (hblock : parse source = .ok block) (hframe : Without isFrame block)
    (hpruned : pruned isExtra block = []) :
    ∃ l' : Layout, Takes isOwn (appendBody source) l l' ∧ l.Keeps l' ∧ l'.content = l.content := by
  obtain ⟨l', htakes, hstatus, hcontent, -, hhead, hadded⟩ :=
    exists_appendBody l (parsed_of_parse hblock)
  have hmain : Without isMain block := hframe.mono fun _ => isFrame_of_isMain
  refine ⟨l', htakes, ⟨hstatus, fun h => ?_, fun h => h.of_added hframe hadded,
    hadded.pruned_eq hpruned⟩, hcontent⟩
  rcases hhead with hsame | hadded
  · exact hsame ▸ h
  · exact h.of_added hmain hadded

/-- Details for the browser that are put into the page may take the place of an element of the
content. -/
theorem exists_embed (l : Layout) (panel : Panel) :
    ∃ l' : Layout, Takes isOwn panel.embed l l' ∧ l.Keeps l' ∧
      (l'.content = l.content ∨
        removeAmong? (Tag.hasId dataId) l.content = some l'.content) := by
  have hscriptId := (ids_differ.2.2.2.2 scriptId (by simp)).1
  obtain ⟨l₁, hremove, hkeeps₁, hcontent₁⟩ := exists_remove l
  obtain ⟨l₂, happend, hkeeps₂, hcontent₂⟩ := exists_appendBody_of_extra l₁ panel.parse_dataBlock
    (Panel.without_isFrame_dataNode panel) (Panel.pruned_dataNode panel)
  obtain ⟨l₃, happend₃, hkeeps₃, hcontent₃⟩ := exists_appendBody_of_extra l₂
    Panel.parse_scriptBlock Panel.without_isFrame_scriptNode Panel.pruned_scriptNode
  have hpage (status : List Node) (h : Without isOwn status) :
      (Page.remove dataId { l with status }.page).appendBody panel.dataBlock =
        { l₂ with status }.page := by
    rw [hremove status (h.mono fun _ => isOwn_of_hasId (by simp [ownIds])), happend status h]
  -- whether there is a script is asked on the page, but not of its status line
  have hfind (status : List Node) (h : Without isOwn status) :
      { l₂ with status }.page.find? scriptId = { l₂ with status := [] }.page.find? scriptId :=
    find?_with_status hscriptId (h.mono fun _ => isOwn_of_hasId (by simp [ownIds])) without_nil
  by_cases hscript : ({ l₂ with status := [] }.page.find? scriptId).isSome = true
  · refine ⟨l₂, fun status h => ?_, hkeeps₁.trans hkeeps₂, hcontent₂ ▸ hcontent₁⟩
    simp only [Panel.embed, hpage status h, hfind status h, if_pos hscript]
  · refine ⟨l₃, fun status h => ?_, (hkeeps₁.trans hkeeps₂).trans hkeeps₃,
      (hcontent₃.trans hcontent₂) ▸ hcontent₁⟩
    simp only [Panel.embed, hpage status h, hfind status h, if_neg hscript, happend₃ status h]

end Layout

end PaperHtml
