import Mathlib
import PaperHtml.Proofs.Html.Surroundings
import PaperHtml.Proofs.Page.Writes

/-!
# The page and its panel show the same

The details of a reference are written in two ways: into the side panel when its
citation is clicked, and beforehand into a template, for a browser that has only
the page.  However often and by however many panels the templates are made, there
is one for each reference, and it has what a click would show.

## Strategy

On a page whose content has none of the identifiers in question, putting the
details into the page changes the end of the body and nothing else
(`Clear.embed_page`).  There it leaves the details and one script, in an order that
depends on how often it has been done (`IsFitted`).  What is in a template is read
from a longer source and inside other elements than what is in the panel, which
does not show in what is written (`printAll_built_congr`).
-/

namespace PaperHtml

open Html Html.Node Page

namespace Assoc

/-- Where no name comes twice, each of the values is found under its name. -/
theorem get?_of_mem {α : Type} {table : Assoc α} (h : (names table).Nodup) {pair : Text × α}
    (hpair : pair ∈ table) : get? pair.1 table = some pair.2 := by
  induction table with
  | nil => cases hpair
  | cons first rest ih =>
      obtain ⟨name, value⟩ := first
      obtain ⟨hnew, hrest⟩ := List.nodup_cons.mp h
      rcases List.mem_cons.mp hpair with rfl | hpair
      · rw [get?, if_pos rfl]
      · have hmem : pair.1 ∈ names rest := List.mem_map_of_mem hpair
        have hne : name ≠ pair.1 := fun heq => hnew (heq ▸ hmem)
        rw [get?, if_neg hne, ih hrest hpair]

end Assoc

/-- The page after some panels have been attached to it, one after another. -/
def Page.attachAll (panels : List Panel) (page : Page) : Page :=
  panels.foldl (fun page panel => (panel.attach page).2) page

namespace Layout

/-! ## Pages whose parts have none of the identifiers -/

/-- The identifiers by which the side panel and what the page makes for itself are found. -/
def shownIds : List Text := [panelId, dataId, scriptId]

/-- Nothing but the side panel itself is taken for it, and nothing outside the end of the body for
what the page makes for itself. -/
structure Clear (l : Layout) : Prop where
  noBody : Without (Tag.isNamed "body") l.head
  head : ∀ id ∈ shownIds, Without (Tag.hasId id) l.head
  status : ∀ id ∈ shownIds, Without (Tag.hasId id) l.status
  content : ∀ id ∈ shownIds, Without (Tag.hasId id) l.content
  panel : ∀ id ∈ shownIds, Without (Tag.hasId id) l.panel

variable {l : Layout} {panel : Panel}

theorem Clear.with_tail (h : l.Clear) (tail : List Node) : { l with tail := tail }.Clear :=
  ⟨h.noBody, h.head, h.status, h.content, h.panel⟩

theorem shown_of_extra {id : Text} (hid : id ∈ [dataId, scriptId]) : id ∈ shownIds :=
  List.mem_cons_of_mem _ hid

theorem Clear.without_main (h : l.Clear) {id : Text} (hid : id ∈ [dataId, scriptId]) :
    Without (Tag.hasId id) l.main := by
  obtain ⟨-, -, -, hmain⟩ := hasId_around id
  obtain ⟨hstatus, hcontent, hpanel⟩ := hasId_part id
  obtain ⟨hstatusId, hcontentId, hpanelId⟩ := ids_differ.2.2.2.2 id hid
  have hshown := shown_of_extra hid
  simp only [main, newline, without_text, without_element, hmain, hstatus, hcontent, hpanel,
    hstatusId, hcontentId, hpanelId, decide_false, h.status id hshown, h.content id hshown,
    h.panel id hshown, true_and]
  exact ⟨without_nil, without_nil⟩

theorem Clear.countP_extra (h : l.Clear) {id : Text} (hid : id ∈ [dataId, scriptId]) :
    (tagsAmong l.nodes).countP (Tag.hasId id) = (tagsAmong l.tail).countP (Tag.hasId id) := by
  have hmain := (h.without_main hid).countP_eq_zero
  have hhead := (h.head id (shown_of_extra hid)).countP_eq_zero
  obtain ⟨hhtml, hheadTag, hbody, -⟩ := hasId_around id
  simp only [nodes, newline, tagsAmong_text, tagsAmong_element, tagsAmong_append, tagsAmong_nil,
    List.countP_cons, List.countP_append, List.countP_nil, hhtml, hheadTag, hbody, hmain, hhead,
    Bool.false_eq_true, if_false, Nat.add_zero, Nat.zero_add]

theorem Clear.find?_extra (h : l.Clear) {id : Text} (hid : id ∈ [dataId, scriptId]) :
    l.page.find? id = findAmong? (Tag.hasId id) l.tail := by
  have hmain := (h.without_main hid).findAmong?_eq_none
  have hhead := (h.head id (shown_of_extra hid)).findAmong?_eq_none
  obtain ⟨hhtml, hheadTag, hbody, -⟩ := hasId_around id
  simp only [Page.find?, page, nodes, newline, findAmong?_text, findAmong?_element,
    findAmong?_append, findAmong?_nil, hhtml, hheadTag, hbody, hmain, hhead, Bool.false_eq_true,
    if_false, Option.none_or, Option.or_none]

theorem Clear.remove_page (h : l.Clear) :
    l.page.remove dataId =
      { l with tail := (removeAmong? (Tag.hasId dataId) l.tail).getD l.tail }.page := by
  have hid : dataId ∈ shownIds := shown_of_extra (by simp)
  have hhead := (h.head dataId hid).removeAmong?_eq_none
  have hcontent := (h.content dataId hid).removeAmong?_eq_none
  have hpanel := (h.panel dataId hid).removeAmong?_eq_none
  simp only [Page.remove, page, removeAmong?_nodes (h.status dataId hid), hhead, hcontent, hpanel,
    Option.map_none, Option.none_or]
  cases removeAmong? (Tag.hasId dataId) l.tail <;> rfl

theorem Clear.appendBody_page (h : l.Clear) {source : Text} {block : List Node}
    (hblock : parse source = .ok block) :
    l.page.appendBody source = { l with tail := l.tail ++ block }.page := by
  obtain rfl := parsed_of_parse hblock
  exact modify_page ⟨(), updateAmong?_body h.noBody (parsed source)⟩

/-! ## The end of the body -/

/-- The end of the body after the details have been put into it. -/
def fitted (panel : Panel) (tail : List Node) : List Node :=
  let tail := (removeAmong? (Tag.hasId dataId) tail).getD tail ++ [panel.dataNode]
  if (findAmong? (Tag.hasId scriptId) tail).isSome then tail else tail ++ [Panel.scriptNode]

/-- Putting the details into the page changes the end of the body. -/
theorem Clear.embed_page (h : l.Clear) (panel : Panel) :
    panel.embed l.page = { l with tail := fitted panel l.tail }.page := by
  have hdata : (l.page.remove dataId).appendBody panel.dataBlock =
      { l with tail :=
        (removeAmong? (Tag.hasId dataId) l.tail).getD l.tail ++ [panel.dataNode] }.page := by
    rw [h.remove_page]
    exact (h.with_tail _).appendBody_page panel.parse_dataBlock
  have hclear := h.with_tail
    ((removeAmong? (Tag.hasId dataId) l.tail).getD l.tail ++ [panel.dataNode])
  simp only [Panel.embed, hdata, hclear.find?_extra (show scriptId ∈ [dataId, scriptId] by simp),
    fitted]
  split
  · rfl
  · exact hclear.appendBody_page Panel.parse_scriptBlock

/-- The end of the body holds the details of a panel and the script, and nothing else. -/
def IsFitted (panel : Panel) (tail : List Node) : Prop :=
  tail = [panel.dataNode, Panel.scriptNode] ∨ tail = [Panel.scriptNode, panel.dataNode]

theorem removeAmong?_dataNode (panel : Panel) (rest : List Node) :
    removeAmong? (Tag.hasId dataId) (panel.dataNode :: rest) = some rest := by
  rw [Panel.dataNode, removeAmong?_element, Panel.hasId_dataTag, decide_eq_true rfl, if_pos rfl]

theorem without_dataId_scriptNode : Without (Tag.hasId dataId) [Panel.scriptNode] := by
  apply without_of_countP_eq_zero
  rw [Panel.countP_scriptNode, if_neg ids_differ.2.2.2.1.symm]

theorem without_scriptId_dataNode (panel : Panel) :
    Without (Tag.hasId scriptId) [panel.dataNode] := by
  apply without_of_countP_eq_zero
  rw [panel.countP_dataNode (by simp [ownIds]), if_neg ids_differ.2.2.2.1]

theorem findAmong?_scriptNode (rest : List Node) :
    findAmong? (Tag.hasId scriptId) (Panel.scriptNode :: rest) = some Panel.scriptNode := by
  rw [Panel.scriptNode, findAmong?_element, Panel.hasId_scriptTag, decide_eq_true rfl, if_pos rfl]

/-- The first time the script is missing. -/
theorem isFitted_fitted_nil (panel : Panel) : IsFitted panel (fitted panel []) := by
  have hnone := (without_scriptId_dataNode panel).findAmong?_eq_none
  left
  simp only [fitted, removeAmong?_nil, Option.getD_none, List.nil_append, hnone]
  rfl

/-- From then on the details of one panel take the place of those of another. -/
theorem isFitted_fitted {tail : List Node} {other : Panel} (h : IsFitted other tail)
    (panel : Panel) : IsFitted panel (fitted panel tail) := by
  have hremoved : (removeAmong? (Tag.hasId dataId) tail).getD tail = [Panel.scriptNode] := by
    rcases h with rfl | rfl
    · rw [removeAmong?_dataNode]
      rfl
    · rw [← List.singleton_append, removeAmong?_append,
        without_dataId_scriptNode.removeAmong?_eq_none, removeAmong?_dataNode]
      rfl
  right
  simp only [fitted, hremoved, List.singleton_append, findAmong?_scriptNode]
  rfl

theorem countP_of_isFitted {tail : List Node} (h : IsFitted panel tail) {id : Text}
    (hid : id ∈ [dataId, scriptId]) : (tagsAmong tail).countP (Tag.hasId id) = 1 := by
  have hdata := panel.countP_dataNode (List.mem_append_right frameIds hid)
  have hscript := Panel.countP_scriptNode id
  have hsplit : (tagsAmong tail).countP (Tag.hasId id) =
      (tagsAmong [panel.dataNode]).countP (Tag.hasId id) +
        (tagsAmong [Panel.scriptNode]).countP (Tag.hasId id) := by
    rcases h with rfl | rfl
    · rw [← List.countP_append, ← tagsAmong_append]
      rfl
    · rw [Nat.add_comm, ← List.countP_append, ← tagsAmong_append]
      rfl
  have hdiffer := ids_differ.2.2.2.1
  rw [hsplit, hdata, hscript]
  simp only [List.mem_cons, List.not_mem_nil, or_false] at hid
  rcases hid with rfl | rfl
  · simp [hdiffer.symm]
  · simp [hdiffer]

theorem findAmong?_data_of_isFitted {tail : List Node} (h : IsFitted panel tail) :
    findAmong? (Tag.hasId dataId) tail = some panel.dataNode := by
  have hfound := Panel.findAmong?_dataNode panel
  have hnone := without_dataId_scriptNode.findAmong?_eq_none
  rcases h with rfl | rfl
  · rw [← List.singleton_append, findAmong?_append, hfound, Option.some_or]
  · rw [← List.singleton_append, findAmong?_append, hnone, Option.none_or, hfound]

/-! ## Attaching panels -/

/-- Panels leave the details of the last one and one script at the end of the body. -/
theorem Clear.exists_attachAll (h : l.Clear) {first : Panel} (hfitted : IsFitted first l.tail)
    (panels : List Panel) :
    ∃ last ∈ first :: panels, ∃ tail, attachAll panels l.page = { l with tail := tail }.page ∧
      IsFitted last tail := by
  induction panels generalizing l first with
  | nil => exact ⟨first, List.mem_cons_self .., l.tail, rfl, hfitted⟩
  | cons panel panels ih =>
      have hstep : (panel.attach l.page).2 = { l with tail := fitted panel l.tail }.page :=
        h.embed_page panel
      obtain ⟨last, hlast, tail, hpage, htail⟩ :=
        ih (h.with_tail (fitted panel l.tail)) (isFitted_fitted hfitted panel)
      refine ⟨last, List.mem_cons_of_mem _ hlast, tail, ?_, htail⟩
      rw [attachAll, List.foldl_cons, hstep]
      exact hpage

/-- On a page that nothing has been put into, one panel is enough. -/
theorem Clear.exists_attachAll_of_nil (h : l.Clear) (hnil : l.tail = []) {panels : List Panel}
    (hpanels : panels ≠ []) :
    ∃ last ∈ panels, ∃ tail, attachAll panels l.page = { l with tail := tail }.page ∧
      IsFitted last tail := by
  obtain ⟨first, rest, rfl⟩ := List.exists_cons_of_ne_nil hpanels
  have hstep : (first.attach l.page).2 = { l with tail := fitted first l.tail }.page :=
    h.embed_page first
  have hfitted : IsFitted first (fitted first l.tail) := by
    rw [hnil]
    exact isFitted_fitted_nil first
  rw [attachAll, List.foldl_cons, hstep]
  exact (h.with_tail (fitted first l.tail)).exists_attachAll hfitted rest

/-- A click fills the side panel and leaves the rest. -/
theorem Clear.click_page (h : l.Clear) (panel : Panel) (key : Text) :
    panel.click key l.page = { l with panel := parsed (panel.detailFor key) }.page := by
  have hid : panelId ∈ shownIds := List.mem_cons_self ..
  exact setPanel_page (h.head panelId hid) (h.status panelId hid) (h.content panelId hid) _

theorem Clear.childrenOf_panel_click (h : l.Clear) (panel : Panel) (key : Text) :
    (panel.click key l.page).childrenOf panelId = parsed (panel.detailFor key) := by
  have hid : panelId ∈ shownIds := List.mem_cons_self ..
  have hfound := @find?_panel { l with panel := parsed (panel.detailFor key) } (h.head panelId hid)
    (h.status panelId hid) (h.content panelId hid)
  rw [h.click_page, Page.childrenOf, hfound]

/-- An empty page that has been given some content. -/
theorem clear_empty (title : Text) {content : List Node}
    (hcontent : ∀ id ∈ shownIds, Without (Tag.hasId id) content) :
    { empty title with content := content }.Clear := by
  have hown : ∀ id ∈ shownIds, id ∈ ownIds := by
    intro id hid
    simp only [shownIds, List.mem_cons, List.not_mem_nil, or_false] at hid
    rcases hid with rfl | rfl | rfl <;> simp [ownIds, frameIds]
  have hbare := (bare_empty title).with_content content
  refine ⟨?_, fun id hid => hbare.head_without (hown id hid), fun id _ => hbare.status_without id,
    hcontent, fun id hid => without_emptyPanelNodes.mono fun _ => isOwn_of_hasId (hown id hid)⟩
  show Without (Tag.isNamed "body") (emptyHead title)
  rw [Without, tagsAmong_emptyHead]
  rfl

end Layout

namespace Panel

open Html.Markup

/-! ## The templates -/

/-- The tag of the template for a key. -/
def templateTag (key : Text) : Tag := ⟨"template".toList, [("data-cite-detail".toList, key)]⟩

theorem keptTag_template (key : Text) :
    keptTag "template".toList [("data-cite-detail".toList, some key)] = templateTag key :=
  keptTag_singleton (by decide) (by decide) key

/-- What is inside the template of a reference. -/
def templateNodes (reference : Citation.Reference) : List Node :=
  built ["template".toList, "div".toList] [] (Reference.detailMarkup reference)

/-- There is one template for each reference, in order. -/
theorem built_templates (references : Assoc Citation.Reference) :
    built ["div".toList] [] (references.map fun entry => templateMarkup entry.1 entry.2) =
      references.map fun entry => .element (templateTag entry.1) (templateNodes entry.2) := by
  refine built_map (fun _ => rfl) fun entry _ => ?_
  rw [templateMarkup, built_element, keptTag_template]
  rfl

/-- What is in a template is written as what a click shows. -/
theorem printAll_templateNodes (reference : Citation.Reference) :
    printAll false (templateNodes reference) =
      printAll false (parsed (Reference.detail reference)) := by
  have halike : KeepAlike ["template".toList, "div".toList] [] := by
    unfold KeepAlike
    decide
  rw [parsed_of_parse (Reference.parse_detail reference)]
  exact printAll_built_congr halike false [] _ (Reference.arePlain_detailMarkup reference)

end Panel

namespace Page

open Layout Panel

/-- However often panels for the same references have been attached to a page, whatever its content
is, it has the details for the browser once and the script once.  There is one template for each
reference, in order, and what is written in it is what is written in the side panel after a
click. -/
theorem templates_agree_with_clicks (title : Text) (content : List Node)
    (references : List Citation.Reference) (panels : List Panel)
    (hkeys : (references.map Citation.Reference.key).Nodup)
    (hcontent : ∀ id ∈ [panelId, dataId, scriptId], Without (Tag.hasId id) content)
    (hpanels : panels ≠ [])
    (hreferences : ∀ panel ∈ panels, panel.references = (ofReferences references).references) :
    let page := attachAll panels ((empty title).modify (Tag.hasId contentId) fun _ => content)
    (tagsAmong page.nodes).countP (Tag.hasId dataId) = 1 ∧
    (tagsAmong page.nodes).countP (Tag.hasId scriptId) = 1 ∧
    List.Forall₂ (fun reference node => ∃ inner,
        node = .element ⟨"template".toList, [("data-cite-detail".toList, reference.key)]⟩ inner ∧
        ∀ panel ∈ panels,
          parse (Reference.detail reference) =
              .ok ((panel.click reference.key page).childrenOf panelId) ∧
            printAll false inner =
              printAll false ((panel.click reference.key page).childrenOf panelId))
      references (page.childrenOf dataId) := by
  intro page
  let start : Layout := { Layout.empty title with content := content }
  have hstart : start.Clear := clear_empty title hcontent
  have hfilled : ((empty title).modify (Tag.hasId contentId) fun _ => content) = start.page := by
    rw [page_empty]
    exact (bare_empty title).apart.modify_content fun _ => content
  obtain ⟨last, hlast, tail, hattached, htail⟩ := hstart.exists_attachAll_of_nil rfl hpanels
  have hpage : page = { start with tail := tail }.page :=
    (congrArg (attachAll panels) hfilled).trans hattached
  have hclear : { start with tail := tail }.Clear := hstart.with_tail tail
  have hdistinct :
      (Assoc.names (references.map fun reference => (reference.key, reference))).Nodup := by
    simpa [Assoc.names, Function.comp_def] using hkeys
  have htable : (ofReferences references).references =
      references.map fun reference => (reference.key, reference) :=
    Assoc.ofList_of_nodup hdistinct
  have hdetail (panel : Panel) (hpanel : panel ∈ panels) (reference : Citation.Reference)
      (hreference : reference ∈ references) :
      panel.detailFor reference.key = Reference.detail reference := by
    have hfound := Assoc.get?_of_mem hdistinct (List.mem_map_of_mem hreference)
    rw [detailFor, hreferences panel hpanel, htable, hfound]
  have hchildren : page.childrenOf dataId =
      references.map fun reference =>
        .element (templateTag reference.key) (templateNodes reference) := by
    rw [hpage, childrenOf, hclear.find?_extra (by simp), findAmong?_data_of_isFitted htail,
      dataNode, hreferences last hlast, htable]
    show Markup.built ["div".toList] [] _ = _
    rw [built_templates, List.map_map]
    rfl
  refine ⟨?_, ?_, ?_⟩
  · rw [hpage]
    exact (hclear.countP_extra (by simp)).trans (countP_of_isFitted htail (by simp))
  · rw [hpage]
    exact (hclear.countP_extra (by simp)).trans (countP_of_isFitted htail (by simp))
  · rw [hchildren, List.forall₂_map_right_iff, List.forall₂_same]
    intro reference hreference
    refine ⟨templateNodes reference, rfl, fun panel hpanel => ?_⟩
    have hclicked : (panel.click reference.key page).childrenOf panelId =
        parsed (Reference.detail reference) := by
      rw [hpage, hclear.childrenOf_panel_click, hdetail panel hpanel reference hreference]
    rw [hclicked]
    refine ⟨?_, printAll_templateNodes reference⟩
    have hread := Reference.parse_detail reference
    rw [parsed_of_parse hread, hread]

/-- A reference with marks in its key and in its title. -/
def markedReference : Citation.Reference :=
  { key := "a\"&lt;".toList, number := 1, fields := [("title".toList, "<b>".toList)] }

/-- A reference that is not in the bibliography. -/
def missingReference : Citation.Reference :=
  { key := ['k'], number := 2, fields := [("title".toList, ['k'])], missing := true }

theorem templates_agree_with_clicks_of_marked :
    let references := [markedReference, missingReference]
    let panel := ofReferences references
    let panels := [panel, { panel with handlers := [['k']] }, panel]
    let content := [Node.text .prose ['x']]
    let page := attachAll panels ((empty ['T']).modify (Tag.hasId contentId) fun _ => content)
    (references.map Citation.Reference.key).Nodup ∧
    (∀ id ∈ [panelId, dataId, scriptId], Without (Tag.hasId id) content) ∧
    (tagsAmong page.nodes).countP (Tag.hasId dataId) = 1 ∧
    (tagsAmong page.nodes).countP (Tag.hasId scriptId) = 1 ∧
    ∃ first second, page.childrenOf dataId =
        [.element ⟨"template".toList, [("data-cite-detail".toList, "a\"&lt;".toList)]⟩ first,
          .element ⟨"template".toList, [("data-cite-detail".toList, ['k'])]⟩ second] ∧
      printAll false first =
        ("<h3 class=\"detail-title\">[1] &lt;b&gt;</h3>".toList ++
          "<p class=\"detail-key\"><code>a\"&amp;lt;</code></p>".toList) := by
  intro references panel panels content page
  have hkeys : (references.map Citation.Reference.key).Nodup := by decide
  have hcontent : ∀ id ∈ [panelId, dataId, scriptId], Without (Tag.hasId id) content :=
    fun _ _ => rfl
  have hreferences : ∀ panel ∈ panels, panel.references = (ofReferences references).references := by
    intro panel hpanel
    simp only [panels, List.mem_cons, List.not_mem_nil, or_false] at hpanel
    rcases hpanel with rfl | rfl | rfl <;> rfl
  have hshown : printAll false (Markup.built [] [] (Reference.detailMarkup markedReference)) =
      "<h3 class=\"detail-title\">[1] &lt;b&gt;</h3>".toList ++
        "<p class=\"detail-key\"><code>a\"&amp;lt;</code></p>".toList := by
    decide +kernel
  have hall := templates_agree_with_clicks ['T'] content references panels hkeys hcontent
    (List.cons_ne_nil _ _) hreferences
  -- the page is named again, or else it is evaluated
  change (tagsAmong page.nodes).countP (Tag.hasId dataId) = 1 ∧
    (tagsAmong page.nodes).countP (Tag.hasId scriptId) = 1 ∧ _ at hall
  obtain ⟨hdata, hscript, htemplates⟩ := hall
  refine ⟨hkeys, hcontent, hdata, hscript, ?_⟩
  obtain ⟨node, rest, ⟨first, hfirst, hclicks⟩, hrest, hchildren⟩ :=
    List.forall₂_cons_left_iff.mp htemplates
  obtain ⟨node', rest', ⟨second, hsecond, -⟩, hnil, rfl⟩ := List.forall₂_cons_left_iff.mp hrest
  obtain rfl := List.forall₂_nil_left_iff.mp hnil
  obtain ⟨hpanel, hprint⟩ := hclicks panel (List.mem_cons_self ..)
  refine ⟨first, second, ?_, ?_⟩
  · subst hfirst hsecond
    exact hchildren
  · rw [Reference.parse_detail, Except.ok.injEq] at hpanel
    rw [hprint, ← hpanel, hshown]

end Page

end PaperHtml
